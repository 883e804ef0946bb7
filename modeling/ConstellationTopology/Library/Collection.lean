import Mathlib.Data.List.Dedup
import Mathlib.Data.List.MinMax
import Mathlib.Data.List.Sort

set_option autoImplicit false

/-! # Canonical collections

The list operations by which a program makes its output independent of the order of its input:
`sorted(set(…))` (`sortedSet`), a stable sort by a key (`sortedBy`), the elements that share a key
(`groupOf`) and a least element under a rank (`leastBy`). -/

namespace ConstellationTopology

variable {α β : Type*}

/-- Two lists with the same keys show the same where the key decides what is shown. -/
theorem map_eq_of_keys {γ δ : Type*} {f : α → β} {g : γ → β} {p : α → δ} {q : γ → δ} {xs : List α}
    {ys : List γ} (h : xs.map f = ys.map g)
    (hkey : ∀ x ∈ xs, ∀ y ∈ ys, f x = g y → p x = q y) : xs.map p = ys.map q := by
  induction xs generalizing ys with
  | nil => rw [List.map_eq_nil_iff.1 h.symm, List.map_nil, List.map_nil]
  | cons x xs ih =>
      cases ys with
      | nil => cases h
      | cons y ys =>
          simp only [List.map_cons, List.cons.injEq] at h
          rw [List.map_cons, List.map_cons, hkey x List.mem_cons_self y List.mem_cons_self h.1,
            ih h.2 fun x hx y hy => hkey x (List.mem_cons_of_mem _ hx) y (List.mem_cons_of_mem _ hy)]

section SortedSet

variable [LinearOrder α]

/-- `sorted(set(xs))`. -/
def sortedSet (xs : List α) : List α := xs.dedup.insertionSort (· ≤ ·)

@[simp] theorem mem_sortedSet {x : α} {xs : List α} : x ∈ sortedSet xs ↔ x ∈ xs := by
  simp [sortedSet]

theorem sortedSet_nodup (xs : List α) : (sortedSet xs).Nodup :=
  (List.perm_insertionSort _ _).nodup_iff.2 (List.nodup_dedup xs)

theorem sortedSet_sorted (xs : List α) : (sortedSet xs).Pairwise (· ≤ ·) :=
  List.pairwise_insertionSort (· ≤ ·) _

/-- Two collections with the same elements are presented alike. -/
theorem sortedSet_congr {xs ys : List α} (h : ∀ x, x ∈ xs ↔ x ∈ ys) :
    sortedSet xs = sortedSet ys := by
  have hperm : (sortedSet xs).Perm (sortedSet ys) := by
    rw [List.perm_ext_iff_of_nodup (sortedSet_nodup xs) (sortedSet_nodup ys)]
    intro x
    rw [mem_sortedSet, mem_sortedSet, h x]
  exact hperm.eq_of_pairwise (fun _ _ _ _ => le_antisymm) (sortedSet_sorted xs)
    (sortedSet_sorted ys)

theorem sortedSet_eq_iff {xs ys : List α} :
    sortedSet xs = sortedSet ys ↔ ∀ x, x ∈ xs ↔ x ∈ ys := by
  constructor
  · intro h x
    rw [← mem_sortedSet, h, mem_sortedSet]
  · exact sortedSet_congr

theorem sortedSet_perm {xs ys : List α} (h : xs.Perm ys) : sortedSet xs = sortedSet ys :=
  sortedSet_congr fun _ => h.mem_iff

theorem sortedSet_idem (xs : List α) : sortedSet (sortedSet xs) = sortedSet xs :=
  sortedSet_congr fun _ => mem_sortedSet

@[simp] theorem sortedSet_eq_nil_iff {xs : List α} : sortedSet xs = [] ↔ xs = [] := by
  constructor
  · intro h
    refine List.eq_nil_iff_forall_not_mem.2 fun x hx => ?_
    have := mem_sortedSet.2 hx
    rw [h] at this
    cases this
  · rintro rfl
    rfl

theorem one_lt_length_sortedSet_iff {xs : List α} :
    1 < (sortedSet xs).length ↔ ∃ x ∈ xs, ∃ y ∈ xs, x ≠ y := by
  constructor
  · intro h
    match hs : sortedSet xs with
    | [] => simp [hs] at h
    | [x] => simp [hs] at h
    | x :: y :: rest =>
        have hnodup := sortedSet_nodup xs
        rw [hs] at hnodup
        refine ⟨x, mem_sortedSet.1 (by simp [hs]), y, mem_sortedSet.1 (by simp [hs]), ?_⟩
        rintro rfl
        simp at hnodup
  · rintro ⟨x, hx, y, hy, hne⟩
    by_contra hle
    have hsub : ∀ z ∈ sortedSet xs, ∀ w ∈ sortedSet xs, z = w := by
      match hs : sortedSet xs with
      | [] => simp
      | [z] => simp
      | z :: w :: rest =>
          rw [hs] at hle
          simp at hle
    exact hne (hsub x (mem_sortedSet.2 hx) y (mem_sortedSet.2 hy))

end SortedSet

/-! ## Sorting by a key -/

section SortedBy

variable [LinearOrder β]

/-- `sorted(xs, key=…)`, a stable sort. -/
def sortedBy (key : α → β) (xs : List α) : List α := xs.insertionSort fun a b => key a ≤ key b

theorem sortedBy_perm (key : α → β) (xs : List α) : (sortedBy key xs).Perm xs :=
  List.perm_insertionSort _ _

@[simp] theorem mem_sortedBy {key : α → β} {x : α} {xs : List α} :
    x ∈ sortedBy key xs ↔ x ∈ xs :=
  (sortedBy_perm key xs).mem_iff

theorem sortedBy_id_of_nodup {xs : List β} (h : xs.Nodup) : sortedBy id xs = sortedSet xs := by
  rw [sortedSet, h.dedup]
  rfl

theorem sortedBy_nil (key : α → β) : sortedBy key [] = [] := rfl

theorem sortedBy_singleton (key : α → β) (x : α) : sortedBy key [x] = [x] := rfl

theorem sortedBy_sorted (key : α → β) (xs : List α) :
    (sortedBy key xs).Pairwise fun a b => key a ≤ key b := by
  have : Std.Total fun a b : α => key a ≤ key b := ⟨fun a b => le_total (key a) (key b)⟩
  have : IsTrans α fun a b => key a ≤ key b := ⟨fun _ _ _ => le_trans⟩
  exact List.pairwise_insertionSort _ xs

/-- Two lists in the order of a key that no element repeats are equal if they have the same
    elements. -/
theorem eq_of_sorted_of_mem_iff {key : α → β} {xs ys : List α}
    (hxs : xs.Pairwise fun a b => key a ≤ key b) (hys : ys.Pairwise fun a b => key a ≤ key b)
    (hxsKeys : (xs.map key).Nodup) (hysKeys : (ys.map key).Nodup) (h : ∀ x, x ∈ xs ↔ x ∈ ys) :
    xs = ys := by
  have hperm : xs.Perm ys := (List.perm_ext_iff_of_nodup hxsKeys.of_map hysKeys.of_map).2 h
  refine hperm.eq_of_pairwise ?_ hxs hys
  intro x y hx hy hxy hyx
  exact List.inj_on_of_nodup_map hxsKeys hx ((h y).2 hy) (le_antisymm hxy hyx)

/-- Where the key tells the elements apart, the order of the input does not matter. -/
theorem sortedBy_congr {key : α → β} {xs ys : List α}
    (hkey : ∀ x ∈ xs, ∀ y ∈ xs, key x = key y → x = y) (h : xs.Perm ys) :
    sortedBy key xs = sortedBy key ys := by
  have hperm : (sortedBy key xs).Perm (sortedBy key ys) :=
    (sortedBy_perm key xs).trans (h.trans (sortedBy_perm key ys).symm)
  refine hperm.eq_of_pairwise ?_ (sortedBy_sorted key xs) (sortedBy_sorted key ys)
  intro x y hx hy hxy hyx
  exact hkey x (mem_sortedBy.1 hx) y (h.mem_iff.2 (mem_sortedBy.1 hy)) (le_antisymm hxy hyx)

/-- Sorting commutes with a map that carries the key along. -/
theorem sortedBy_map {γ : Type*} {key : α → β} {key' : γ → β} {f : γ → α} (xs : List γ)
    (h : ∀ x ∈ xs, key (f x) = key' x) :
    sortedBy key (xs.map f) = (sortedBy key' xs).map f := by
  unfold sortedBy
  induction xs with
  | nil => rfl
  | cons x rest ih =>
      have hinsert : ∀ ys : List γ, (∀ y ∈ ys, key (f y) = key' y) →
          (ys.map f).orderedInsert (fun a b => key a ≤ key b) (f x) =
            (ys.orderedInsert (fun a b => key' a ≤ key' b) x).map f := by
        intro ys hys
        induction ys with
        | nil => rfl
        | cons y ys ihys =>
            have hx := h x List.mem_cons_self
            have hy := hys y List.mem_cons_self
            simp only [List.map_cons, List.orderedInsert_cons, hx, hy]
            split
            · rfl
            · rw [List.map_cons, ihys fun z hz => hys z (List.mem_cons_of_mem _ hz)]
      rw [List.map_cons, List.insertionSort_cons, List.insertionSort_cons,
        ih fun y hy => h y (List.mem_cons_of_mem _ hy)]
      refine hinsert _ fun y hy => h y (List.mem_cons_of_mem _ ?_)
      exact (List.perm_insertionSort _ _).mem_iff.1 hy

end SortedBy

/-! ## The greatest that passes a test -/

section Greatest

variable [LinearOrder β]

/-- Looked for from the greatest key down, the first element that passes is the greatest that
    does. -/
theorem find?_reverse_sortedBy {key : α → β} {p : α → Bool} {xs : List α} {x : α}
    (h : (sortedBy key xs).reverse.find? p = some x) :
    x ∈ xs ∧ p x = true ∧ ∀ y ∈ xs, p y = true → key y ≤ key x := by
  have hmem := mem_sortedBy.1 (List.mem_reverse.1 (List.mem_of_find?_eq_some h))
  refine ⟨hmem, List.find?_some h, ?_⟩
  intro y hy hpy
  obtain ⟨_, before, after, happend, hbefore⟩ := List.find?_eq_some_iff_append.1 h
  have hsorted := List.pairwise_reverse.2 (sortedBy_sorted key xs)
  rw [happend, List.pairwise_append] at hsorted
  have hin : y ∈ before ++ x :: after := happend ▸ List.mem_reverse.2 (mem_sortedBy.2 hy)
  rcases List.mem_append.1 hin with hearlier | hlater
  · -- what stands before the first that passes does not pass
    have hfails := hbefore y hearlier
    rw [hpy] at hfails
    cases hfails
  · rcases List.mem_cons.1 hlater with rfl | hlater
    · exact le_rfl
    · exact (List.pairwise_cons.1 hsorted.2.1).1 y hlater

theorem find?_reverse_sortedBy_isSome {key : α → β} {p : α → Bool} {xs : List α} :
    ((sortedBy key xs).reverse.find? p).isSome ↔ ∃ x ∈ xs, p x = true := by
  rw [List.find?_isSome]
  simp only [List.mem_reverse, mem_sortedBy]

end Greatest

/-! ## Groups -/

section GroupOf

variable [DecidableEq β]

/-- The elements with the key, in their order. -/
def groupOf (key : α → β) (k : β) (xs : List α) : List α := xs.filter fun x => key x = k

@[simp] theorem mem_groupOf {key : α → β} {k : β} {x : α} {xs : List α} :
    x ∈ groupOf key k xs ↔ x ∈ xs ∧ key x = k := by
  simp [groupOf]

/-- Where no key stands twice the group of an element is the element. -/
theorem groupOf_of_nodup {key : α → β} {xs : List α} (h : (xs.map key).Nodup) {x : α}
    (hx : x ∈ xs) : groupOf key (key x) xs = [x] := by
  induction xs with
  | nil => cases hx
  | cons head rest ih =>
      rw [List.map_cons, List.nodup_cons] at h
      rcases List.mem_cons.1 hx with rfl | hx
      · have hrest : groupOf key (key x) rest = [] := by
          refine List.filter_eq_nil_iff.2 fun other hother => ?_
          have hne : key other ≠ key x := fun heq => h.1 (heq ▸ List.mem_map_of_mem hother)
          simpa using hne
        rw [groupOf] at hrest ⊢
        rw [List.filter_cons_of_pos (by simp), hrest]
      · have hne : key head ≠ key x := fun heq => h.1 (heq ▸ List.mem_map_of_mem hx)
        have hgroup := ih h.2 hx
        rw [groupOf] at hgroup ⊢
        rw [List.filter_cons_of_neg (by simpa using hne), hgroup]

theorem groupOf_perm {key : α → β} {xs ys : List α} (k : β) (h : xs.Perm ys) :
    (groupOf key k xs).Perm (groupOf key k ys) :=
  h.filter _

end GroupOf

/-- Sorting by a key keeps the order inside its groups. -/
theorem groupOf_sortedBy [LinearOrder β] (key : α → β) (k : β) (xs : List α) :
    groupOf key k (sortedBy key xs) = groupOf key k xs := by
  have hpairwise : (groupOf key k xs).Pairwise fun a b => key a ≤ key b :=
    List.pairwise_of_forall_mem_list fun a ha b hb =>
      ((mem_groupOf.1 ha).2.trans (mem_groupOf.1 hb).2.symm).le
  have hsublist : (groupOf key k xs).Sublist (sortedBy key xs) :=
    List.sublist_insertionSort hpairwise List.filter_sublist
  have hgroup := hsublist.filter fun x => decide (key x = k)
  rw [groupOf, List.filter_filter] at hgroup
  simp only [Bool.and_self] at hgroup
  exact (hgroup.eq_of_length (groupOf_perm k (sortedBy_perm key xs)).symm.length_eq).symm

/-- What only the element of one key gives is given by it alone. -/
theorem flatMap_of_nodup {γ : Type*} {key : α → β} {f : α → List γ} {xs : List α}
    (h : (xs.map key).Nodup) {x : α} (hx : x ∈ xs)
    (hf : ∀ y ∈ xs, key y ≠ key x → f y = []) : xs.flatMap f = f x := by
  induction xs with
  | nil => cases hx
  | cons head rest ih =>
      rw [List.map_cons, List.nodup_cons] at h
      rcases List.mem_cons.1 hx with rfl | hx
      · have hrest : rest.flatMap f = [] := by
          refine List.flatMap_eq_nil_iff.2 fun y hy => hf y (List.mem_cons_of_mem _ hy) ?_
          exact fun heq => h.1 (heq ▸ List.mem_map_of_mem hy)
        rw [List.flatMap_cons, hrest, List.append_nil]
      · have hhead : f head = [] :=
          hf head List.mem_cons_self fun heq => h.1 (heq ▸ List.mem_map_of_mem hx)
        rw [List.flatMap_cons, hhead, List.nil_append]
        exact ih h.2 hx fun y hy => hf y (List.mem_cons_of_mem _ hy)

/-- What the keys give has no repetition if none of the keys gives one and a tag tells apart what
    different keys give. -/
theorem nodup_map_flatMap {γ δ : Type*} {keys : List α} {f : α → List γ} {g : γ → δ} (tag : δ → α)
    (hkeys : keys.Nodup) (htag : ∀ k ∈ keys, ∀ x ∈ f k, tag (g x) = k)
    (hnodup : ∀ k ∈ keys, ((f k).map g).Nodup) : ((keys.flatMap f).map g).Nodup := by
  rw [List.map_flatMap, List.nodup_flatMap]
  refine ⟨hnodup, ?_⟩
  refine List.Pairwise.imp_of_mem ?_ hkeys
  intro k k' hk hk' hne y hy hy'
  obtain ⟨x, hx, rfl⟩ := List.mem_map.1 hy
  obtain ⟨x', hx', heq⟩ := List.mem_map.1 hy'
  exact hne (by rw [← htag k hk x hx, ← heq, htag k' hk' x' hx'])

/-- What is found for some of the elements bears their keys in their order. -/
theorem map_filterMap_sublist {γ : Type*} (key : α → β) {f : α → Option γ} {g : γ → β}
    (xs : List α) (h : ∀ x y, f x = some y → g y = key x) :
    ((xs.filterMap f).map g).Sublist (xs.map key) := by
  induction xs with
  | nil => exact .slnil
  | cons x rest ih =>
      cases hx : f x with
      | none =>
          rw [List.filterMap_cons_none hx]
          exact ih.cons _
      | some y =>
          rw [List.filterMap_cons_some hx, List.map_cons, List.map_cons, h x y hx]
          exact ih.cons_cons _

/-- A loop that contributes one element or none. -/
theorem flatMap_ite_singleton {p : α → Prop} [DecidablePred p] {f : α → β} (xs : List α) :
    (xs.flatMap fun x => if p x then [f x] else []) = (xs.filter p).map f := by
  induction xs with
  | nil => rfl
  | cons x rest ih =>
      rw [List.flatMap_cons, ih, List.filter_cons]
      by_cases h : p x
      · simp [h]
      · simp [h]

/-! ## Least elements -/

section LeastBy

variable [LinearOrder β]

/-- `min(xs, key=rank, default=default)`. -/
def leastBy (rank : α → β) (default : α) (xs : List α) : α := (xs.argmin rank).getD default

theorem leastBy_le {rank : α → β} {default x : α} {xs : List α} (h : x ∈ xs) :
    rank (leastBy rank default xs) ≤ rank x := by
  unfold leastBy
  cases hmin : xs.argmin rank with
  | none =>
      rw [List.argmin_eq_none.1 hmin] at h
      cases h
  | some y => exact List.le_of_mem_argmin h hmin

/-- Under an injective rank the least element depends on the members only. -/
theorem leastBy_congr {rank : α → β} (hrank : Function.Injective rank) (default : α)
    {xs ys : List α} (h : ∀ x, x ∈ xs ↔ x ∈ ys) :
    leastBy rank default xs = leastBy rank default ys := by
  unfold leastBy
  cases hx : xs.argmin rank with
  | none =>
      have hys : ys = [] := by
        refine List.eq_nil_iff_forall_not_mem.2 fun y hy => ?_
        have := (h y).2 hy
        rw [List.argmin_eq_none.1 hx] at this
        cases this
      rw [hys]
      rfl
  | some x =>
      cases hy : ys.argmin rank with
      | none =>
          have := (h x).1 (List.argmin_mem hx)
          rw [List.argmin_eq_none.1 hy] at this
          cases this
      | some y =>
          have hxy := List.le_of_mem_argmin ((h y).2 (List.argmin_mem hy)) hx
          have hyx := List.le_of_mem_argmin ((h x).1 (List.argmin_mem hx)) hy
          exact hrank (le_antisymm hxy hyx)

end LeastBy

/-- The least of a first element and those after it, as the fold finds it. -/
theorem foldl_least {β : Type*} [LinearOrder β] [DecidableLT β] (first : β) (rest : List β) :
    let least := rest.foldl (fun least x => if x < least then x else least) first
    (least = first ∨ least ∈ rest) ∧ least ≤ first ∧ ∀ x ∈ rest, least ≤ x := by
  induction rest generalizing first with
  | nil => simp
  | cons head rest ih =>
      dsimp only
      rw [List.foldl_cons]
      by_cases hlt : head < first
      · rw [if_pos hlt]
        obtain ⟨hmem, hle, hrest⟩ := ih head
        refine ⟨Or.inr ?_, hle.trans hlt.le, ?_⟩
        · rcases hmem with heq | hmem
          · exact List.mem_cons.2 (Or.inl heq)
          · exact List.mem_cons_of_mem _ hmem
        · intro x hx
          rcases List.mem_cons.1 hx with rfl | hx
          · exact hle
          · exact hrest x hx
      · rw [if_neg hlt]
        obtain ⟨hmem, hle, hrest⟩ := ih first
        refine ⟨?_, hle, ?_⟩
        · rcases hmem with heq | hmem
          · exact Or.inl heq
          · exact Or.inr (List.mem_cons_of_mem _ hmem)
        · intro x hx
          rcases List.mem_cons.1 hx with rfl | hx
          · exact hle.trans (not_lt.1 hlt)
          · exact hrest x hx

/-- In the order of a rank the last element is the one of the greatest rank. -/
theorem getLast?_eq_some_iff_of_pairwise {α β : Type*} [Preorder β] {rank : α → β} {xs : List α}
    (h : xs.Pairwise fun x y => rank x < rank y) {x : α} :
    xs.getLast? = some x ↔ x ∈ xs ∧ ∀ y ∈ xs, rank y ≤ rank x := by
  constructor
  · intro hlast
    obtain ⟨before, rfl⟩ := List.getLast?_eq_some_iff.1 hlast
    refine ⟨List.mem_append_right _ (List.mem_singleton_self x), ?_⟩
    intro y hy
    rcases List.mem_append.1 hy with hbefore | hself
    · exact ((List.pairwise_append.1 h).2.2 y hbefore x (List.mem_singleton_self x)).le
    · rw [List.mem_singleton.1 hself]
  · rintro ⟨hx, hmax⟩
    obtain ⟨before, last, rfl⟩ := List.eq_nil_or_concat' xs |>.resolve_left
      (List.ne_nil_of_mem hx)
    rw [List.getLast?_concat]
    rcases List.mem_append.1 hx with hbefore | hself
    · have hlt := (List.pairwise_append.1 h).2.2 x hbefore last (List.mem_singleton_self last)
      exact absurd hlt (hmax last (List.mem_append_right _ (List.mem_singleton_self last))).not_gt
    · rw [List.mem_singleton.1 hself]

/-! ## Association lists -/

theorem mem_of_lookup {α β : Type*} [BEq α] [LawfulBEq α] {k : α} {v : β} {rows : List (α × β)}
    (h : rows.lookup k = some v) : (k, v) ∈ rows := by
  obtain ⟨before, after, rfl, -⟩ := List.lookup_eq_some_iff.1 h
  exact List.mem_append_right before (List.mem_cons_self ..)

/-- Entries left out by their keys are not found, and the others are found as before. -/
theorem lookup_filter_keys {α β : Type*} [BEq α] [LawfulBEq α] (p : α → Bool) {k : α}
    (rows : List (α × β)) :
    (rows.filter fun row => p row.1).lookup k = if p k then rows.lookup k else none := by
  induction rows with
  | nil => simp
  | cons row rest ih =>
      obtain ⟨name, value⟩ := row
      by_cases hname : k = name
      · subst hname
        by_cases hp : p k
        · rw [List.filter_cons, if_pos hp, if_pos hp, List.lookup_cons_self, List.lookup_cons_self]
        · rw [List.filter_cons, if_neg hp, if_neg hp, ih, if_neg hp]
      · have hne : (k == name) = false := beq_eq_false_iff_ne.2 hname
        rw [List.filter_cons, List.lookup_cons, hne]
        split
        · rw [List.lookup_cons, hne, ih]
        · exact ih

end ConstellationTopology
