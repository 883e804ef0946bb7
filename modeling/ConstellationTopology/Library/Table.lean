import Mathlib.Data.List.Induction
import Mathlib.Data.List.Nodup
import Mathlib.Order.Basic

set_option autoImplicit false

/-! # Keyed tables

A relational table with a primary key: a list of rows in which no key occurs twice. The constraint
is a field of the structure, so every operation proves it once and a reader of a row never has to
ask whether another row has the same key. A further `UNIQUE` column is stated by the client with
`upsertRows_column_nodup`. -/

namespace ConstellationTopology

variable {ρ κ ν : Type*}

/-- Rows in which the column `key` is a primary key. -/
structure Table (key : ρ → κ) where
  rows : List ρ
  keys_nodup : (rows.map key).Nodup

variable [DecidableEq κ]

/-! ## The upsert on a plain row list -/

/-- Replace the row with `row`'s key in place, or append `row` when there is none. -/
def upsertRows (key : ρ → κ) (row : ρ) : List ρ → List ρ
  | [] => [row]
  | r :: rest => if key r = key row then row :: rest else r :: upsertRows key row rest

theorem map_key_upsertRows_of_mem {key : ρ → κ} {row : ρ} {rows : List ρ}
    (h : key row ∈ rows.map key) : (upsertRows key row rows).map key = rows.map key := by
  induction rows with
  | nil => simp at h
  | cons r rest ih =>
      simp only [upsertRows]
      split
      · next he => simp [he]
      · next hne =>
          have hmem : key row ∈ rest.map key := by
            rcases List.mem_cons.1 h with heq | hin
            · exact absurd heq.symm hne
            · exact hin
          simp [ih hmem]

theorem upsertRows_of_not_mem {key : ρ → κ} {row : ρ} {rows : List ρ}
    (h : key row ∉ rows.map key) : upsertRows key row rows = rows ++ [row] := by
  induction rows with
  | nil => rfl
  | cons r rest ih =>
      simp only [List.map_cons, List.mem_cons, not_or] at h
      simp only [upsertRows, if_neg (Ne.symm h.1), ih h.2, List.cons_append]

/-- The rows around the place of a key. -/
theorem exists_upsertRows_split (key : ρ → κ) (k : κ) (rows : List ρ) :
    ∃ before after, ∀ row, key row = k → upsertRows key row rows = before ++ row :: after := by
  induction rows with
  | nil => exact ⟨[], [], fun _ _ => rfl⟩
  | cons r rest ih =>
      by_cases hr : key r = k
      · exact ⟨[], rest, fun row hrow => by simp [upsertRows, hr, hrow]⟩
      · obtain ⟨before, after, hsplit⟩ := ih
        refine ⟨r :: before, after, fun row hrow => ?_⟩
        rw [upsertRows, if_neg (by rwa [hrow]), hsplit row hrow, List.cons_append]

theorem upsertRows_keys_nodup {key : ρ → κ} {row : ρ} {rows : List ρ}
    (h : (rows.map key).Nodup) : ((upsertRows key row rows).map key).Nodup := by
  by_cases hmem : key row ∈ rows.map key
  · rwa [map_key_upsertRows_of_mem hmem]
  · rw [upsertRows_of_not_mem hmem, List.map_append, List.nodup_append]
    refine ⟨h, by simp, ?_⟩
    intro a ha b hb
    simp only [List.map_cons, List.map_nil, List.mem_singleton] at hb
    subst hb
    exact fun heq => hmem (heq ▸ ha)

/-- The rows after an upsert are the new row and the old rows with another key. -/
theorem mem_upsertRows {key : ρ → κ} {row r : ρ} {rows : List ρ} (h : (rows.map key).Nodup) :
    r ∈ upsertRows key row rows ↔ r = row ∨ (r ∈ rows ∧ key r ≠ key row) := by
  induction rows with
  | nil => simp [upsertRows]
  | cons x rest ih =>
      simp only [List.map_cons, List.nodup_cons] at h
      obtain ⟨hx, hrest⟩ := h
      simp only [upsertRows]
      split
      · next he =>
          -- the replaced row is the only one with that key, so `rest` has no other
          have hother : ∀ y ∈ rest, key y ≠ key row := fun y hy heq =>
            hx (he ▸ heq ▸ List.mem_map_of_mem hy)
          constructor
          · intro hr
            rcases List.mem_cons.1 hr with rfl | hr
            · exact Or.inl rfl
            · exact Or.inr ⟨List.mem_cons_of_mem _ hr, hother r hr⟩
          · rintro (rfl | ⟨hr, hne⟩)
            · exact List.mem_cons_self
            · rcases List.mem_cons.1 hr with rfl | hr
              · exact absurd he hne
              · exact List.mem_cons_of_mem _ hr
      · next hne =>
          rw [List.mem_cons, ih hrest, List.mem_cons]
          constructor
          · rintro (rfl | rfl | ⟨hr, hk⟩)
            · exact Or.inr ⟨Or.inl rfl, hne⟩
            · exact Or.inl rfl
            · exact Or.inr ⟨Or.inr hr, hk⟩
          · rintro (rfl | ⟨rfl | hr, hk⟩)
            · exact Or.inr (Or.inl rfl)
            · exact Or.inl rfl
            · exact Or.inr (Or.inr ⟨hr, hk⟩)

/-- A row that a test refuses leaves those it accepts alone, unless it takes one of their keys. -/
theorem filter_upsertRows {key : ρ → κ} {row : ρ} {rows : List ρ} {p : ρ → Bool}
    (hrefused : p row = false) (hkeys : ∀ r ∈ rows, p r = true → key r ≠ key row) :
    (upsertRows key row rows).filter p = rows.filter p := by
  induction rows with
  | nil => simp [upsertRows, hrefused]
  | cons r rest ih =>
      by_cases hkey : key r = key row
      · have hr : p r ≠ true := fun hp => hkeys r List.mem_cons_self hp hkey
        simp [upsertRows, hkey, hrefused, hr]
      · rw [upsertRows, if_neg hkey, List.filter_cons, List.filter_cons,
          ih fun x hx => hkeys x (List.mem_cons_of_mem _ hx)]

/-- A second column without duplicates keeps none, provided no row of another key already has the
    new row's value. -/
theorem upsertRows_column_nodup {key : ρ → κ} {col : ρ → ν} {row : ρ} {rows : List ρ}
    (hkey : (rows.map key).Nodup) (hcol : (rows.map col).Nodup)
    (hfree : ∀ r ∈ rows, col r = col row → key r = key row) :
    ((upsertRows key row rows).map col).Nodup := by
  induction rows with
  | nil => simp [upsertRows]
  | cons x rest ih =>
      simp only [List.map_cons, List.nodup_cons] at hkey hcol
      obtain ⟨hxkey, hkeyRest⟩ := hkey
      obtain ⟨hxcol, hcolRest⟩ := hcol
      simp only [upsertRows]
      split
      · next he =>
          simp only [List.map_cons, List.nodup_cons]
          refine ⟨?_, hcolRest⟩
          intro hin
          obtain ⟨y, hy, hycol⟩ := List.mem_map.1 hin
          have hykey := hfree y (List.mem_cons_of_mem _ hy) hycol
          exact hxkey (List.mem_map.2 ⟨y, hy, hykey.trans he.symm⟩)
      · next hne =>
          simp only [List.map_cons, List.nodup_cons]
          refine ⟨?_, ih hkeyRest hcolRest fun r hr => hfree r (List.mem_cons_of_mem _ hr)⟩
          intro hin
          obtain ⟨y, hy, hycol⟩ := List.mem_map.1 hin
          rcases (mem_upsertRows hkeyRest).1 hy with rfl | ⟨hy, -⟩
          · exact hne (hfree x List.mem_cons_self hycol.symm)
          · exact hxcol (List.mem_map.2 ⟨y, hy, hycol⟩)

/-! ## The table operations -/

namespace Table

variable {key : ρ → κ}

/-- The empty table. -/
def empty : Table key := ⟨[], List.nodup_nil⟩

/-- `SELECT * … WHERE key = k`. -/
def lookup (t : Table key) (k : κ) : Option ρ := t.rows.find? fun r => key r = k

/-- `SELECT * … WHERE col = v`, first row. -/
def lookupBy [DecidableEq ν] (t : Table key) (col : ρ → ν) (v : ν) : Option ρ :=
  t.rows.find? fun r => col r = v

/-- `INSERT … ON CONFLICT(key) DO UPDATE`. -/
def upsert (t : Table key) (row : ρ) : Table key :=
  ⟨upsertRows key row t.rows, upsertRows_keys_nodup t.keys_nodup⟩

@[simp] theorem lookup_empty (k : κ) : (empty : Table key).lookup k = none := rfl

theorem lookup_eq_some_iff (t : Table key) (k : κ) (r : ρ) :
    t.lookup k = some r ↔ r ∈ t.rows ∧ key r = k := by
  constructor
  · intro h
    exact ⟨List.mem_of_find?_eq_some h, by simpa using List.find?_some h⟩
  · rintro ⟨hr, rfl⟩
    unfold lookup
    cases hf : t.rows.find? fun x => key x = key r with
    | none => simpa using List.find?_eq_none.1 hf r hr
    | some x =>
        have hx : x ∈ t.rows := List.mem_of_find?_eq_some hf
        have hk : key x = key r := by simpa using List.find?_some hf
        rw [List.inj_on_of_nodup_map t.keys_nodup hx hr hk]

theorem lookup_eq_none_iff (t : Table key) (k : κ) :
    t.lookup k = none ↔ ∀ r ∈ t.rows, key r ≠ k := by
  simp [lookup, List.find?_eq_none]

omit [DecidableEq κ] in
theorem lookupBy_eq_none_iff [DecidableEq ν] (t : Table key) (col : ρ → ν) (v : ν) :
    t.lookupBy col v = none ↔ ∀ r ∈ t.rows, col r ≠ v := by
  simp [lookupBy, List.find?_eq_none]

omit [DecidableEq κ] in
/-- A `UNIQUE` column finds the one row that has the value. -/
theorem lookupBy_eq_some_iff [DecidableEq ν] (t : Table key) {col : ρ → ν} (v : ν) (r : ρ)
    (hcol : (t.rows.map col).Nodup) : t.lookupBy col v = some r ↔ r ∈ t.rows ∧ col r = v :=
  lookup_eq_some_iff (⟨t.rows, hcol⟩ : Table col) v r

theorem lookup_key {t : Table key} {k : κ} {r : ρ} (h : t.lookup k = some r) : key r = k :=
  ((lookup_eq_some_iff t k r).1 h).2

theorem lookup_mem {t : Table key} {k : κ} {r : ρ} (h : t.lookup k = some r) : r ∈ t.rows :=
  ((lookup_eq_some_iff t k r).1 h).1

theorem mem_upsert (t : Table key) (row r : ρ) :
    r ∈ (t.upsert row).rows ↔ r = row ∨ (r ∈ t.rows ∧ key r ≠ key row) :=
  mem_upsertRows t.keys_nodup

@[simp] theorem lookup_upsert_self (t : Table key) (row : ρ) :
    (t.upsert row).lookup (key row) = some row := by
  rw [lookup_eq_some_iff, mem_upsert]
  exact ⟨Or.inl rfl, rfl⟩

/-- Frame: an upsert changes no row of another key. -/
theorem lookup_upsert_ne (t : Table key) {row : ρ} {k : κ} (h : k ≠ key row) :
    (t.upsert row).lookup k = t.lookup k := by
  ext r
  rw [lookup_eq_some_iff, lookup_eq_some_iff, mem_upsert]
  constructor
  · rintro ⟨rfl | ⟨hr, -⟩, hk⟩
    · exact absurd hk.symm h
    · exact ⟨hr, hk⟩
  · rintro ⟨hr, rfl⟩
    exact ⟨Or.inr ⟨hr, h⟩, rfl⟩

theorem lookup_upsert (t : Table key) (row : ρ) (k : κ) :
    (t.upsert row).lookup k = if k = key row then some row else t.lookup k := by
  split
  · next h => rw [h, lookup_upsert_self]
  · next h => exact lookup_upsert_ne t h

theorem mem_rows_iff (t : Table key) (r : ρ) : r ∈ t.rows ↔ t.lookup (key r) = some r := by
  rw [lookup_eq_some_iff]
  exact ⟨fun h => ⟨h, rfl⟩, fun h => h.1⟩

/-! ## Filling a table -/

/-- `{key(row): row for row in rows}`: the last row of a key wins. -/
def ofRows (key : ρ → κ) (rows : List ρ) : Table key := rows.foldl upsert empty

theorem lookup_foldl_upsert_last (rows : List ρ) (t : Table key) (k : κ) :
    (rows.foldl upsert t).lookup k =
      ((rows.filter fun r => key r = k).getLast?).or (t.lookup k) := by
  induction rows generalizing t with
  | nil => rfl
  | cons r rest ih =>
      rw [List.foldl_cons, ih, lookup_upsert, List.filter_cons]
      by_cases hk : key r = k
      · simp only [hk, if_true, decide_true, List.getLast?_cons]
        cases (rest.filter fun r => key r = k).getLast? <;> rfl
      · simp [hk, Ne.symm hk]

theorem lookup_ofRows (rows : List ρ) (k : κ) :
    (ofRows key rows).lookup k = (rows.filter fun r => key r = k).getLast? := by
  rw [ofRows, lookup_foldl_upsert_last, lookup_empty, Option.or_none]

/-- Steps that each rewrite the row of one key, under distinct keys. -/
theorem lookup_foldl_alter {f : κ → Option ρ → ρ}
    (hkey : ∀ k row, (∀ r ∈ row, key r = k) → key (f k row) = k) {keys : List κ}
    (hnodup : keys.Nodup) (t : Table key) (k : κ) :
    (keys.foldl (fun t k => t.upsert (f k (t.lookup k))) t).lookup k =
      if k ∈ keys then some (f k (t.lookup k)) else t.lookup k := by
  induction keys generalizing t with
  | nil => simp
  | cons head rest ih =>
      rw [List.nodup_cons] at hnodup
      have hhead : key (f head (t.lookup head)) = head :=
        hkey head _ fun r hr => lookup_key hr
      rw [List.foldl_cons, ih hnodup.2, lookup_upsert, hhead]
      by_cases hk : k = head
      · subst hk
        simp [hnodup.1]
      · simp [hk]

/-! ## Union -/

/-- Put every row of `s` into `t`. -/
def union (t s : Table key) : Table key := s.rows.foldl upsert t

theorem lookup_foldl_upsert (rows : List ρ) (t : Table key) (k : κ)
    (hnodup : (rows.map key).Nodup) :
    (rows.foldl upsert t).lookup k = (rows.find? fun r => key r = k).or (t.lookup k) := by
  induction rows generalizing t with
  | nil => rfl
  | cons r rest ih =>
      rw [List.map_cons, List.nodup_cons] at hnodup
      rw [List.foldl_cons, ih _ hnodup.2, lookup_upsert, List.find?_cons]
      by_cases hk : key r = k
      · -- no later row has that key
        have hnone : (rest.find? fun x => key x = k) = none := by
          rw [List.find?_eq_none]
          intro x hx
          simp only [decide_eq_true_eq]
          exact fun heq => hnodup.1 (List.mem_map.2 ⟨x, hx, heq.trans hk.symm⟩)
        simp [hnone, hk]
      · simp [hk, Ne.symm hk]

theorem lookup_union (t s : Table key) (k : κ) :
    (t.union s).lookup k = (s.lookup k).or (t.lookup k) :=
  lookup_foldl_upsert s.rows t k s.keys_nodup

/-- Rows without a repeated key are all kept. -/
theorem lookup_ofRows_of_nodup {rows : List ρ} (hnodup : (rows.map key).Nodup) (k : κ) (r : ρ) :
    (ofRows key rows).lookup k = some r ↔ r ∈ rows ∧ key r = k := by
  have hrows : ofRows key rows = (empty : Table key).union ⟨rows, hnodup⟩ := rfl
  rw [hrows, union, lookup_foldl_upsert _ _ _ hnodup, lookup_empty, Option.or_none]
  exact lookup_eq_some_iff ⟨rows, hnodup⟩ k r

/-- What is found was put in. -/
theorem mem_of_lookup_ofRows {rows : List ρ} {k : κ} {r : ρ}
    (h : (ofRows key rows).lookup k = some r) : r ∈ rows ∧ key r = k := by
  rw [lookup_ofRows] at h
  simpa using List.mem_of_getLast? h

theorem lookup_ofRows_eq_none_iff {rows : List ρ} {k : κ} :
    (ofRows key rows).lookup k = none ↔ k ∉ rows.map key := by
  rw [lookup_ofRows, List.getLast?_eq_none_iff, List.filter_eq_nil_iff]
  simp

theorem ofRows_append_singleton (rows : List ρ) (row : ρ) :
    ofRows key (rows ++ [row]) = (ofRows key rows).upsert row := by
  rw [ofRows, List.foldl_append]
  rfl

theorem mem_keys_ofRows {rows : List ρ} {k : κ} :
    k ∈ (ofRows key rows).rows.map key ↔ k ∈ rows.map key := by
  have hfree : k ∉ (ofRows key rows).rows.map key ↔ (ofRows key rows).lookup k = none := by
    rw [lookup_eq_none_iff]
    simp
  exact not_iff_not.1 (hfree.trans lookup_ofRows_eq_none_iff)

/-- Every row leaves one of its key. -/
theorem exists_mem_ofRows {rows : List ρ} {r : ρ} (h : r ∈ rows) :
    ∃ kept ∈ (ofRows key rows).rows, key kept = key r :=
  List.mem_map.1 (mem_keys_ofRows.2 (List.mem_map_of_mem h))

/-- Among rows in the order of a rank, the row that stands has the greatest rank of its key. -/
theorem rank_le_of_mem_ofRows {β : Type*} [Preorder β] {rank : ρ → β} {rows : List ρ}
    (hsorted : rows.Pairwise fun r s => rank r ≤ rank s) {r s : ρ}
    (hr : r ∈ (ofRows key rows).rows) (hs : s ∈ rows) (hkey : key s = key r) :
    rank s ≤ rank r := by
  have hlast := (mem_rows_iff _ r).1 hr
  rw [lookup_ofRows, List.getLast?_eq_some_iff] at hlast
  obtain ⟨before, hsplit⟩ := hlast
  have hfiltered := hsorted.filter fun x => decide (key x = key r)
  have hmem : s ∈ rows.filter fun x => decide (key x = key r) := by simp [hs, hkey]
  rw [hsplit] at hfiltered hmem
  rcases List.mem_append.1 hmem with hbefore | hself
  · exact (List.pairwise_append.1 hfiltered).2.2 s hbefore r (List.mem_singleton_self r)
  · rw [List.mem_singleton.1 hself]

/-- The rows that stand are in the order of the first row of each key. -/
theorem keys_ofRows_pairwise (rows : List ρ) :
    ((ofRows key rows).rows.map key).Pairwise fun j k =>
      (rows.map key).idxOf j < (rows.map key).idxOf k := by
  induction rows using List.reverseRecOn with
  | nil => exact List.Pairwise.nil
  | append_singleton rest row ih =>
      have hold : ((ofRows key rest).rows.map key).Pairwise fun j k =>
          ((rest ++ [row]).map key).idxOf j < ((rest ++ [row]).map key).idxOf k := by
        refine ih.imp_of_mem ?_
        intro j k hj hk hlt
        rwa [List.map_append, List.idxOf_append, List.idxOf_append,
          if_pos (mem_keys_ofRows.1 hj), if_pos (mem_keys_ofRows.1 hk)]
      rw [ofRows_append_singleton]
      show ((upsertRows key row (ofRows key rest).rows).map key).Pairwise _
      by_cases hmem : key row ∈ (ofRows key rest).rows.map key
      · rwa [map_key_upsertRows_of_mem hmem]
      · have hkeys : ((ofRows key rest).rows ++ [row]).map key =
            (ofRows key rest).rows.map key ++ [key row] := List.map_append
        rw [upsertRows_of_not_mem hmem, hkeys, List.pairwise_append]
        refine ⟨hold, List.pairwise_singleton _ _, ?_⟩
        intro j hj k hk
        rw [List.mem_singleton.1 hk, List.map_append, List.idxOf_append, List.idxOf_append,
          if_pos (mem_keys_ofRows.1 hj), if_neg fun h => hmem (mem_keys_ofRows.2 h)]
        have hlt := List.idxOf_lt_length_of_mem (mem_keys_ofRows.1 hj)
        omega

/-- Rows without a repeated key stand in their order. -/
theorem rows_ofRows_of_nodup {rows : List ρ} (hnodup : (rows.map key).Nodup) :
    (ofRows key rows).rows = rows := by
  induction rows using List.reverseRecOn with
  | nil => rfl
  | append_singleton rest row ih =>
      rw [List.map_append, List.nodup_append] at hnodup
      have hfree : key row ∉ rest.map key := fun hmem =>
        hnodup.2.2 _ hmem _ (List.mem_singleton_self _) rfl
      rw [ofRows_append_singleton]
      show upsertRows key row (ofRows key rest).rows = _
      rw [ih hnodup.1, upsertRows_of_not_mem hfree]

theorem filter_rows_foldl_upsert {p : ρ → Bool} (rows : List ρ) (t : Table key)
    (hrefused : ∀ row ∈ rows, p row = false)
    (hkeys : ∀ row ∈ rows, ∀ r ∈ t.rows, p r = true → key r ≠ key row) :
    (rows.foldl upsert t).rows.filter p = t.rows.filter p := by
  induction rows generalizing t with
  | nil => rfl
  | cons row rest ih =>
      have hstep : (t.upsert row).rows.filter p = t.rows.filter p :=
        filter_upsertRows (hrefused row List.mem_cons_self) (hkeys row List.mem_cons_self)
      rw [List.foldl_cons, ih _ (fun x hx => hrefused x (List.mem_cons_of_mem _ hx)), hstep]
      intro x hx r hr hp
      have hmem : r ∈ (t.upsert row).rows.filter p := List.mem_filter.2 ⟨hr, hp⟩
      rw [hstep] at hmem
      exact hkeys x (List.mem_cons_of_mem _ hx) r (List.mem_filter.1 hmem).1 hp

/-! ## The first row of a key -/

/-- `setdefault`: a row is entered only when its key is free. -/
def setDefault (t : Table key) (row : ρ) : Table key :=
  match t.lookup (key row) with
  | some _ => t
  | none => t.upsert row

/-- The first row of a key wins. -/
def firstRows (key : ρ → κ) (rows : List ρ) : Table key := rows.foldl setDefault empty

theorem lookup_setDefault (t : Table key) (row : ρ) (k : κ) :
    (t.setDefault row).lookup k = (t.lookup k).or (if key row = k then some row else none) := by
  unfold setDefault
  by_cases hk : key row = k
  · subst hk
    cases hrow : t.lookup (key row) with
    | some found => simp [hrow]
    | none => simp
  · cases hrow : t.lookup (key row) with
    | some found => simp [hk]
    | none => simp [lookup_upsert, hk, Ne.symm hk]

theorem lookup_foldl_setDefault (rows : List ρ) (t : Table key) (k : κ) :
    (rows.foldl setDefault t).lookup k = (t.lookup k).or (rows.find? fun r => key r = k) := by
  induction rows generalizing t with
  | nil => simp
  | cons r rest ih =>
      rw [List.foldl_cons, ih, lookup_setDefault, Option.or_assoc, List.find?_cons]
      by_cases hk : key r = k <;> simp [hk]

theorem lookup_firstRows (rows : List ρ) (k : κ) :
    (firstRows key rows).lookup k = rows.find? fun r => key r = k := by
  rw [firstRows, lookup_foldl_setDefault, lookup_empty, Option.none_or]

theorem mem_of_mem_firstRows {rows : List ρ} {r : ρ} (h : r ∈ (firstRows key rows).rows) :
    r ∈ rows := by
  rw [mem_rows_iff, lookup_firstRows] at h
  exact List.mem_of_find?_eq_some h

/-- Here too every row leaves one of its key. -/
theorem exists_mem_firstRows {rows : List ρ} {r : ρ} (h : r ∈ rows) :
    ∃ kept ∈ (firstRows key rows).rows, key kept = key r := by
  cases hlookup : (firstRows key rows).lookup (key r) with
  | none =>
      rw [lookup_firstRows, List.find?_eq_none] at hlookup
      exact absurd (decide_eq_true rfl) (hlookup r h)
  | some kept => exact ⟨kept, lookup_mem hlookup, lookup_key hlookup⟩

theorem rows_ofRows_singleton (row : ρ) : (ofRows key [row]).rows = [row] := rfl

theorem mem_of_mem_ofRows {rows : List ρ} {r : ρ} (h : r ∈ (ofRows key rows).rows) : r ∈ rows :=
  (mem_of_lookup_ofRows ((mem_rows_iff _ _).1 h)).1

end Table

end ConstellationTopology
