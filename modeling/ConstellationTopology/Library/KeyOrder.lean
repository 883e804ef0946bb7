import ConstellationTopology.Library.Json
import Mathlib.Data.List.Chain

set_option autoImplicit false

/-! # The order of object keys

Canonical form forgets the order in which the keys of an object stand, and nothing more is to be
forgotten of what it gives (`canonicalData_idem`); what remains without some keys depends on it alone
(`canonicalData_dropKeys_congr`). A value in which no object has two keys has no other order of its
keys (`oneKey_iff`): it is the only value of its canonical form. -/

namespace ConstellationTopology

namespace Json

mutual

/-- No object of the value, at any depth, has two different keys. -/
def OneKey : Json → Prop
  | arr items => OneKeyItems items
  | obj fields => fields.IsChain (fun a b => a.1 = b.1) ∧ OneKeyFields fields
  | _ => True

def OneKeyItems : List Json → Prop
  | [] => True
  | item :: rest => OneKey item ∧ OneKeyItems rest

def OneKeyFields : List (String × Json) → Prop
  | [] => True
  | (_, value) :: rest => OneKey value ∧ OneKeyFields rest

end

/-! ## Sorting fields -/

theorem sortFields_perm (fields : List (String × Json)) : (sortFields fields).Perm fields :=
  List.perm_insertionSort _ fields

/-- Fields under one key stand in their order. -/
theorem sortFields_of_chain {fields : List (String × Json)}
    (h : fields.IsChain fun a b => a.1 = b.1) : sortFields fields = fields := by
  have : IsTrans (String × Json) fun a b => a.1 = b.1 := ⟨fun _ _ _ => Eq.trans⟩
  refine List.Pairwise.insertionSort_eq ?_
  exact (List.isChain_iff_pairwise.1 h).imp fun heq => heq.le

/-- Two inserted fields of different keys may change places. -/
theorem orderedInsert_comm {a b : String × Json} (h : a.1 ≠ b.1) (fields : List (String × Json)) :
    (fields.orderedInsert (fun x y => x.1 ≤ y.1) b).orderedInsert (fun x y => x.1 ≤ y.1) a =
      (fields.orderedInsert (fun x y => x.1 ≤ y.1) a).orderedInsert (fun x y => x.1 ≤ y.1) b := by
  induction fields with
  | nil =>
      rcases lt_or_gt_of_ne h with hlt | hgt
      · simp [hlt.le, not_le.2 hlt]
      · simp [hgt.le, not_le.2 hgt]
  | cons head rest ih =>
      by_cases ha : a.1 ≤ head.1
      · by_cases hb : b.1 ≤ head.1
        · rcases lt_or_gt_of_ne h with hlt | hgt
          · simp [ha, hb, hlt.le, not_le.2 hlt]
          · simp [ha, hb, hgt.le, not_le.2 hgt]
        · have hab : ¬ b.1 ≤ a.1 := fun hle => hb (hle.trans ha)
          simp [ha, hb, hab]
      · by_cases hb : b.1 ≤ head.1
        · have hba : ¬ a.1 ≤ b.1 := fun hle => ha (hle.trans hb)
          simp [ha, hb, hba]
        · simp [ha, hb, ih]

/-- So may two adjacent fields of an object. -/
theorem sortFields_swap {a b : String × Json} (h : a.1 ≠ b.1)
    (before after : List (String × Json)) :
    sortFields (before ++ a :: b :: after) = sortFields (before ++ b :: a :: after) := by
  unfold sortFields
  induction before with
  | nil => exact orderedInsert_comm h _
  | cons head rest ih => simp only [List.cons_append, List.insertionSort_cons, ih]

/-! ## A value without a second key order -/

/-- The canonical form of an object whose fields all stand under one key. -/
theorem canonicalFields_of_obj {fields fields' : List (String × Json)}
    (hchain : fields.IsChain fun a b => a.1 = b.1)
    (h : sortFields (canonicalFields fields') = sortFields (canonicalFields fields)) :
    canonicalFields fields' = canonicalFields fields := by
  have : IsTrans (String × Json) fun a b => a.1 = b.1 := ⟨fun _ _ _ => Eq.trans⟩
  have hfields : (canonicalFields fields).IsChain fun a b => a.1 = b.1 := by
    rw [canonicalFields_eq_map, List.isChain_map]
    exact hchain
  have hpairs := List.isChain_iff_pairwise.1 hfields
  rw [sortFields_of_chain hfields] at h
  have hperm : (canonicalFields fields').Perm (canonicalFields fields) :=
    h ▸ (sortFields_perm (canonicalFields fields')).symm
  have hsymm : ∀ {a b : String × Json}, a.1 = b.1 → b.1 = a.1 := Eq.symm
  have hpairs' := hpairs.perm hperm.symm hsymm
  rwa [sortFields_of_chain (List.isChain_iff_pairwise.2 hpairs')] at h

mutual

theorem eq_of_oneKey : ∀ (v w : Json), OneKey v → w.canonicalData = v.canonicalData → w = v
  | null, w, _, h => by cases w <;> simp_all [canonicalData]
  | bool _, w, _, h => by cases w <;> simp_all [canonicalData]
  | int _, w, _, h => by cases w <;> simp_all [canonicalData]
  | float _, w, _, h => by cases w <;> simp_all [canonicalData]
  | str _, w, _, h => by cases w <;> simp_all [canonicalData]
  | arr items, w, hone, h => by
      cases w with
      | arr items' =>
          simp only [canonicalData, arr.injEq] at h
          rw [eqItems_of_oneKey items items' hone h]
      | _ => simp [canonicalData] at h
  | obj fields, w, hone, h => by
      cases w with
      | obj fields' =>
          simp only [canonicalData, obj.injEq] at h
          rw [eqFields_of_oneKey fields fields' hone.2 (canonicalFields_of_obj hone.1 h)]
      | _ => simp [canonicalData] at h

theorem eqItems_of_oneKey : ∀ (items items' : List Json), OneKeyItems items →
    canonicalItems items' = canonicalItems items → items' = items
  | [], items', _, h => by cases items' <;> simp_all [canonicalItems]
  | item :: rest, items', hone, h => by
      cases items' with
      | nil => simp [canonicalItems] at h
      | cons item' rest' =>
          simp only [canonicalItems, List.cons.injEq] at h
          rw [eq_of_oneKey item item' hone.1 h.1, eqItems_of_oneKey rest rest' hone.2 h.2]

theorem eqFields_of_oneKey : ∀ (fields fields' : List (String × Json)), OneKeyFields fields →
    canonicalFields fields' = canonicalFields fields → fields' = fields
  | [], fields', _, h => by cases fields' <;> simp_all [canonicalFields]
  | (key, value) :: rest, fields', hone, h => by
      cases fields' with
      | nil => simp [canonicalFields] at h
      | cons field' rest' =>
          obtain ⟨key', value'⟩ := field'
          simp only [canonicalFields, List.cons.injEq, Prod.mk.injEq] at h
          rw [h.1.1, eq_of_oneKey value value' hone.1 h.1.2,
            eqFields_of_oneKey rest rest' hone.2 h.2]

end

/-- A value that is the only one of its canonical form. -/
def Rigid (v : Json) : Prop := ∀ w : Json, w.canonicalData = v.canonicalData → w = v

theorem rigid_item {before after : List Json} {item : Json}
    (h : Rigid (arr (before ++ item :: after))) : Rigid item := by
  intro w hw
  have heq := h (arr (before ++ w :: after)) (by simp [canonicalData, canonicalItems_eq_map, hw])
  simpa using heq

theorem rigid_field {before after : List (String × Json)} {key : String} {value : Json}
    (h : Rigid (obj (before ++ (key, value) :: after))) : Rigid value := by
  intro w hw
  have heq := h (obj (before ++ (key, w) :: after))
    (by simp [canonicalData, canonicalFields_eq_map, hw])
  simpa using heq

/-- Two neighbours of different keys could change places. -/
theorem chain_of_rigid {fields : List (String × Json)} (h : Rigid (obj fields)) :
    fields.IsChain fun a b => a.1 = b.1 := by
  rw [List.isChain_iff_forall_rel_of_append_cons_cons]
  intro a b before after hfields
  by_contra hne
  have heq := h (obj (before ++ b :: a :: after)) (by
    rw [hfields, canonicalData, canonicalData, canonicalFields_eq_map, canonicalFields_eq_map]
    simp only [List.map_append, List.map_cons]
    refine congrArg obj (sortFields_swap ?_ _ _)
    exact Ne.symm hne)
  rw [hfields] at heq
  simp only [obj.injEq, List.append_cancel_left_eq, List.cons.injEq] at heq
  exact hne (heq.1 ▸ rfl)

mutual

theorem oneKey_of_rigid : ∀ v : Json, Rigid v → OneKey v
  | null, _ => trivial
  | bool _, _ => trivial
  | int _, _ => trivial
  | float _, _ => trivial
  | str _, _ => trivial
  | arr items, h => oneKeyItems_of_rigid items fun _ _ _ hitems => rigid_item (hitems ▸ h)
  | obj fields, h => ⟨chain_of_rigid h,
      oneKeyFields_of_rigid fields fun _ _ _ _ hfields => rigid_field (hfields ▸ h)⟩

theorem oneKeyItems_of_rigid : ∀ items : List Json,
    (∀ item before after, items = before ++ item :: after → Rigid item) → OneKeyItems items
  | [], _ => trivial
  | item :: rest, h => ⟨oneKey_of_rigid item (h item [] rest rfl),
      oneKeyItems_of_rigid rest fun other before after hrest =>
        h other (item :: before) after (congrArg (item :: ·) hrest)⟩

theorem oneKeyFields_of_rigid : ∀ fields : List (String × Json),
    (∀ key value before after, fields = before ++ (key, value) :: after → Rigid value) →
      OneKeyFields fields
  | [], _ => trivial
  | (key, value) :: rest, h => ⟨oneKey_of_rigid value (h key value [] rest rfl),
      oneKeyFields_of_rigid rest fun name other before after hrest =>
        h name other ((key, value) :: before) after (congrArg ((key, value) :: ·) hrest)⟩

end

/-- **Key order.** A value has no other order of its keys exactly when no object of it has two. -/
theorem oneKey_iff (v : Json) : OneKey v ↔ ∀ w : Json, w.canonicalData = v.canonicalData → w = v :=
  ⟨fun hone w h => eq_of_oneKey v w hone h, oneKey_of_rigid v⟩

/-! ## Canonical form again -/

theorem sortFields_sorted (fields : List (String × Json)) :
    (sortFields fields).Pairwise fun a b => a.1 ≤ b.1 := by
  have : Std.Total fun a b : String × Json => a.1 ≤ b.1 := ⟨fun a b => le_total a.1 b.1⟩
  have : IsTrans (String × Json) fun a b => a.1 ≤ b.1 := ⟨fun _ _ _ => le_trans⟩
  exact List.pairwise_insertionSort _ fields

theorem sortFields_idem (fields : List (String × Json)) :
    sortFields (sortFields fields) = sortFields fields :=
  (sortFields_sorted fields).insertionSort_eq

/-- Sorting goes through a change of the values. -/
theorem canonicalFields_sortFields (fields : List (String × Json)) :
    canonicalFields (sortFields fields) = sortFields (canonicalFields fields) := by
  rw [canonicalFields_eq_map, canonicalFields_eq_map]
  exact List.map_insertionSort _ _ _ _ fun _ _ _ _ => Iff.rfl

mutual

theorem canonicalData_idem : ∀ v : Json, v.canonicalData.canonicalData = v.canonicalData
  | null => rfl
  | bool _ => rfl
  | int _ => rfl
  | float _ => rfl
  | str _ => rfl
  | arr items => by
      rw [canonicalData, canonicalData, canonicalItems_idem items]
  | obj fields => by
      rw [canonicalData, canonicalData, canonicalFields_sortFields, canonicalFields_idem fields,
        sortFields_idem]

theorem canonicalItems_idem : ∀ items : List Json,
    canonicalItems (canonicalItems items) = canonicalItems items
  | [] => rfl
  | item :: rest => by
      rw [canonicalItems, canonicalItems, canonicalData_idem item, canonicalItems_idem rest]

theorem canonicalFields_idem : ∀ fields : List (String × Json),
    canonicalFields (canonicalFields fields) = canonicalFields fields
  | [] => rfl
  | (key, value) :: rest => by
      rw [canonicalFields, canonicalFields, canonicalData_idem value, canonicalFields_idem rest]

end

/-! ## Dropping keys from a canonical form -/

theorem dropKeysFields_eq_map_filter (excluded : List String) (fields : List (String × Json)) :
    dropKeysFields excluded fields =
      (fields.filter fun f => f.1 ∉ excluded).map fun f => (f.1, f.2.dropKeys excluded) := by
  induction fields with
  | nil => rfl
  | cons field rest ih =>
      obtain ⟨key, value⟩ := field
      by_cases h : key ∈ excluded
      · simp [dropKeysFields, h, ih]
      · simp [dropKeysFields, h, ih]

/-- In a sorted list a field is put where it goes among those that are kept. -/
theorem filter_orderedInsert {p : String × Json → Bool} (field : String × Json)
    {fields : List (String × Json)} (hsorted : fields.Pairwise fun a b => a.1 ≤ b.1) :
    (fields.orderedInsert (fun a b => a.1 ≤ b.1) field).filter p =
      if p field then (fields.filter p).orderedInsert (fun a b => a.1 ≤ b.1) field
      else fields.filter p := by
  induction fields with
  | nil => by_cases hp : p field <;> simp [hp]
  | cons head rest ih =>
      have hrest := ih (List.pairwise_cons.1 hsorted).2
      by_cases hle : field.1 ≤ head.1
      · rw [List.orderedInsert_cons, if_pos hle, List.filter_cons]
        by_cases hp : p field
        · have hall : ∀ b ∈ (head :: rest).filter p, field.1 ≤ b.1 := by
            intro b hb
            rcases List.mem_cons.1 (List.mem_filter.1 hb).1 with rfl | hb
            · exact hle
            · exact hle.trans ((List.pairwise_cons.1 hsorted).1 b hb)
          rw [if_pos hp, if_pos hp]
          cases hkept : (head :: rest).filter p with
          | nil => rfl
          | cons first others =>
              rw [List.orderedInsert_cons, if_pos (hall first (by simp [hkept]))]
        · rw [if_neg hp, if_neg hp]
      · rw [List.orderedInsert_cons, if_neg hle, List.filter_cons, hrest, List.filter_cons]
        by_cases hp : p field
        · by_cases hhead : p head
          · simp [hp, hhead, hle]
          · simp [hp, hhead]
        · simp [hp]

theorem filter_sortFields (p : String × Json → Bool) (fields : List (String × Json)) :
    (sortFields fields).filter p = sortFields (fields.filter p) := by
  induction fields with
  | nil => rfl
  | cons field rest ih =>
      have hcons : ∀ (f : String × Json) (fs : List (String × Json)),
          sortFields (f :: fs) = (sortFields fs).orderedInsert (fun a b => a.1 ≤ b.1) f :=
        fun _ _ => rfl
      rw [hcons, filter_orderedInsert field (sortFields_sorted rest), ih, List.filter_cons]
      split
      · rw [hcons]
      · rfl

theorem dropKeysFields_sortFields (excluded : List String) (fields : List (String × Json)) :
    dropKeysFields excluded (sortFields fields) = sortFields (dropKeysFields excluded fields) := by
  rw [dropKeysFields_eq_map_filter, dropKeysFields_eq_map_filter, filter_sortFields]
  exact List.map_insertionSort _ _ _ _ fun _ _ _ _ => Iff.rfl

variable (excluded : List String)

mutual

theorem canonicalData_dropKeys_canonicalData : ∀ v : Json,
    (v.canonicalData.dropKeys excluded).canonicalData = (v.dropKeys excluded).canonicalData
  | null => rfl
  | bool _ => rfl
  | int _ => rfl
  | float _ => rfl
  | str _ => rfl
  | arr items => by
      rw [canonicalData, dropKeys, canonicalData, canonicalItems_dropKeys items, dropKeys,
        canonicalData]
  | obj fields => by
      rw [canonicalData, dropKeys, dropKeysFields_sortFields, canonicalData,
        canonicalFields_sortFields, sortFields_idem, canonicalFields_dropKeys fields, dropKeys,
        canonicalData]

theorem canonicalItems_dropKeys : ∀ items : List Json,
    canonicalItems (dropKeysItems excluded (canonicalItems items)) =
      canonicalItems (dropKeysItems excluded items)
  | [] => rfl
  | item :: rest => by
      simp only [canonicalItems, dropKeysItems, canonicalData_dropKeys_canonicalData item,
        canonicalItems_dropKeys rest]

theorem canonicalFields_dropKeys : ∀ fields : List (String × Json),
    canonicalFields (dropKeysFields excluded (canonicalFields fields)) =
      canonicalFields (dropKeysFields excluded fields)
  | [] => rfl
  | (key, value) :: rest => by
      by_cases h : key ∈ excluded
      · simp only [canonicalFields, dropKeysFields, if_pos h, canonicalFields_dropKeys rest]
      · simp only [canonicalFields, dropKeysFields, if_neg h,
          canonicalData_dropKeys_canonicalData value, canonicalFields_dropKeys rest]

end

/-- What is left without some keys depends on the canonical form. -/
theorem canonicalData_dropKeys_congr {v w : Json} (h : v.canonicalData = w.canonicalData) :
    (v.dropKeys excluded).canonicalData = (w.dropKeys excluded).canonicalData := by
  rw [← canonicalData_dropKeys_canonicalData, h, canonicalData_dropKeys_canonicalData]

end Json

end ConstellationTopology
