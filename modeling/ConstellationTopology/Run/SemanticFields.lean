import ConstellationTopology.Library.KeyOrder
import ConstellationTopology.Run.Hashing

set_option autoImplicit false

/-! # The semantics of an object

What `semantic_hash` sees of an object is the object of what it sees of the fields that stay, in the
order of their keys. Two dictionaries of one program text are compared field by field. -/

namespace ConstellationTopology

namespace Json

theorem semantic_obj (fields : List (String × Json)) :
    (obj fields).semantic = obj (sortFields ((fields.filter fun field =>
      field.1 ∉ volatileFields).map fun field => (field.1, field.2.semantic))) := by
  rw [semantic, dropKeys, canonicalData, canonicalFields_eq_map, dropKeysFields_eq_map_filter,
    List.map_map]
  rfl

/-- Objects with the same keys are alike if the values of the keys are. -/
theorem semantic_obj_congr {fields fields' : List (String × Json)}
    (h : List.Forall₂ (fun field field' => field.1 = field'.1 ∧
      field.2.semantic = field'.2.semantic) fields fields') :
    (obj fields).semantic = (obj fields').semantic := by
  rw [semantic_obj, semantic_obj]
  congr 2
  induction h with
  | nil => rfl
  | @cons field field' _ _ hfield _ ih =>
      obtain ⟨key, value⟩ := field
      obtain ⟨key', value'⟩ := field'
      obtain ⟨rfl, hvalue⟩ := hfield
      dsimp only at hvalue
      by_cases hkey : key ∈ volatileFields
      · rw [List.filter_cons_of_neg (by simpa using hkey),
          List.filter_cons_of_neg (by simpa using hkey), ih]
      · rw [List.filter_cons_of_pos (by simpa using hkey),
          List.filter_cons_of_pos (by simpa using hkey), List.map_cons, List.map_cons, hvalue, ih]

end Json

end ConstellationTopology
