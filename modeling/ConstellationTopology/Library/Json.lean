import Mathlib.Data.List.Sort
import Mathlib.Data.Rat.Defs
import Mathlib.Data.String.Basic

set_option autoImplicit false

/-! # JSON data, canonical form and content digests

JSON-compatible data as a plain inductive type, its canonical form (object keys sorted at every
depth), the removal of a set of keys at every depth, and a `Codec`: a printer and a digest, of which
only injectivity is ever used.

The lemmas read an object field by field: `get?` commutes with both normalizations
(`get?_canonicalData`, `get?_dropKeys`), so equal digests of two objects give equal normalized
fields, one key at a time. -/

namespace ConstellationTopology

/-- A JSON value; an object keeps the order of its keys. -/
inductive Json
  | null
  | bool (value : Bool)
  | int (value : ℤ)
  | float (value : ℚ)
  | str (value : String)
  | arr (items : List Json)
  | obj (fields : List (String × Json))

namespace Json

/-- `value == text`. -/
def isText (text : String) : Json → Bool
  | str value => value = text
  | _ => false

theorem isText_iff {text : String} {value : Json} :
    value.isText text = true ↔ value = str text := by
  cases value with
  | str value => simp [isText]
  | _ => simp [isText]

theorem any_isText_iff {text : String} {found : Option Json} :
    found.any (isText text) = true ↔ found = some (str text) := by
  cases found with
  | none => simp
  | some value => simp [isText_iff]

/-! ## Canonical form -/

/-- Stable sort of a field list by key. -/
def sortFields (fields : List (String × Json)) : List (String × Json) :=
  fields.insertionSort fun a b => a.1 ≤ b.1

mutual

/-- Sort the keys of every object. -/
def canonicalData : Json → Json
  | arr items => arr (canonicalItems items)
  | obj fields => obj (sortFields (canonicalFields fields))
  | null => null
  | bool value => bool value
  | int value => int value
  | float value => float value
  | str value => str value

def canonicalItems : List Json → List Json
  | [] => []
  | item :: rest => canonicalData item :: canonicalItems rest

def canonicalFields : List (String × Json) → List (String × Json)
  | [] => []
  | (key, value) :: rest => (key, canonicalData value) :: canonicalFields rest

end

mutual

/-- Remove the keys of `excluded` from every object. -/
def dropKeys (excluded : List String) : Json → Json
  | arr items => arr (dropKeysItems excluded items)
  | obj fields => obj (dropKeysFields excluded fields)
  | null => null
  | bool value => bool value
  | int value => int value
  | float value => float value
  | str value => str value

def dropKeysItems (excluded : List String) : List Json → List Json
  | [] => []
  | item :: rest => dropKeys excluded item :: dropKeysItems excluded rest

def dropKeysFields (excluded : List String) : List (String × Json) → List (String × Json)
  | [] => []
  | (key, value) :: rest =>
      if key ∈ excluded then dropKeysFields excluded rest
      else (key, dropKeys excluded value) :: dropKeysFields excluded rest

end

theorem canonicalItems_eq_map (items : List Json) :
    canonicalItems items = items.map canonicalData := by
  induction items with
  | nil => rfl
  | cons item rest ih => simp only [canonicalItems, ih, List.map_cons]

theorem canonicalFields_eq_map (fields : List (String × Json)) :
    canonicalFields fields = fields.map fun f => (f.1, canonicalData f.2) := by
  induction fields with
  | nil => rfl
  | cons field rest ih => simp only [canonicalFields, ih, List.map_cons]

theorem dropKeysItems_eq_map (excluded : List String) (items : List Json) :
    dropKeysItems excluded items = items.map (dropKeys excluded) := by
  induction items with
  | nil => rfl
  | cons item rest ih => simp only [dropKeysItems, ih, List.map_cons]

theorem dropKeysFields_append (excluded : List String) (fields rest : List (String × Json)) :
    dropKeysFields excluded (fields ++ rest) =
      dropKeysFields excluded fields ++ dropKeysFields excluded rest := by
  induction fields with
  | nil => rfl
  | cons field others ih =>
      obtain ⟨key, value⟩ := field
      simp only [List.cons_append, dropKeysFields, ih]
      split <;> rfl

/-! ## Reading a field -/

/-- The value of a key; `none` for a missing key and for what is no object. -/
def get? (key : String) : Json → Option Json
  | obj fields => fields.lookup key
  | _ => none

@[simp] theorem get?_obj (key : String) (fields : List (String × Json)) :
    (obj fields).get? key = fields.lookup key := rfl

def isObject : Json → Bool
  | obj _ => true
  | _ => false

/-- A text under a key. -/
def fieldText? (key : String) (value : Json) : Option String :=
  match value.get? key with
  | some (str text) => some text
  | _ => none

theorem fieldText?_eq_some {key text : String} {value : Json} :
    value.fieldText? key = some text ↔ value.get? key = some (str text) := by
  unfold fieldText?
  split
  · next found h => simp [h]
  · next h => simpa using fun heq => h text heq

/-- Only an object has a field. -/
theorem isObject_of_fieldText? {key text : String} {value : Json}
    (h : value.fieldText? key = some text) : value.isObject = true := by
  cases value with
  | obj fields => rfl
  | null | bool _ | int _ | float _ | str _ | arr _ =>
      rw [fieldText?_eq_some] at h
      cases h

theorem lookup_orderedInsert (key : String) (field : String × Json)
    (fields : List (String × Json)) :
    (fields.orderedInsert (fun a b => a.1 ≤ b.1) field).lookup key =
      (field :: fields).lookup key := by
  induction fields with
  | nil => rfl
  | cons head rest ih =>
      simp only [List.orderedInsert]
      split
      · rfl
      · next hlt =>
          -- `head` goes before `field`, so its key is another one
          have hne : head.1 ≠ field.1 := fun heq => hlt heq.ge
          rw [List.lookup_cons, ih, List.lookup_cons, List.lookup_cons, List.lookup_cons]
          by_cases hhead : key = head.1
          · have hfield : (key == field.1) = false := by
              rw [beq_eq_false_iff_ne, hhead]
              exact hne
            simp [hhead, hhead ▸ hfield]
          · have : (key == head.1) = false := by simpa using hhead
            simp [this]

/-- The sort is stable, so it keeps the value of every key. -/
theorem lookup_sortFields (key : String) (fields : List (String × Json)) :
    (sortFields fields).lookup key = fields.lookup key := by
  induction fields with
  | nil => rfl
  | cons field rest ih =>
      unfold sortFields at ih ⊢
      rw [List.insertionSort_cons, lookup_orderedInsert, List.lookup_cons, List.lookup_cons, ih]

theorem lookup_canonicalFields (key : String) (fields : List (String × Json)) :
    (canonicalFields fields).lookup key = (fields.lookup key).map canonicalData := by
  induction fields with
  | nil => rfl
  | cons field rest ih =>
      obtain ⟨name, value⟩ := field
      rw [canonicalFields, List.lookup_cons, List.lookup_cons, ih]
      split <;> rfl

theorem lookup_dropKeysFields (excluded : List String) (key : String)
    (fields : List (String × Json)) (h : key ∉ excluded) :
    (dropKeysFields excluded fields).lookup key =
      (fields.lookup key).map (dropKeys excluded) := by
  induction fields with
  | nil => rfl
  | cons field rest ih =>
      obtain ⟨name, value⟩ := field
      rw [dropKeysFields, List.lookup_cons]
      split
      · next hin =>
          have hne : (key == name) = false := by
            rw [beq_eq_false_iff_ne]
            exact fun heq => h (heq ▸ hin)
          rw [ih, hne]
      · rw [List.lookup_cons, ih]
        split <;> rfl

theorem get?_canonicalData (key : String) (value : Json) :
    (canonicalData value).get? key = (value.get? key).map canonicalData := by
  cases value with
  | obj fields =>
      rw [canonicalData, get?_obj, lookup_sortFields, lookup_canonicalFields, get?_obj]
  | null | bool _ | int _ | float _ | str _ | arr _ => rfl

theorem fieldText?_canonicalData (key : String) (value : Json) :
    (canonicalData value).fieldText? key = value.fieldText? key := by
  unfold fieldText?
  rw [get?_canonicalData]
  cases value.get? key with
  | none => rfl
  | some found => cases found <;> rfl

theorem get?_dropKeys (excluded : List String) (key : String) (value : Json)
    (h : key ∉ excluded) :
    (dropKeys excluded value).get? key = (value.get? key).map (dropKeys excluded) := by
  cases value with
  | obj fields => exact lookup_dropKeysFields excluded key fields h
  | null | bool _ | int _ | float _ | str _ | arr _ => rfl

end Json

/-! ## Printing and digests -/

/-- A JSON printer with sorted keys, one that keeps the order of the fields, and a digest of
    bytes. -/
structure Codec where
  dumps : Json → String
  dumpsInOrder : Json → String
  sha256 : ByteArray → String

namespace Codec

/-- The printer loses nothing of canonical data, and the digest has no collision. -/
structure Faithful (c : Codec) : Prop where
  dumps_inj : ∀ v w : Json, c.dumps v.canonicalData = c.dumps w.canonicalData →
    v.canonicalData = w.canonicalData
  sha256_inj : Function.Injective c.sha256

end Codec

end ConstellationTopology
