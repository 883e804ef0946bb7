import Mathlib.Data.String.Basic

set_option autoImplicit false

/-! # The `dependencies` array of a `pyproject.toml`

An array of basic strings as TOML writes it: the strings with their escapes, and the blanks, line
ends and comments around them. A layout carries its own well-formedness; `text` is what stands in
the file and `values` what a reader of TOML takes from it. -/

namespace ConstellationTopology

/-! ## Basic strings -/

/-- `\b \t \n \f \r \" \\`. -/
def tomlEscapes : List (Char × Char) :=
  [('b', Char.ofNat 8), ('t', '\t'), ('n', '\n'), ('f', Char.ofNat 12), ('r', '\r'), ('"', '"'),
    ('\\', '\\')]

/-- The value of a hexadecimal digit. -/
def hexDigit? (ch : Char) : Option ℕ :=
  if ch.isDigit then some (ch.toNat - '0'.toNat)
  else if 'a' ≤ ch ∧ ch ≤ 'f' then some (ch.toNat - 'a'.toNat + 10)
  else if 'A' ≤ ch ∧ ch ≤ 'F' then some (ch.toNat - 'A'.toNat + 10)
  else none

/-- The number that hexadecimal digits write. -/
def hexValue (digits : List Char) : ℕ :=
  digits.foldl (fun value digit => 16 * value + (hexDigit? digit).getD 0) 0

/-- One character of a basic string: as it is, by a letter, or by its code point. -/
inductive BasicChar
  | plain (ch : Char)
  | escape (letter : Char)
  | unicode (digits : List Char)

namespace BasicChar

/-- What may stand in a basic string. -/
def Valid : BasicChar → Prop
  | plain ch => ch ≠ '"' ∧ ch ≠ '\\' ∧ (ch = '\t' ∨ 32 ≤ ch.toNat) ∧ ch.toNat ≠ 127
  | escape letter => (tomlEscapes.lookup letter).isSome
  | unicode digits => (digits.length = 4 ∨ digits.length = 8) ∧
      (∀ digit ∈ digits, (hexDigit? digit).isSome) ∧ (hexValue digits).isValidChar

instance (ch : BasicChar) : Decidable ch.Valid := by
  cases ch with
  | unicode digits =>
      let := List.decidableBAll (fun digit => (hexDigit? digit).isSome = true) digits
      unfold Valid
      infer_instance
  | _ =>
      unfold Valid
      infer_instance

def text : BasicChar → List Char
  | plain ch => [ch]
  | escape letter => ['\\', letter]
  | unicode digits => '\\' :: (if digits.length = 4 then 'u' else 'U') :: digits

def value : BasicChar → Char
  | plain ch => ch
  | escape letter => (tomlEscapes.lookup letter).getD letter
  | unicode digits => Char.ofNat (hexValue digits)

end BasicChar

/-- A basic string, well formed by construction. -/
structure BasicString where
  chars : List BasicChar
  chars_valid : ∀ ch ∈ chars, ch.Valid

/-- The string as it is written. -/
def BasicString.text (string : BasicString) : List Char :=
  '"' :: string.chars.flatMap BasicChar.text ++ ['"']

/-- What the string stands for. -/
def BasicString.value (string : BasicString) : String :=
  String.ofList (string.chars.map BasicChar.value)

/-! ## Arrays -/

/-- What may stand around a value of an array. -/
inductive Filler
  | space
  | tab
  | newline (carriage : Bool)
  | comment (content : List Char) (carriage : Bool)

namespace Filler

/-- The line end of the file. -/
def lineEnd (carriage : Bool) : List Char := if carriage then ['\r', '\n'] else ['\n']

/-- A comment holds no control character but the tab. -/
def Valid : Filler → Prop
  | comment content _ => ∀ ch ∈ content, (ch = '\t' ∨ 32 ≤ ch.toNat) ∧ ch.toNat ≠ 127
  | _ => True

instance (filler : Filler) : Decidable filler.Valid := by
  cases filler with
  | comment content carriage =>
      exact List.decidableBAll (fun ch => (ch = '\t' ∨ 32 ≤ ch.toNat) ∧ ch.toNat ≠ 127) content
  | _ => exact instDecidableTrue

def text : Filler → List Char
  | space => [' ']
  | tab => ['\t']
  | newline carriage => lineEnd carriage
  | comment content carriage => '#' :: content ++ lineEnd carriage

end Filler

/-- A string of an array with what stands before it and between it and the comma. -/
structure ArrayItem where
  before : List Filler
  string : BasicString
  after : List Filler

/-- The item as it is written. -/
def ArrayItem.text (item : ArrayItem) : List Char :=
  item.before.flatMap Filler.text ++ item.string.text ++ item.after.flatMap Filler.text

/-- An array of basic strings. After the last one there may be a comma. -/
structure StringArray where
  items : List ArrayItem
  trailingComma : Bool
  last : List Filler
  fillers_valid : ∀ filler ∈ items.flatMap (fun item => item.before ++ item.after) ++ last,
    filler.Valid
  comma_after_item : trailingComma = true → items ≠ []

namespace StringArray

def text (array : StringArray) : List Char :=
  '[' :: [','].intercalate (array.items.map ArrayItem.text)
    ++ (if array.trailingComma then [','] else []) ++ array.last.flatMap Filler.text ++ [']']

def values (array : StringArray) : List String :=
  array.items.map fun item => item.string.value

end StringArray

/-! ## The document around it -/

/-- A `pyproject.toml`, cut at its array of dependencies. -/
structure PyprojectDocument where
  front : String
  array : StringArray
  back : String

namespace PyprojectDocument

def text (document : PyprojectDocument) : String :=
  document.front ++ String.ofList document.array.text ++ document.back

/-- What stands in front of a string of the array. -/
def textBefore (document : PyprojectDocument) (earlier : List ArrayItem) (item : ArrayItem) :
    List Char :=
  document.front.toList ++ '[' :: (earlier.flatMap (fun other => other.text ++ [','])
    ++ item.before.flatMap Filler.text)

/-- The requirements that the project declares. -/
def requirements (document : PyprojectDocument) : List String := document.array.values

theorem text_eq_textBefore {document : PyprojectDocument} {earlier later : List ArrayItem}
    {item : ArrayItem} (h : document.array.items = earlier ++ item :: later) :
    ∃ behind, document.text.toList =
      document.textBefore earlier item ++ (item.string.text ++ behind) := by
  have hjoin : ∀ earlier : List ArrayItem, ∃ behind, [','].intercalate
      ((earlier ++ item :: later).map ArrayItem.text) =
        earlier.flatMap (fun other => other.text ++ [',']) ++ (item.text ++ behind) := by
    intro earlier
    induction earlier with
    | nil =>
        cases later with
        | nil => exact ⟨[], by simp [List.intercalate]⟩
        | cons next later => exact ⟨_, by simp [List.intercalate]; rfl⟩
    | cons other earlier ih =>
        obtain ⟨behind, hbehind⟩ := ih
        refine ⟨behind, ?_⟩
        obtain ⟨next, rest, hnext⟩ : ∃ next rest, (earlier ++ item :: later).map ArrayItem.text =
            next :: rest := List.exists_cons_of_ne_nil (by simp)
        rw [List.cons_append, List.map_cons, hnext, List.intercalate_cons_cons, ← hnext, hbehind]
        simp
  obtain ⟨behind, hbehind⟩ := hjoin earlier
  refine ⟨item.after.flatMap Filler.text ++ (behind
    ++ (if document.array.trailingComma then [','] else [])
    ++ document.array.last.flatMap Filler.text ++ [']'] ++ document.back.toList), ?_⟩
  rw [← h] at hbehind
  simp only [text, StringArray.text, String.toList_append, String.toList_ofList, hbehind, textBefore,
    ArrayItem.text, List.append_assoc, List.cons_append]

/-- The array is the value of the key `dependencies` in the table `[project]`: after the header of
    the table come keys of that table only, and then the key. -/
def InProjectTable (document : PyprojectDocument) : Prop :=
  ∃ before keys : String, document.front = before ++ "[project]\n" ++ keys ++ "dependencies = " ∧
    (before = "" ∨ ['\n'] <:+ before.toList) ∧ (keys = "" ∨ ['\n'] <:+ keys.toList) ∧
    ∀ line ∈ keys.toList.splitOn '\n', line.head? ≠ some '['

end PyprojectDocument

end ConstellationTopology
