import Mathlib.Data.List.Infix
import Mathlib.Data.List.TakeWhile
import Mathlib.Data.String.Basic

set_option autoImplicit false

/-! # Text

Operations on texts as sequences of code points: a bounded front part, the removal of a leading
marker and of surrounding blanks, the part after the first separator. -/

namespace ConstellationTopology

/-- `text[:bound]`. -/
def clip (bound : ℕ) (text : String) : String := String.ofList (text.toList.take bound)

/-- Between `low` and `high` characters. -/
def LengthIn (low high : ℕ) (text : String) : Prop :=
  low ≤ text.toList.length ∧ text.toList.length ≤ high

instance (low high : ℕ) (text : String) : Decidable (LengthIn low high text) := by
  unfold LengthIn
  infer_instance

theorem clip_of_length_le {bound : ℕ} {text : String} (h : text.toList.length ≤ bound) :
    clip bound text = text := by
  rw [clip, List.take_of_length_le h, String.ofList_toList]

theorem lengthIn_clip {bound : ℕ} (text : String) : LengthIn 0 bound (clip bound text) := by
  simp [LengthIn, clip]

/-- A clipped text is empty only if the text was. -/
theorem lengthIn_clip_of_ne {bound : ℕ} {text : String} (hbound : 1 ≤ bound) (h : text ≠ "") :
    LengthIn 1 bound (clip bound text) := by
  have hlength : 1 ≤ text.toList.length := by
    rw [Nat.one_le_iff_ne_zero, ne_eq, List.length_eq_zero_iff]
    exact fun hnil => h (String.toList_inj.1 hnil)
  simp only [LengthIn, clip, String.toList_ofList, List.length_take]
  omega

/-! ## Removing what surrounds a text -/

/-- `text.removeprefix(marker)`. -/
def removeMarker (marker text : String) : String :=
  match marker.toList.isPrefixOf? text.toList with
  | some rest => String.ofList rest
  | none => text

/-- The code points `str.strip` removes. -/
def blanks : List Char :=
  [9, 10, 11, 12, 13, 28, 29, 30, 31, 32, 133, 160, 5760, 8192, 8193, 8194, 8195, 8196, 8197, 8198,
    8199, 8200, 8201, 8202, 8232, 8233, 8239, 8287, 12288].map Char.ofNat

/-- `text.strip()`. -/
def strip (text : String) : String :=
  String.ofList (((text.toList.dropWhile (· ∈ blanks)).reverse.dropWhile (· ∈ blanks)).reverse)

/-- A text with another code point than blanks keeps one. -/
theorem strip_ne_empty {text : String} {ch : Char} (hmem : ch ∈ text.toList) (hch : ch ∉ blanks) :
    strip text ≠ "" := by
  intro h
  have hnil : ((text.toList.dropWhile (· ∈ blanks)).reverse.dropWhile (· ∈ blanks)).reverse = [] :=
    String.ofList_injective (h.trans String.ofList_nil.symm)
  rw [List.reverse_eq_nil_iff, List.dropWhile_eq_nil_iff] at hnil
  have hsplit : text.toList.takeWhile (· ∈ blanks) ++ text.toList.dropWhile (· ∈ blanks) =
      text.toList := List.takeWhile_append_dropWhile
  rw [← hsplit, List.mem_append] at hmem
  rcases hmem with hfront | hrest
  · exact hch (by simpa using List.mem_takeWhile_imp hfront)
  · exact hch (by simpa using hnil ch (List.mem_reverse.2 hrest))

/-- `text.lower()` on the letters of ASCII. -/
def lowerAscii (text : String) : String := String.ofList (text.toList.map Char.toLower)

/-- `text.split(separator, 1)[-1]`. -/
def afterFirst (separator : Char) (text : String) : String :=
  match text.toList.dropWhile (· ≠ separator) with
  | [] => text
  | _ :: rest => String.ofList rest

/-- `text.split(separator, 1)[0]`. -/
def beforeFirst (separator : Char) (text : String) : String :=
  String.ofList (text.toList.takeWhile (· ≠ separator))

/-- `text.rsplit(separator, 1)[-1]`. -/
def afterLast (separator : Char) (text : String) : String :=
  String.ofList (text.toList.reverse.takeWhile (· ≠ separator)).reverse

theorem afterLast_append {separator : Char} {text : String} (front : String)
    (h : separator ∉ text.toList) :
    afterLast separator (front ++ String.ofList [separator] ++ text) = text := by
  have hchars : ((front ++ String.ofList [separator] ++ text).toList.reverse.takeWhile
      (· ≠ separator)) = text.toList.reverse := by
    rw [String.toList_append, String.toList_append, String.toList_ofList, List.reverse_append,
      List.takeWhile_append_of_pos]
    · simp
    · intro ch hch
      have hne : ch ≠ separator := fun heq => h (heq ▸ List.mem_reverse.1 hch)
      simpa using hne
  rw [afterLast, hchars, List.reverse_reverse, String.ofList_toList]

/-- The part after the last separator has none. -/
theorem notMem_afterLast (separator : Char) (text : String) :
    separator ∉ (afterLast separator text).toList := by
  rw [afterLast, String.toList_ofList, List.mem_reverse]
  intro hmem
  simpa using List.mem_takeWhile_imp hmem

/-- `text.rfind(ch)`. -/
def lastIndex (ch : Char) (text : String) : ℤ :=
  if ch ∈ text.toList then text.toList.length - 1 - text.toList.reverse.idxOf ch else -1

/-- `marker in text`. -/
def holdsMarker (marker text : String) : Bool :=
  text.toList.tails.any fun rest => marker.toList.isPrefixOf rest

theorem holdsMarker_append (front marker rest : String) :
    holdsMarker marker (front ++ marker ++ rest) = true := by
  rw [holdsMarker, List.any_eq_true]
  refine ⟨(marker ++ rest).toList, (List.mem_tails _ _).2 ?_, ?_⟩
  · rw [String.append_assoc, String.toList_append (s := front)]
    exact List.suffix_append _ _
  · rw [String.toList_append]
    exact List.isPrefixOf_iff_prefix.2 (List.prefix_append _ _)

/-! ## Cancelling a common part -/

theorem append_left_cancel {a b c : String} (h : a ++ b = a ++ c) : b = c :=
  (String.append_right_inj a).1 h

theorem append_right_cancel {a b c : String} (h : a ++ c = b ++ c) : a = b :=
  (String.append_left_inj c).1 h

end ConstellationTopology
