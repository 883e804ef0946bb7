import ConstellationTopology.Library.Json

set_option autoImplicit false

/-! # A self-delimiting text for JSON data

Every value starts with a tag, and every text and collection with its length in unary, so that a
value can be cut off the front of a longer text in one way only. With bytes read as characters for
the digest this gives a codec that loses nothing: the assumption `Codec.Faithful` can be met. -/

namespace ConstellationTopology

/-! ## The encoding -/

/-- `n` marks and a stop. -/
def unaryText : ℕ → List Char
  | 0 => ['.']
  | n + 1 => '|' :: unaryText n

/-- A text with its length in front. -/
def sizedText (text : String) : List Char := unaryText text.toList.length ++ text.toList

/-- An integer: its sign, and a stroke for each unit. -/
def intText : ℤ → List Char
  | .ofNat n => '+' :: unaryText n
  | .negSucc n => '-' :: unaryText n

namespace Json

mutual

def text : Json → List Char
  | null => ['n']
  | bool value => [if value then 't' else 'f']
  | int value => 'i' :: intText value
  | float value => 'q' :: (intText value.num ++ unaryText value.den)
  | str value => 's' :: sizedText value
  | arr items => '[' :: itemsText items
  | obj fields => '{' :: fieldsText fields

def itemsText : List Json → List Char
  | [] => [']']
  | item :: rest => ',' :: (text item ++ itemsText rest)

def fieldsText : List (String × Json) → List Char
  | [] => ['}']
  | (key, value) :: rest => ',' :: (sizedText key ++ (text value ++ fieldsText rest))

end

end Json

/-! ## Cutting a value off the front -/

theorem unaryText_append_inj {m n : ℕ} {r s : List Char}
    (h : unaryText m ++ r = unaryText n ++ s) : m = n ∧ r = s := by
  induction m generalizing n with
  | zero =>
      cases n with
      | zero => simpa [unaryText] using h
      | succ n => simp [unaryText] at h
  | succ m ih =>
      cases n with
      | zero => simp [unaryText] at h
      | succ n =>
          simp only [unaryText, List.cons_append, List.cons.injEq, true_and] at h
          obtain ⟨rfl, hrest⟩ := ih h
          exact ⟨rfl, hrest⟩

theorem sizedText_append_inj {v w : String} {r s : List Char}
    (h : sizedText v ++ r = sizedText w ++ s) : v = w ∧ r = s := by
  simp only [sizedText, List.append_assoc] at h
  obtain ⟨hlength, hrest⟩ := unaryText_append_inj h
  obtain ⟨hchars, hrest⟩ := List.append_inj hrest hlength
  exact ⟨String.toList_inj.1 hchars, hrest⟩

theorem intText_append_inj {v w : ℤ} {r s : List Char}
    (h : intText v ++ r = intText w ++ s) : v = w ∧ r = s := by
  cases v with
  | ofNat m =>
      cases w with
      | ofNat n =>
          simp only [intText, List.cons_append, List.cons.injEq, true_and] at h
          obtain ⟨rfl, hrest⟩ := unaryText_append_inj h
          exact ⟨rfl, hrest⟩
      | negSucc n => simp [intText] at h
  | negSucc m =>
      cases w with
      | ofNat n => simp [intText] at h
      | negSucc n =>
          simp only [intText, List.cons_append, List.cons.injEq, true_and] at h
          obtain ⟨rfl, hrest⟩ := unaryText_append_inj h
          exact ⟨rfl, hrest⟩

namespace Json

mutual

/-- A value can be cut off the front in one way only. -/
theorem text_append_inj : ∀ (v w : Json) {r s : List Char},
    text v ++ r = text w ++ s → v = w ∧ r = s
  | null, w, _, _, h => by
      cases w with
      | null => simpa [text] using h
      | bool value => cases value <;> simp [text] at h
      | _ => simp [text] at h
  | bool b, w, _, _, h => by
      cases w with
      | bool value => cases b <;> cases value <;> simp_all [text]
      | _ => cases b <;> simp [text] at h
  | int i, w, _, _, h => by
      cases w with
      | int value =>
          simp only [text, List.cons_append, List.cons.injEq, true_and] at h
          obtain ⟨rfl, hrest⟩ := intText_append_inj h
          exact ⟨rfl, hrest⟩
      | bool value => cases value <;> simp [text] at h
      | _ => simp [text] at h
  | float q, w, _, _, h => by
      cases w with
      | float value =>
          simp only [text, List.cons_append, List.append_assoc, List.cons.injEq, true_and] at h
          obtain ⟨hnum, hrest⟩ := intText_append_inj h
          obtain ⟨hden, hrest⟩ := unaryText_append_inj hrest
          exact ⟨congrArg float (Rat.ext hnum hden), hrest⟩
      | bool value => cases value <;> simp [text] at h
      | _ => simp [text] at h
  | str t, w, _, _, h => by
      cases w with
      | str value =>
          simp only [text, List.cons_append, List.cons.injEq, true_and] at h
          obtain ⟨rfl, hrest⟩ := sizedText_append_inj h
          exact ⟨rfl, hrest⟩
      | bool value => cases value <;> simp [text] at h
      | _ => simp [text] at h
  | arr items, w, _, _, h => by
      cases w with
      | arr items' =>
          simp only [text, List.cons_append, List.cons.injEq, true_and] at h
          obtain ⟨hitems, hrest⟩ := itemsText_append_inj items items' h
          exact ⟨congrArg arr hitems, hrest⟩
      | bool value => cases value <;> simp [text] at h
      | _ => simp [text] at h
  | obj fields, w, _, _, h => by
      cases w with
      | obj fields' =>
          simp only [text, List.cons_append, List.cons.injEq, true_and] at h
          obtain ⟨hfields, hrest⟩ := fieldsText_append_inj fields fields' h
          exact ⟨congrArg obj hfields, hrest⟩
      | bool value => cases value <;> simp [text] at h
      | _ => simp [text] at h

theorem itemsText_append_inj : ∀ (items items' : List Json) {r s : List Char},
    itemsText items ++ r = itemsText items' ++ s → items = items' ∧ r = s
  | [], [], _, _, h => by simpa [itemsText] using h
  | [], _ :: _, _, _, h => by simp [itemsText] at h
  | _ :: _, [], _, _, h => by simp [itemsText] at h
  | item :: rest, item' :: rest', _, _, h => by
      simp only [itemsText, List.cons_append, List.append_assoc, List.cons.injEq, true_and] at h
      obtain ⟨hitem, hafterItem⟩ := text_append_inj item item' h
      obtain ⟨hitems, hrest⟩ := itemsText_append_inj rest rest' hafterItem
      exact ⟨by rw [hitem, hitems], hrest⟩

theorem fieldsText_append_inj : ∀ (fields fields' : List (String × Json)) {r s : List Char},
    fieldsText fields ++ r = fieldsText fields' ++ s → fields = fields' ∧ r = s
  | [], [], _, _, h => by simpa [fieldsText] using h
  | [], _ :: _, _, _, h => by simp [fieldsText] at h
  | _ :: _, [], _, _, h => by simp [fieldsText] at h
  | (key, value) :: rest, (key', value') :: rest', _, _, h => by
      simp only [fieldsText, List.cons_append, List.append_assoc, List.cons.injEq, true_and] at h
      obtain ⟨hkey, hafterKey⟩ := sizedText_append_inj h
      obtain ⟨hvalue, hafterValue⟩ := text_append_inj value value' hafterKey
      obtain ⟨hfields, hrest⟩ := fieldsText_append_inj rest rest' hafterValue
      exact ⟨by rw [hkey, hvalue, hfields], hrest⟩

end

theorem text_injective : Function.Injective text := by
  intro v w h
  refine (text_append_inj v w (r := []) (s := []) ?_).1
  rw [h]

end Json

/-! ## A codec that loses nothing -/

/-- The bytes as characters. -/
def bytesText (bytes : ByteArray) : String :=
  String.ofList (bytes.data.toList.map fun byte => Char.ofNat byte.toNat)

theorem toNat_ofNat_of_lt {n : ℕ} (h : n < 256) : (Char.ofNat n).toNat = n := by
  have hvalid : n.isValidChar := Or.inl (by omega)
  rw [Char.ofNat, dif_pos hvalid]
  rfl

theorem bytesText_injective : Function.Injective bytesText := by
  intro v w h
  have hchar : Function.Injective fun byte : UInt8 => Char.ofNat byte.toNat := by
    intro a b hab
    have hnat : a.toNat = b.toNat := by
      rw [← toNat_ofNat_of_lt a.toNat_lt, ← toNat_ofNat_of_lt b.toNat_lt]
      exact congrArg Char.toNat hab
    exact UInt8.toNat_inj.1 hnat
  have hlist := List.map_injective_iff.2 hchar (String.ofList_injective h)
  exact ByteArray.ext (Array.toList_inj.1 hlist)

/-- The self-delimiting text and the bytes themselves. -/
def textCodec : Codec where
  dumps value := String.ofList value.text
  dumpsInOrder value := String.ofList value.text
  sha256 := bytesText

theorem textCodec_faithful : textCodec.Faithful where
  dumps_inj _ _ h := Json.text_injective (String.ofList_injective h)
  sha256_inj := bytesText_injective

/-! ## The same in two characters -/

/-- Every character as its number in unary. -/
def markText (chars : List Char) : List Char := chars.flatMap fun ch => unaryText ch.toNat

theorem markText_injective : Function.Injective markText := by
  intro v w h
  induction v generalizing w with
  | nil =>
      cases w with
      | nil => rfl
      | cons ch rest => cases hn : ch.toNat <;> simp [markText, hn, unaryText] at h
  | cons ch rest ih =>
      cases w with
      | nil => cases hn : ch.toNat <;> simp [markText, hn, unaryText] at h
      | cons ch' rest' =>
          obtain ⟨hnat, hrest⟩ := unaryText_append_inj h
          rw [ih hrest, Char.toNat_inj.1 hnat]

theorem mem_unaryText {n : ℕ} {ch : Char} (h : ch ∈ unaryText n) : ch = '|' ∨ ch = '.' := by
  induction n with
  | zero => exact Or.inr (List.mem_singleton.1 h)
  | succ n ih =>
      rcases List.mem_cons.1 h with rfl | hrest
      · exact Or.inl rfl
      · exact ih hrest

/-- A codec that loses nothing and prints no line boundary, whatever the texts hold. -/
def markCodec : Codec where
  dumps value := String.ofList (markText value.text)
  dumpsInOrder value := String.ofList (markText value.text)
  sha256 := bytesText

theorem markCodec_faithful : markCodec.Faithful where
  dumps_inj _ _ h := Json.text_injective (markText_injective (String.ofList_injective h))
  sha256_inj := bytesText_injective

theorem mem_markCodec {value : Json} {ch : Char} (h : ch ∈ (markCodec.dumps value).toList) :
    ch = '|' ∨ ch = '.' := by
  rw [markCodec, String.toList_ofList, markText] at h
  obtain ⟨source, -, hmem⟩ := List.mem_flatMap.1 h
  exact mem_unaryText hmem

end ConstellationTopology
