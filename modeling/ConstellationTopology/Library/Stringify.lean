import ConstellationTopology.Library.Json
import ConstellationTopology.Library.Lines

set_option autoImplicit false

/-! # The text of `JSON.stringify`

Compact JSON in which only the quote, the backslash and the control characters below the blank are
escaped: every other code point stands raw inside a string. Of the line boundaries three are no
control characters of that kind, and these are the ones a text can hold (`mem_stringify_iff`). -/

namespace ConstellationTopology

/-- The code points of a number. -/
def numberChars : List Char :=
  ['0', '1', '2', '3', '4', '5', '6', '7', '8', '9', '+', '-', '.', 'e']

/-- How numbers with a fraction are printed: with digits, signs, a point and an exponent. -/
structure FloatText where
  text : ℚ → List Char
  plain : ∀ value, ∀ ch ∈ text value, ch ∈ numberChars

/-! ## The encoding -/

/-- A code point inside a string. -/
def escapeChar (ch : Char) : List Char :=
  if ch = '"' then ['\\', '"']
  else if ch = '\\' then ['\\', '\\']
  else if ch.toNat = 8 then ['\\', 'b']
  else if ch.toNat = 9 then ['\\', 't']
  else if ch.toNat = 10 then ['\\', 'n']
  else if ch.toNat = 12 then ['\\', 'f']
  else if ch.toNat = 13 then ['\\', 'r']
  else if ch.toNat < 32 then
    ['\\', 'u', '0', '0', Nat.digitChar (ch.toNat / 16), Nat.digitChar (ch.toNat % 16)]
  else [ch]

/-- A string between its quotes. -/
def quotedText (text : String) : List Char := '"' :: (text.toList.flatMap escapeChar ++ ['"'])

namespace Json

variable (floats : FloatText)

mutual

/-- `JSON.stringify(value)`. -/
def stringifyChars : Json → List Char
  | null => ['n', 'u', 'l', 'l']
  | bool value => if value then ['t', 'r', 'u', 'e'] else ['f', 'a', 'l', 's', 'e']
  | int value => (toString value).toList
  | float value => floats.text value
  | str value => quotedText value
  | arr items => '[' :: (stringifyItems items ++ [']'])
  | obj fields => '{' :: (stringifyFields fields ++ ['}'])

def stringifyItems : List Json → List Char
  | [] => []
  | [item] => stringifyChars item
  | item :: rest => stringifyChars item ++ ',' :: stringifyItems rest

def stringifyFields : List (String × Json) → List Char
  | [] => []
  | [(key, value)] => quotedText key ++ ':' :: stringifyChars value
  | (key, value) :: rest =>
      quotedText key ++ ':' :: (stringifyChars value ++ ',' :: stringifyFields rest)

end

/-- The text of a value. -/
def stringify (value : Json) : String := String.ofList (stringifyChars floats value)

mutual

/-- A text or a key inside the value has the code point. -/
def Mentions (ch : Char) : Json → Prop
  | str value => ch ∈ value.toList
  | arr items => MentionsItems ch items
  | obj fields => MentionsFields ch fields
  | _ => False

def MentionsItems (ch : Char) : List Json → Prop
  | [] => False
  | item :: rest => Mentions ch item ∨ MentionsItems ch rest

def MentionsFields (ch : Char) : List (String × Json) → Prop
  | [] => False
  | (key, value) :: rest => ch ∈ key.toList ∨ Mentions ch value ∨ MentionsFields ch rest

end

end Json

/-! ## The line boundaries of a text -/

/-- The line boundaries that stand raw in a string: next line, line and paragraph separator. -/
def rawBoundaries : List Char := [133, 8232, 8233].map Char.ofNat

theorem rawBoundaries_subset : ∀ ch ∈ rawBoundaries, ch ∈ lineBoundaries :=
  forall_mem_of_all (by decide)

/-- What is printed around and in place of the code points of a text. -/
def plainChars : List Char :=
  numberChars ++ ['{', '}', '[', ']', '"', ',', ':', '\\', 'a', 'b', 'c', 'd', 'f', 'l', 'n', 'r',
    's', 't', 'u']

theorem plainChars_not_boundary : ∀ ch ∈ plainChars, ch ∉ lineBoundaries :=
  forall_mem_of_all (by decide)

theorem escapeChar_of_raw : ∀ ch ∈ rawBoundaries, escapeChar ch = [ch] :=
  forall_mem_of_all (by decide)

/-- A code point stands raw, or plain ones stand for it. -/
theorem escapeChar_cases (ch : Char) :
    (escapeChar ch = [ch] ∧ 32 ≤ ch.toNat) ∨ ∀ x ∈ escapeChar ch, x ∈ plainChars := by
  have hdigit : ∀ n < 16, Nat.digitChar n ∈ plainChars := by decide
  have hescape : ∀ letter ∈ plainChars, ∀ x ∈ ['\\', letter], x ∈ plainChars := by
    intro letter hletter x hx
    rcases List.mem_cons.1 hx with rfl | hx
    · decide
    · exact List.mem_singleton.1 hx ▸ hletter
  by_cases hraw : escapeChar ch = [ch] ∧ 32 ≤ ch.toNat
  · exact Or.inl hraw
  · right
    unfold escapeChar at hraw ⊢
    split_ifs at hraw ⊢ with _ _ _ _ _ _ _ hcontrol
    · exact hescape '"' (by decide)
    · exact hescape '\\' (by decide)
    · exact hescape 'b' (by decide)
    · exact hescape 't' (by decide)
    · exact hescape 'n' (by decide)
    · exact hescape 'f' (by decide)
    · exact hescape 'r' (by decide)
    · intro x hx
      simp only [List.mem_cons, List.not_mem_nil, or_false] at hx
      rcases hx with rfl | rfl | rfl | rfl | rfl | rfl
      · decide
      · decide
      · decide
      · decide
      · exact hdigit _ (by omega)
      · exact hdigit _ (by omega)
    · exact absurd ⟨rfl, not_lt.1 hcontrol⟩ hraw

variable {boundary : Char}

theorem mem_escapeChar (h : boundary ∈ lineBoundaries) (ch : Char) :
    boundary ∈ escapeChar ch ↔ ch = boundary ∧ boundary ∈ rawBoundaries := by
  constructor
  · intro hmem
    rcases escapeChar_cases ch with ⟨hself, hprinting⟩ | hplain
    · rw [hself, List.mem_singleton] at hmem
      have hlist : ∀ x ∈ lineBoundaries, 32 ≤ x.toNat → x ∈ rawBoundaries :=
        forall_mem_of_all (by decide)
      exact ⟨hmem.symm, hlist _ h (hmem ▸ hprinting)⟩
    · exact absurd h (plainChars_not_boundary _ (hplain _ hmem))
  · rintro ⟨heq, hraw⟩
    rw [heq, escapeChar_of_raw _ hraw]
    exact List.mem_singleton_self _

/-- A string shows the raw boundaries among its code points. -/
theorem mem_quotedText (h : boundary ∈ lineBoundaries) (text : String) :
    boundary ∈ quotedText text ↔ boundary ∈ rawBoundaries ∧ boundary ∈ text.toList := by
  have hquote : boundary ≠ '"' := fun heq => plainChars_not_boundary '"' (by decide) (heq ▸ h)
  simp only [quotedText, List.mem_cons, List.mem_append, List.mem_flatMap, List.not_mem_nil,
    or_false, hquote, false_or, mem_escapeChar h]
  constructor
  · rintro ⟨ch, hch, heq, hraw⟩
    exact ⟨hraw, heq ▸ hch⟩
  · exact fun ⟨hraw, hmem⟩ => ⟨boundary, hmem, rfl, hraw⟩

theorem not_mem_plain (h : boundary ∈ lineBoundaries) {text : List Char}
    (hplain : ∀ ch ∈ text, ch ∈ plainChars) : boundary ∉ text :=
  fun hmem => plainChars_not_boundary _ (hplain _ hmem) h

theorem not_mem_toString (h : boundary ∈ lineBoundaries) (value : ℤ) :
    boundary ∉ (toString value).toList := by
  have hdigit : ∀ ch ∈ lineBoundaries, ch.isDigit = false := forall_mem_of_all (by decide)
  have hnat : ∀ n : ℕ, boundary ∉ n.repr.toList := by
    intro n hmem
    rw [Nat.toList_repr] at hmem
    have := Nat.isDigit_of_mem_toDigits (by decide) (by decide) hmem
    rw [hdigit _ h] at this
    cases this
  have hsign : boundary ≠ '-' := fun heq => plainChars_not_boundary '-' (by decide) (heq ▸ h)
  rw [Int.toString_eq_repr, Int.repr_eq_if]
  split
  · exact hnat _
  · rw [String.toList_append, List.mem_append, not_or]
    exact ⟨by simpa using hsign, hnat _⟩

namespace Json

variable {floats : FloatText}

mutual

/-- The text of a value has the boundaries that its strings have raw. -/
theorem mem_stringifyChars (h : boundary ∈ lineBoundaries) : ∀ value : Json,
    boundary ∈ stringifyChars floats value ↔ boundary ∈ rawBoundaries ∧ value.Mentions boundary
  | null => by
      have hplain : boundary ∉ ['n', 'u', 'l', 'l'] :=
        not_mem_plain h (forall_mem_of_all (by decide))
      simpa [stringifyChars, Mentions] using hplain
  | bool value => by
      have htrue : boundary ∉ ['t', 'r', 'u', 'e'] :=
        not_mem_plain h (forall_mem_of_all (by decide))
      have hfalse : boundary ∉ ['f', 'a', 'l', 's', 'e'] :=
        not_mem_plain h (forall_mem_of_all (by decide))
      cases value
      · simpa [stringifyChars, Mentions] using hfalse
      · simpa [stringifyChars, Mentions] using htrue
  | int value => by
      simpa [stringifyChars, Mentions] using not_mem_toString h value
  | float value => by
      have hplain : ∀ ch ∈ floats.text value, ch ∈ plainChars := fun ch hch =>
        List.mem_append_left _ (floats.plain value ch hch)
      simpa [stringifyChars, Mentions] using not_mem_plain h hplain
  | str value => mem_quotedText h value
  | arr items => by
      have hopen : boundary ≠ '[' := fun heq => plainChars_not_boundary '[' (by decide) (heq ▸ h)
      have hclose : boundary ≠ ']' := fun heq => plainChars_not_boundary ']' (by decide) (heq ▸ h)
      simp [stringifyChars, Mentions, hopen, hclose, mem_stringifyItems h items]
  | obj fields => by
      have hopen : boundary ≠ '{' := fun heq => plainChars_not_boundary '{' (by decide) (heq ▸ h)
      have hclose : boundary ≠ '}' := fun heq => plainChars_not_boundary '}' (by decide) (heq ▸ h)
      simp [stringifyChars, Mentions, hopen, hclose, mem_stringifyFields h fields]

theorem mem_stringifyItems (h : boundary ∈ lineBoundaries) : ∀ items : List Json,
    boundary ∈ stringifyItems floats items ↔
      boundary ∈ rawBoundaries ∧ MentionsItems boundary items
  | [] => by simp [stringifyItems, MentionsItems]
  | [item] => by
      simpa [stringifyItems, MentionsItems] using mem_stringifyChars h item
  | item :: other :: rest => by
      have hcomma : boundary ≠ ',' := fun heq => plainChars_not_boundary ',' (by decide) (heq ▸ h)
      have hmentions : MentionsItems boundary (item :: other :: rest) ↔
          item.Mentions boundary ∨ MentionsItems boundary (other :: rest) := Iff.rfl
      rw [stringifyItems, List.mem_append, List.mem_cons, mem_stringifyChars h item,
        mem_stringifyItems h (other :: rest), hmentions]
      · tauto
      · simp

theorem mem_stringifyFields (h : boundary ∈ lineBoundaries) : ∀ fields : List (String × Json),
    boundary ∈ stringifyFields floats fields ↔
      boundary ∈ rawBoundaries ∧ MentionsFields boundary fields
  | [] => by simp [stringifyFields, MentionsFields]
  | [(key, value)] => by
      have hcolon : boundary ≠ ':' := fun heq => plainChars_not_boundary ':' (by decide) (heq ▸ h)
      simp only [stringifyFields, MentionsFields, List.mem_append, List.mem_cons, hcolon, false_or,
        or_false, mem_quotedText h, mem_stringifyChars h value]
      tauto
  | (key, value) :: other :: rest => by
      have hcolon : boundary ≠ ':' := fun heq => plainChars_not_boundary ':' (by decide) (heq ▸ h)
      have hcomma : boundary ≠ ',' := fun heq => plainChars_not_boundary ',' (by decide) (heq ▸ h)
      have hmentions : MentionsFields boundary ((key, value) :: other :: rest) ↔
          boundary ∈ key.toList ∨ value.Mentions boundary ∨
            MentionsFields boundary (other :: rest) := Iff.rfl
      rw [stringifyFields, List.mem_append, List.mem_cons, List.mem_append, List.mem_cons,
        mem_quotedText h, mem_stringifyChars h value, mem_stringifyFields h (other :: rest),
        hmentions]
      · tauto
      · simp

end

theorem stringify_obj (fields : List (String × Json)) :
    (stringify floats (obj fields)).toList = '{' :: (stringifyFields floats fields ++ ['}']) := by
  rw [stringify, String.toList_ofList, stringifyChars]

/-- The text of an object ends inside a line. -/
theorem endsInLine_stringify (fields : List (String × Json)) :
    EndsInLine (stringify floats (obj fields)).toList :=
  ⟨'{' :: stringifyFields floats fields, '}', stringify_obj fields, by decide⟩

theorem stringify_ne_empty (fields : List (String × Json)) :
    stringify floats (obj fields) ≠ "" := by
  intro heq
  have hchars : (stringify floats (obj fields)).toList = _ := stringify_obj fields
  rw [heq] at hchars
  cases hchars

end Json

end ConstellationTopology
