import Mathlib.Data.List.Basic
import Mathlib.Data.String.Basic

set_option autoImplicit false

/-! # Dot segments

The removal of the segments `.` and `..` from an absolute path, with `%2e` read as a dot. A path is
walked segment by segment with the segments kept so far; what some segments do to any walk is to
climb a number of times and to enter some names (`removeDotSegments_append`). -/

namespace ConstellationTopology

/-! ## Encoded dots -/

/-- Every `%2e` is a dot. -/
def decodeDotChars : List Char → List Char
  | '%' :: '2' :: 'e' :: rest => '.' :: decodeDotChars rest
  | '%' :: '2' :: 'E' :: rest => '.' :: decodeDotChars rest
  | ch :: rest => ch :: decodeDotChars rest
  | [] => []

/-- A segment with its encoded dots decoded. -/
def decodeDots (segment : String) : String := String.ofList (decodeDotChars segment.toList)

/-- Some `%2e` stands in the text. -/
def hasEncodedDot : List Char → Bool
  | '%' :: '2' :: 'e' :: _ => true
  | '%' :: '2' :: 'E' :: _ => true
  | _ :: rest => hasEncodedDot rest
  | [] => false

theorem decodeDotChars_of_not_hasEncodedDot {chars : List Char} (h : hasEncodedDot chars = false) :
    decodeDotChars chars = chars := by
  induction chars using hasEncodedDot.induct with
  | case1 rest => simp [hasEncodedDot] at h
  | case2 rest => simp [hasEncodedDot] at h
  | case3 ch rest h1 h2 ih =>
      rw [hasEncodedDot.eq_3 _ _ h1 h2] at h
      rw [decodeDotChars.eq_3 _ _ h1 h2, ih h]
  | case4 => rfl

/-- What starts with a character that is no dot started with it before. -/
theorem exists_of_decodeDotChars_eq_cons {chars rest : List Char} {ch : Char} (hdot : ch ≠ '.')
    (h : decodeDotChars chars = ch :: rest) :
    ∃ before, chars = ch :: before ∧ decodeDotChars before = rest := by
  induction chars using decodeDotChars.induct with
  | case1 behind => 
      rw [decodeDotChars.eq_1, List.cons.injEq] at h
      exact absurd h.1.symm hdot
  | case2 behind => 
      rw [decodeDotChars.eq_2, List.cons.injEq] at h
      exact absurd h.1.symm hdot
  | case3 head behind h1 h2 ih =>
      rw [decodeDotChars.eq_3 _ _ h1 h2, List.cons.injEq] at h
      exact ⟨behind, by rw [h.1], h.2⟩
  | case4 => cases h

/-- Decoding once is enough. -/
theorem hasEncodedDot_decodeDotChars (chars : List Char) :
    hasEncodedDot (decodeDotChars chars) = false := by
  induction chars using decodeDotChars.induct with
  | case1 rest ih => simpa [decodeDotChars, hasEncodedDot] using ih
  | case2 rest ih => simpa [decodeDotChars, hasEncodedDot] using ih
  | case3 ch rest h1 h2 ih =>
      rw [decodeDotChars.eq_3 _ _ h1 h2]
      rw [hasEncodedDot.eq_3 _ _ ?_ ?_]
      · exact ih
      · intro behind hch hrest
        obtain ⟨before, rfl, hbefore⟩ := exists_of_decodeDotChars_eq_cons (by decide) hrest
        obtain ⟨last, rfl, _⟩ := exists_of_decodeDotChars_eq_cons (by decide) hbefore
        exact h1 last hch rfl
      · intro behind hch hrest
        obtain ⟨before, rfl, hbefore⟩ := exists_of_decodeDotChars_eq_cons (by decide) hrest
        obtain ⟨last, rfl, _⟩ := exists_of_decodeDotChars_eq_cons (by decide) hbefore
        exact h2 last hch rfl
  | case4 => rfl

/-! ## Walking -/

/-- A segment that another one follows. -/
def enterSegment (kept : List String) (segment : String) : List String :=
  if segment = "." then kept
  else if segment = ".." then kept.dropLast
  else kept ++ [segment]

/-- The last segment: a dot segment leaves a slash at the end. -/
def enterLastSegment (kept : List String) (segment : String) : List String :=
  if segment = "." then kept ++ [""]
  else if segment = ".." then kept.dropLast ++ [""]
  else kept ++ [segment]

/-- The removal of dot segments (RFC 3986, 5.2.4) from the segments of an absolute path, with the
    ones kept so far. -/
def removeDotSegments : List String → List String → List String
  | kept, [] => kept
  | kept, [last] => enterLastSegment kept last
  | kept, segment :: next :: rest => removeDotSegments (enterSegment kept segment) (next :: rest)

/-- What is neither `.` nor `..`. -/
def PlainSegment (segment : String) : Prop := segment ≠ "." ∧ segment ≠ ".."

theorem plain_concat {kept : List String} {segment : String}
    (hkept : ∀ name ∈ kept, PlainSegment name) (hplain : PlainSegment segment) :
    ∀ name ∈ kept ++ [segment], PlainSegment name :=
  List.forall_mem_append.2 ⟨hkept, List.forall_mem_singleton.2 hplain⟩

theorem enterSegment_plain {kept : List String} {segment : String}
    (hkept : ∀ name ∈ kept, PlainSegment name) :
    ∀ name ∈ enterSegment kept segment, PlainSegment name := by
  unfold enterSegment
  split
  · exact hkept
  split
  · exact fun name hname => hkept name (List.dropLast_subset kept hname)
  · next hdot hdots => exact plain_concat hkept ⟨hdot, hdots⟩

theorem enterLastSegment_plain {kept : List String} {segment : String}
    (hkept : ∀ name ∈ kept, PlainSegment name) :
    ∀ name ∈ enterLastSegment kept segment, PlainSegment name := by
  have hempty : PlainSegment "" := by constructor <;> decide
  unfold enterLastSegment
  split
  · exact plain_concat hkept hempty
  split
  · exact plain_concat (fun name hname => hkept name (List.dropLast_subset kept hname)) hempty
  · next hdot hdots => exact plain_concat hkept ⟨hdot, hdots⟩

/-- No dot segment is left. -/
theorem removeDotSegments_plain {kept segments : List String}
    (hkept : ∀ name ∈ kept, PlainSegment name) :
    ∀ name ∈ removeDotSegments kept segments, PlainSegment name := by
  induction kept, segments using removeDotSegments.induct with
  | case1 kept => exact hkept
  | case2 kept last => exact enterLastSegment_plain hkept
  | case3 kept segment next rest ih => exact ih (enterSegment_plain hkept)

/-- What is kept comes from the segments, apart from the empty one at the end. -/
theorem mem_removeDotSegments {kept segments : List String} {name : String}
    (h : name ∈ removeDotSegments kept segments) : name ∈ kept ∨ name ∈ segments ∨ name = "" := by
  induction kept, segments using removeDotSegments.induct with
  | case1 kept => exact Or.inl h
  | case2 kept last =>
      have hfront := List.dropLast_subset kept
      simp only [removeDotSegments, enterLastSegment] at h
      split at h
      · simp only [List.mem_append, List.mem_singleton] at h
        tauto
      split at h
      · simp only [List.mem_append, List.mem_singleton] at h
        rcases h with h | h
        · exact Or.inl (hfront h)
        · exact Or.inr (Or.inr h)
      · simp only [List.mem_append, List.mem_singleton] at h
        rcases h with h | h
        · exact Or.inl h
        · exact Or.inr (Or.inl (List.mem_singleton.2 h))
  | case3 kept segment next rest ih =>
      rcases ih h with hin | hin | hin
      · simp only [enterSegment] at hin
        split at hin
        · exact Or.inl hin
        split at hin
        · exact Or.inl (List.dropLast_subset kept hin)
        · rcases List.mem_append.1 hin with hin | hin
          · exact Or.inl hin
          · exact Or.inr (Or.inl (List.mem_singleton.1 hin ▸ List.mem_cons_self))
      · exact Or.inr (Or.inl (List.mem_cons_of_mem _ hin))
      · exact Or.inr (Or.inr hin)

/-- Plain segments that others follow are kept. -/
theorem removeDotSegments_append {kept front segments : List String}
    (hfront : ∀ name ∈ front, PlainSegment name) (hne : segments ≠ []) :
    removeDotSegments kept (front ++ segments) = removeDotSegments (kept ++ front) segments := by
  induction front generalizing kept with
  | nil => simp
  | cons segment rest ih =>
      obtain ⟨hplain, hrest⟩ := List.forall_mem_cons.1 hfront
      have henter : enterSegment kept segment = kept ++ [segment] := by
        simp [enterSegment, hplain.1, hplain.2]
      obtain ⟨next, behind, hcons⟩ := List.exists_cons_of_ne_nil
        (List.append_ne_nil_of_right_ne_nil rest hne)
      rw [List.cons_append, hcons, removeDotSegments, ← hcons, ih hrest, henter, List.append_assoc]
      rfl

theorem removeDotSegments_of_plain {kept segments : List String}
    (h : ∀ name ∈ segments, PlainSegment name) :
    removeDotSegments kept segments = kept ++ segments := by
  rcases List.eq_nil_or_concat segments with rfl | ⟨front, last, rfl⟩
  · simp [removeDotSegments]
  · rw [List.concat_eq_append] at h ⊢
    obtain ⟨hfront, hlast⟩ := List.forall_mem_append.1 h
    have hplain := hlast last List.mem_cons_self
    rw [removeDotSegments_append hfront (by simp), removeDotSegments, enterLastSegment,
      if_neg hplain.1, if_neg hplain.2, List.append_assoc]

/-! ## What some segments do to any walk -/

/-- To climb a number of times and then to enter some names. -/
structure Detour where
  climbs : ℕ
  names : List String

namespace Detour

/-- A detour that stays where it is. -/
def stay : Detour := ⟨0, []⟩

/-- `..` leaves the last name, or climbs where there is none. -/
def up (detour : Detour) : Detour :=
  if detour.names = [] then ⟨detour.climbs + 1, []⟩ else ⟨detour.climbs, detour.names.dropLast⟩

/-- One name deeper. -/
def push (detour : Detour) (name : String) : Detour := ⟨detour.climbs, detour.names ++ [name]⟩

/-- A segment that another one follows. -/
def enter (detour : Detour) (segment : String) : Detour :=
  if segment = "." then detour else if segment = ".." then detour.up else detour.push segment

/-- The last segment is entered. -/
def enterLast (detour : Detour) (segment : String) : Detour :=
  if segment = "." then detour.push ""
  else if segment = ".." then detour.up.push ""
  else detour.push segment

/-- The detour that some segments make, after one made so far. -/
def walk : Detour → List String → Detour
  | detour, [] => detour
  | detour, [last] => detour.enterLast last
  | detour, segment :: next :: rest => walk (detour.enter segment) (next :: rest)

/-- Where a detour leads to. The root has no parent, so that further climbs are lost there. -/
def apply (detour : Detour) (kept : List String) : List String :=
  kept.take (kept.length - detour.climbs) ++ detour.names

@[simp] theorem apply_stay (kept : List String) : stay.apply kept = kept := by
  simp [stay, apply]

@[simp] theorem apply_push (detour : Detour) (name : String) (kept : List String) :
    (detour.push name).apply kept = detour.apply kept ++ [name] := by
  simp [push, apply]

@[simp] theorem apply_up (detour : Detour) (kept : List String) :
    detour.up.apply kept = (detour.apply kept).dropLast := by
  unfold up apply
  split
  · next hnil =>
      simp only [hnil, List.append_nil]
      rw [List.dropLast_eq_take, List.take_take, List.length_take]
      congr 1
      omega
  · next hne => rw [List.dropLast_append_of_ne_nil hne]

theorem apply_enter (detour : Detour) (segment : String) (kept : List String) :
    (detour.enter segment).apply kept = enterSegment (detour.apply kept) segment := by
  unfold enter enterSegment
  split
  · rfl
  split
  · exact apply_up detour kept
  · exact apply_push detour segment kept

theorem apply_enterLast (detour : Detour) (segment : String) (kept : List String) :
    (detour.enterLast segment).apply kept = enterLastSegment (detour.apply kept) segment := by
  unfold enterLast enterLastSegment
  split
  · exact apply_push detour "" kept
  split
  · rw [apply_push, apply_up]
  · exact apply_push detour segment kept

/-- Entering segments one after another makes the detour that they amount to. -/
theorem foldl_enter_apply (detour : Detour) (segments kept : List String) :
    (segments.foldl enter detour).apply kept =
      segments.foldl enterSegment (detour.apply kept) := by
  induction segments generalizing detour with
  | nil => rfl
  | cons segment rest ih => rw [List.foldl_cons, List.foldl_cons, ih, apply_enter]

/-- Plain segments are entered as they are. -/
theorem foldl_enter_plain (detour : Detour) {segments : List String}
    (h : ∀ segment ∈ segments, PlainSegment segment) :
    segments.foldl enter detour = ⟨detour.climbs, detour.names ++ segments⟩ := by
  induction segments generalizing detour with
  | nil => rw [List.foldl_nil, List.append_nil]
  | cons segment rest ih =>
      obtain ⟨hplain, hrest⟩ := List.forall_mem_cons.1 h
      rw [List.foldl_cons, enter, if_neg hplain.1, if_neg hplain.2, ih _ hrest, push,
        List.append_assoc, List.singleton_append]

/-- The removal of dot segments makes the detour of the segments. -/
theorem removeDotSegments_apply (detour : Detour) (segments kept : List String) :
    removeDotSegments (detour.apply kept) segments = (detour.walk segments).apply kept := by
  induction detour, segments using walk.induct with
  | case1 detour => rfl
  | case2 detour last => rw [removeDotSegments, walk, apply_enterLast]
  | case3 detour segment next rest ih => rw [removeDotSegments, walk, ← ih, apply_enter]

/-- A detour comes back exactly when it first enters the names it has climbed out of. -/
theorem prefix_apply_iff (detour : Detour) (kept : List String) :
    kept <+: detour.apply kept ↔ kept.drop (kept.length - detour.climbs) <+: detour.names := by
  unfold apply
  conv_lhs =>
    lhs
    rw [← List.take_append_drop (kept.length - detour.climbs) kept]
  exact List.prefix_append_right_inj _

end Detour

end ConstellationTopology
