import ConstellationTopology.Library.Text
import Mathlib.Algebra.GroupWithZero.Nat

set_option autoImplicit false

/-! # The lines of a text

`str.splitlines`: a text is cut at every line boundary of Unicode, not at the line feed alone. Joining
lines by line feeds is undone by it exactly when no line has a boundary inside. -/

namespace ConstellationTopology

/-- The code points at which `str.splitlines` cuts. -/
def lineBoundaries : List Char := [10, 11, 12, 13, 28, 29, 30, 133, 8232, 8233].map Char.ofNat

/-- The lines after what has been read of the current one. A carriage return and the line feed after
    it are one boundary, and a boundary at the end opens no line. -/
def splitLinesFrom (current : List Char) : List Char → List (List Char)
  | [] => if current = [] then [] else [current]
  | '\r' :: '\n' :: rest => current :: splitLinesFrom [] rest
  | ch :: rest =>
      if ch ∈ lineBoundaries then current :: splitLinesFrom [] rest
      else splitLinesFrom (current ++ [ch]) rest

/-- `text.splitlines()`. -/
def splitLines (text : String) : List String :=
  (splitLinesFrom [] text.toList).map String.ofList

/-- A test of each element of a list, to be evaluated. -/
theorem forall_mem_of_all {α : Type} {p : α → Prop} [DecidablePred p] {xs : List α}
    (h : (xs.all fun x => p x) = true) : ∀ x ∈ xs, p x := by
  simpa using h

/-! ## One step -/

theorem splitLinesFrom_cons {ch : Char} (h : ch ≠ '\r') (current rest : List Char) :
    splitLinesFrom current (ch :: rest) =
      if ch ∈ lineBoundaries then current :: splitLinesFrom [] rest
      else splitLinesFrom (current ++ [ch]) rest := by
  rw [splitLinesFrom]
  exact fun _ heq _ => h heq

/-- A line without a boundary is read to its end. -/
theorem splitLinesFrom_append {line : List Char} (h : ∀ ch ∈ line, ch ∉ lineBoundaries)
    (current rest : List Char) :
    splitLinesFrom current (line ++ rest) = splitLinesFrom (current ++ line) rest := by
  induction line generalizing current with
  | nil => simp
  | cons ch line ih =>
      have hch : ch ∉ lineBoundaries := h ch List.mem_cons_self
      have hcr : ch ≠ '\r' := fun heq => hch (heq ▸ by decide)
      rw [List.cons_append, splitLinesFrom_cons hcr, if_neg hch,
        ih fun x hx => h x (List.mem_cons_of_mem _ hx), List.append_assoc]
      rfl

/-! ## Joined lines -/

/-- A text that ends inside a line: its last code point is no boundary. -/
def EndsInLine (text : List Char) : Prop := ∃ before last, text = before ++ [last] ∧
  last ∉ lineBoundaries

variable {text : List Char}

/-- The line feed after such a text ends its last line and no other. -/
theorem splitLinesFrom_newline (hcr : '\r' ∉ text) (hend : EndsInLine text)
    (current rest : List Char) :
    splitLinesFrom current (text ++ '\n' :: rest) =
      splitLinesFrom current text ++ splitLinesFrom [] rest := by
  obtain ⟨before, last, rfl, hlast⟩ := hend
  induction before generalizing current with
  | nil =>
      have hne : last ≠ '\r' := fun heq => hlast (heq ▸ by decide)
      have hnewline : '\n' ∈ lineBoundaries := by decide
      rw [List.nil_append, List.singleton_append, splitLinesFrom_cons hne, if_neg hlast,
        splitLinesFrom_cons (by decide), if_pos hnewline, splitLinesFrom_cons hne, if_neg hlast]
      simp [splitLinesFrom]
  | cons ch before ih =>
      simp only [List.cons_append, List.mem_cons, not_or] at hcr
      rw [List.cons_append, List.cons_append, splitLinesFrom_cons (Ne.symm hcr.1),
        splitLinesFrom_cons (Ne.symm hcr.1)]
      by_cases hch : ch ∈ lineBoundaries
      · rw [if_pos hch, if_pos hch, ih _ hcr.2]
        rfl
      · rw [if_neg hch, if_neg hch, ih _ hcr.2]

/-- It has one line more than boundaries. -/
theorem length_splitLinesFrom (hcr : '\r' ∉ text) (hend : EndsInLine text) (current : List Char) :
    (splitLinesFrom current text).length = text.countP (· ∈ lineBoundaries) + 1 := by
  obtain ⟨before, last, rfl, hlast⟩ := hend
  induction before generalizing current with
  | nil =>
      have hne : last ≠ '\r' := fun heq => hlast (heq ▸ by decide)
      rw [List.nil_append, splitLinesFrom_cons hne, if_neg hlast]
      simp [splitLinesFrom, hlast]
  | cons ch before ih =>
      simp only [List.cons_append, List.mem_cons, not_or] at hcr
      rw [List.cons_append, splitLinesFrom_cons (Ne.symm hcr.1), List.countP_cons]
      by_cases hch : ch ∈ lineBoundaries
      · rw [if_pos hch, List.length_cons, ih _ hcr.2]
        simp [hch]
      · rw [if_neg hch, ih _ hcr.2]
        simp [hch]

/-- Texts joined by line feeds have the lines of each. -/
theorem splitLinesFrom_intercalate {texts : List (List Char)}
    (hcr : ∀ text ∈ texts, '\r' ∉ text) (hend : ∀ text ∈ texts, EndsInLine text) :
    splitLinesFrom [] (['\n'].intercalate texts) = texts.flatMap (splitLinesFrom []) := by
  induction texts with
  | nil => rfl
  | cons text rest ih =>
      cases rest with
      | nil => simp [List.intercalate]
      | cons other rest =>
          have hjoin : ['\n'].intercalate (text :: other :: rest) =
              text ++ '\n' :: ['\n'].intercalate (other :: rest) := by
            simp [List.intercalate]
          rw [hjoin, splitLinesFrom_newline (hcr _ List.mem_cons_self) (hend _ List.mem_cons_self),
            ih (fun t ht => hcr t (List.mem_cons_of_mem _ ht))
              fun t ht => hend t (List.mem_cons_of_mem _ ht)]
          rfl

variable {lines : List String}

theorem splitLines_intercalate (hcr : ∀ line ∈ lines, '\r' ∉ line.toList)
    (hend : ∀ line ∈ lines, EndsInLine line.toList) :
    splitLines (String.intercalate "\n" lines) = lines.flatMap splitLines := by
  have hchars : (String.intercalate "\n" lines).toList =
      ['\n'].intercalate (lines.map String.toList) := by
    rw [String.toList_intercalate]
    rfl
  unfold splitLines
  rw [hchars, splitLinesFrom_intercalate, List.flatMap_map, List.map_flatMap]
  · intro text htext
    obtain ⟨line, hline, rfl⟩ := List.mem_map.1 htext
    exact hcr line hline
  · intro text htext
    obtain ⟨line, hline, rfl⟩ := List.mem_map.1 htext
    exact hend line hline

/-- A line without a boundary is its only line. -/
theorem splitLines_of_line {line : String} (hne : line ≠ "")
    (h : ∀ ch ∈ line.toList, ch ∉ lineBoundaries) : splitLines line = [line] := by
  have hlist : line.toList ≠ [] := fun heq => hne (String.toList_inj.1 heq)
  have hread := splitLinesFrom_append h [] []
  rw [List.append_nil, List.nil_append, splitLinesFrom, if_neg hlist] at hread
  rw [splitLines, hread, List.map_singleton, String.ofList_toList]

/-- Splitting undoes joining when no line has a boundary inside. -/
theorem splitLines_join (hne : ∀ line ∈ lines, line ≠ "")
    (h : ∀ line ∈ lines, ∀ ch ∈ line.toList, ch ∉ lineBoundaries) :
    splitLines (String.intercalate "\n" lines) = lines := by
  have hcr : ∀ line ∈ lines, '\r' ∉ line.toList := fun line hline hmem =>
    h line hline _ hmem (by decide)
  have hend : ∀ line ∈ lines, EndsInLine line.toList := by
    intro line hline
    rcases List.eq_nil_or_concat line.toList with hnil | ⟨before, last, hlast⟩
    · exact absurd (String.toList_inj.1 hnil) (hne line hline)
    · rw [List.concat_eq_append] at hlast
      exact ⟨before, last, hlast, h line hline last (by simp [hlast])⟩
  rw [splitLines_intercalate hcr hend]
  refine (List.flatMap_congr fun line hline => ?_).trans (List.flatMap_singleton' lines)
  exact splitLines_of_line (hne line hline) (h line hline)

/-- Each text gives a line of its own, and one that has a boundary inside gives more. -/
theorem length_splitLines_join (hcr : ∀ line ∈ lines, '\r' ∉ line.toList)
    (hend : ∀ line ∈ lines, EndsInLine line.toList) :
    (splitLines (String.intercalate "\n" lines)).length =
      lines.length + (lines.map fun line => line.toList.countP (· ∈ lineBoundaries)).sum := by
  rw [splitLines_intercalate hcr hend]
  induction lines with
  | nil => rfl
  | cons line rest ih =>
      have hrest := ih (fun l hl => hcr l (List.mem_cons_of_mem _ hl))
        fun l hl => hend l (List.mem_cons_of_mem _ hl)
      have hline : (splitLines line).length = line.toList.countP (· ∈ lineBoundaries) + 1 := by
        rw [splitLines, List.length_map, length_splitLinesFrom (hcr _ List.mem_cons_self)
          (hend _ List.mem_cons_self)]
      simp only [List.flatMap_cons, List.length_append, hrest, hline, List.map_cons, List.sum_cons,
        List.length_cons]
      omega

/-! ## Where a line stands -/

/-- What stands above a line: nothing, or a text that ends with a boundary which what follows does
not complete. -/
def CutBefore (above rest : List Char) : Prop :=
  above = [] ∨ ∃ before last, above = before ++ [last] ∧ last ∈ lineBoundaries ∧
    ¬ (last = '\r' ∧ rest.head? = some '\n')

theorem CutBefore.of_append {above rest behind : List Char} (h : CutBefore above (rest ++ behind)) :
    CutBefore above rest := by
  obtain hnil | ⟨before, last, heq, hlast, hapart⟩ := h
  · exact Or.inl hnil
  · refine Or.inr ⟨before, last, heq, hlast, fun hcrlf => hapart ⟨hcrlf.1, ?_⟩⟩
    rw [List.head?_append, hcrlf.2]
    rfl

/-- A line of the text with what stands above it: it reaches from one boundary to the next. -/
def LineAt (text above line : List Char) : Prop :=
  ∃ behind, text = above ++ (line ++ behind) ∧ CutBefore above (line ++ behind) ∧
    (∀ ch ∈ line, ch ∉ lineBoundaries) ∧ (∀ ch ∈ behind.head?, ch ∈ lineBoundaries) ∧
      line ++ behind ≠ []

theorem splitLinesFrom_cons_of_apart {ch : Char} {rest : List Char}
    (h : ¬ (ch = '\r' ∧ rest.head? = some '\n')) (current : List Char) :
    splitLinesFrom current (ch :: rest) =
      if ch ∈ lineBoundaries then current :: splitLinesFrom [] rest
      else splitLinesFrom (current ++ [ch]) rest := by
  rw [splitLinesFrom]
  rintro behind rfl rfl
  exact h ⟨rfl, rfl⟩

/-- At a boundary the current line is over. -/
theorem exists_splitLinesFrom {current behind : List Char}
    (hbehind : ∀ ch ∈ behind.head?, ch ∈ lineBoundaries) (hne : current ++ behind ≠ []) :
    ∃ rest, splitLinesFrom current behind = current :: rest := by
  cases behind with
  | nil =>
      rw [List.append_nil] at hne
      exact ⟨[], by rw [splitLinesFrom, if_neg hne]⟩
  | cons ch behind =>
      have hch : ch ∈ lineBoundaries := hbehind ch rfl
      by_cases hcrlf : ch = '\r' ∧ behind.head? = some '\n'
      · obtain ⟨rfl, hhead⟩ := hcrlf
        obtain ⟨rest, rfl⟩ := List.head?_eq_some_iff.1 hhead
        exact ⟨_, by rw [splitLinesFrom]⟩
      · exact ⟨_, by rw [splitLinesFrom_cons_of_apart hcrlf, if_pos hch]⟩

/-- A character before a text that goes on, unless the two are one boundary. -/
theorem splitLinesFrom_cons_append {ch : Char} {text rest : List Char} {lines : List (List Char)}
    (hne : text ≠ []) (hapart : ¬ (ch = '\r' ∧ text.head? = some '\n'))
    (h : ∀ current, splitLinesFrom current (text ++ rest) = splitLinesFrom current text ++ lines)
    (current : List Char) :
    splitLinesFrom current (ch :: (text ++ rest)) = splitLinesFrom current (ch :: text) ++ lines := by
  have hapart' : ¬ (ch = '\r' ∧ (text ++ rest).head? = some '\n') := by
    rwa [List.head?_append_of_ne_nil _ hne]
  rw [splitLinesFrom_cons_of_apart hapart', splitLinesFrom_cons_of_apart hapart, h, h]
  split <;> rfl

/-- The lines of a text that is cut are those above the cut and those behind it. -/
theorem splitLinesFrom_of_cut {above rest : List Char} (hcut : CutBefore above rest)
    (hne : above ≠ []) (current : List Char) :
    splitLinesFrom current (above ++ rest) =
      splitLinesFrom current above ++ splitLinesFrom [] rest := by
  obtain rfl | ⟨before, last, rfl, hlast, hapart⟩ := hcut
  · exact absurd rfl hne
  clear hne
  have hend : ∀ current, splitLinesFrom current (last :: rest) =
      splitLinesFrom current [last] ++ splitLinesFrom [] rest := by
    intro current
    rw [splitLinesFrom_cons_of_apart hapart, if_pos hlast,
      splitLinesFrom_cons_of_apart (by simp), if_pos hlast]
    simp [splitLinesFrom]
  -- a carriage return and its line feed are read together, so the step is by two
  induction before using List.twoStepInduction generalizing current with
  | nil => exact hend current
  | singleton ch =>
      by_cases hcrlf : ch = '\r' ∧ last = '\n'
      · obtain ⟨rfl, rfl⟩ := hcrlf
        simp [splitLinesFrom]
      · exact splitLinesFrom_cons_append (List.cons_ne_nil _ _) (by simpa using hcrlf) hend current
  | cons_cons ch next before ih ih' =>
      by_cases hcrlf : ch = '\r' ∧ next = '\n'
      · obtain ⟨rfl, rfl⟩ := hcrlf
        simp only [List.cons_append, splitLinesFrom, ih]
      · exact splitLinesFrom_cons_append (List.cons_ne_nil _ _) (by simpa using hcrlf) (ih' next)
          current

/-- A line that stands in the text is one of its lines, behind those above it. -/
theorem splitLinesFrom_lineAt {text above line : List Char} (h : LineAt text above line) :
    ∃ rest, splitLinesFrom [] text = splitLinesFrom [] above ++ line :: rest := by
  obtain ⟨behind, rfl, hcut, hline, hbehind, hne⟩ := h
  obtain ⟨rest, hrest⟩ := exists_splitLinesFrom hbehind hne
  have hread : splitLinesFrom [] (line ++ behind) = line :: rest := by
    rw [splitLinesFrom_append hline, List.nil_append, hrest]
  refine ⟨rest, ?_⟩
  by_cases habove : above = []
  · rw [habove, List.nil_append, hread]
    rfl
  · rw [splitLinesFrom_of_cut hcut habove, hread]

/-- Up to its first boundary a text is its first line. -/
theorem exists_firstLine (text : List Char) :
    ∃ line behind, text = line ++ behind ∧ (∀ ch ∈ line, ch ∉ lineBoundaries) ∧
      ∀ ch ∈ behind.head?, ch ∈ lineBoundaries := by
  refine ⟨text.takeWhile (· ∉ lineBoundaries), text.dropWhile (· ∉ lineBoundaries),
    List.takeWhile_append_dropWhile.symm, fun ch hch => ?_, fun ch hch => ?_⟩
  · simpa using List.mem_takeWhile_imp hch
  · have hhead := List.head?_dropWhile_not (fun ch => decide (ch ∉ lineBoundaries)) text
    rw [hch] at hhead
    simpa using hhead

/-- The line is over where the text is, or a text of its own begins behind it. -/
theorem splitLinesFrom_behind {line behind : List Char}
    (hbehind : ∀ ch ∈ behind.head?, ch ∈ lineBoundaries) (hne : behind ≠ []) :
    ∃ ends rest, behind = ends ++ rest ∧ CutBefore (line ++ ends) rest ∧ line ++ ends ≠ [] ∧
      splitLinesFrom line ends = [line] := by
  obtain ⟨ch, behind, rfl⟩ := List.exists_cons_of_ne_nil hne
  have hch : ch ∈ lineBoundaries := hbehind ch rfl
  by_cases hcrlf : ch = '\r' ∧ behind.head? = some '\n'
  · obtain ⟨rfl, hhead⟩ := hcrlf
    obtain ⟨rest, rfl⟩ := List.head?_eq_some_iff.1 hhead
    refine ⟨['\r', '\n'], rest, rfl, Or.inr ⟨line ++ ['\r'], '\n', by simp, by decide, by simp⟩,
      by simp, by simp [splitLinesFrom]⟩
  · refine ⟨[ch], behind, rfl, Or.inr ⟨line, ch, rfl, hch, hcrlf⟩, by simp, ?_⟩
    rw [splitLinesFrom_cons_of_apart (by simp), if_pos hch, splitLinesFrom, if_pos rfl]

/-- Every line of a text stands somewhere in it. -/
theorem exists_lineAt {text line : List Char} {lines behind : List (List Char)}
    (h : splitLinesFrom [] text = lines ++ line :: behind) :
    ∃ above, LineAt text above line ∧ splitLinesFrom [] above = lines := by
  induction lines generalizing text with
  | nil =>
      obtain ⟨first, rest, rfl, hfirst, hrest⟩ := exists_firstLine text
      have hne : first ++ rest ≠ [] := by
        intro hnil
        simp [hnil, splitLinesFrom] at h
      obtain ⟨others, hothers⟩ := exists_splitLinesFrom hrest hne
      rw [splitLinesFrom_append hfirst, List.nil_append, hothers] at h
      obtain ⟨rfl, -⟩ := List.cons.inj h
      exact ⟨[], ⟨rest, rfl, Or.inl rfl, hfirst, hrest, hne⟩, rfl⟩
  | cons head lines ih =>
      obtain ⟨first, rest, rfl, hfirst, hrest⟩ := exists_firstLine text
      rw [splitLinesFrom_append hfirst, List.nil_append] at h
      have hne : rest ≠ [] := by
        rintro rfl
        rw [splitLinesFrom] at h
        split at h <;> simp at h
      obtain ⟨ends, rest, rfl, hcut, hfull, hends⟩ := splitLinesFrom_behind hrest hne
      have habove : splitLinesFrom [] (first ++ ends) = [first] := by
        rw [splitLinesFrom_append hfirst, List.nil_append, hends]
      have hread := splitLinesFrom_of_cut hcut hfull []
      rw [List.append_assoc, splitLinesFrom_append hfirst, List.nil_append, h, habove,
        List.singleton_append] at hread
      obtain ⟨rfl, hlines⟩ := List.cons.inj hread
      obtain ⟨above, ⟨after, rfl, hcut', hline⟩, habove'⟩ := ih hlines.symm
      refine ⟨head ++ ends ++ above, ⟨after, by simp, ?_, hline⟩, ?_⟩
      · obtain rfl | ⟨before, last, rfl, hlast⟩ := hcut'
        · simpa using hcut
        · exact Or.inr ⟨head ++ ends ++ before, last, by simp, hlast⟩
      · rw [splitLinesFrom_of_cut hcut.of_append hfull, habove, habove', List.singleton_append]

/-! ## Pieces between separators -/

section

variable {α : Type} [DecidableEq α] {a : α}

/-- A list has one piece more than separators. -/
theorem length_splitOn (a : α) (xs : List α) : (xs.splitOn a).length = xs.count a + 1 := by
  induction xs with
  | nil => rfl
  | cons x xs ih =>
      rw [List.splitOn_cons_eq_if_modifyHead]
      by_cases hx : x = a
      · subst hx
        simp [ih]
      · simp [hx, ih]

/-- Joined pieces have the separators between them and those inside. -/
theorem count_intercalate (a : α) (piece : List α) (rest : List (List α)) :
    ([a].intercalate (piece :: rest)).count a =
      rest.length + ((piece :: rest).map (List.count a)).sum := by
  induction rest generalizing piece with
  | nil => simp
  | cons next rest ih =>
      simp only [List.intercalate_cons_cons, List.append_assoc, List.count_append, ih next,
        List.length_cons, List.map_cons, List.sum_cons, List.count_singleton_self]
      omega

/-- Splitting gives as many pieces as were joined only when none has a separator inside. -/
theorem notMem_of_length_splitOn {pieces : List (List α)} (hne : pieces ≠ [])
    (h : (([a].intercalate pieces).splitOn a).length = pieces.length) :
    ∀ piece ∈ pieces, a ∉ piece := by
  obtain ⟨first, rest, rfl⟩ := List.exists_cons_of_ne_nil hne
  rw [length_splitOn, count_intercalate, List.length_cons] at h
  have hsum : ((first :: rest).map (List.count a)).sum = 0 := by omega
  intro piece hpiece
  have hcount : piece.count a = 0 :=
    List.sum_eq_zero_iff_forall_eq_nat.1 hsum _ (List.mem_map_of_mem hpiece)
  exact List.count_eq_zero.1 hcount

omit [DecidableEq α] in
/-- A separator after the last piece opens an empty one. -/
theorem intercalate_concat_nil {pieces : List (List α)} (hne : pieces ≠ []) :
    [a].intercalate (pieces ++ [[]]) = [a].intercalate pieces ++ [a] := by
  induction pieces with
  | nil => exact absurd rfl hne
  | cons first rest ih =>
      cases rest with
      | nil => simp
      | cons next rest =>
          have hrest := ih (by simp)
          simp only [List.cons_append, List.intercalate_cons_cons, List.append_assoc] at hrest ⊢
          rw [hrest]

end

end ConstellationTopology
