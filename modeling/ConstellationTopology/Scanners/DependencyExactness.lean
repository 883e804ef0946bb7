import ConstellationTopology.Scanners.DependencyArray
import ConstellationTopology.Scanners.DependencyScanner
import Mathlib.Data.List.DropRight

set_option autoImplicit false

/-! # When the dependency scan is exact

A TOML reader takes the strings of the array, the scanner takes what stands first on the lines that
its flag reaches. The two agree exactly when the strings of the array head such lines, each name at
least one, and no other such line begins with a word that is not declared (`scan_exact_iff`); an
array on one line is read as empty. -/

namespace ConstellationTopology

/-! ## Exactness -/

/-- The distribution that a requirement names at its head, lowercased. -/
def distributionName (requirement : String) : Option String :=
  (nameRun (requirement.toList.dropWhile fun ch => ch = ' ' || ch = '\t')).map lowerAscii

/-- The names are those of the requirements, none twice. -/
structure ExactNames (deps requirements : List String) : Prop where
  nodup : deps.Nodup
  names : ∀ name, name ∈ deps ↔ name ∈ requirements.filterMap distributionName

/-- The scan of a repository whose only manifest is this `pyproject.toml` gives the names of the
    requirements. -/
def ScansExactly (python : PythonReader) (repoId text : String) (requirements : List String) :
    Prop :=
  ∃ deps evidence, scanDependencies python (onlyPyproject text) repoId = .ok (deps, evidence) ∧
    ExactNames deps requirements

/-- The layout that the scanner relies on, for its lines in reach of a line `dependencies =`: on
    some of them each name of the requirements comes first, and no other name comes first there. -/
structure OnePerLine (lines requirements : List String) : Prop where
  named : ∀ requirement ∈ requirements, ∀ name, distributionName requirement = some name →
    ∃ line, InReach lines line ∧ pyprojectName (strip line) = some name
  noOther : ∀ line, InReach lines line → ∀ name, pyprojectName (strip line) = some name →
    ∃ requirement ∈ requirements, distributionName requirement = some name

/-- What the scan lists: the names that come first on the lines in reach. -/
theorem mem_scanned_iff (text name : String) :
    name ∈ (scanPyprojectLines 1 false {} (manifestLines text)).deps ↔
      ∃ line, InReach (manifestLines text) line ∧ pyprojectName (strip line) = some name := by
  simp [mem_scanPyprojectLines_iff]

theorem scansExactly_iff (python : PythonReader) (repoId text : String)
    (requirements : List String) :
    ScansExactly python repoId text requirements ↔
      OnePerLine (manifestLines text) requirements := by
  have hscan := scanDependencies_onlyPyproject python text repoId
  have hmem := mem_scanned_iff text
  constructor
  · rintro ⟨deps, evidence, hok, hexact⟩
    obtain ⟨rfl, -⟩ := Prod.mk.inj (Except.ok.inj (hok.symm.trans hscan))
    refine ⟨?_, ?_⟩
    · intro requirement hrequirement name hname
      rw [← hmem, hexact.names, List.mem_filterMap]
      exact ⟨requirement, hrequirement, hname⟩
    · intro line hline name hname
      have hlisted := (hmem name).2 ⟨line, hline, hname⟩
      rwa [hexact.names, List.mem_filterMap] at hlisted
  · intro hlayout
    refine ⟨_, _, hscan, (scanDependencies_listed hscan).nodup, fun name => ?_⟩
    rw [hmem, List.mem_filterMap]
    constructor
    · rintro ⟨line, hline, hname⟩
      exact hlayout.noOther line hline name hname
    · rintro ⟨requirement, hrequirement, hname⟩
      exact hlayout.named requirement hrequirement name hname

/-! ## What a line begins with -/

/-- A name read from the front is not touched by what is removed at the back. -/
theorem takeWhile_rdropWhile {α : Type} {p q : α → Bool} (h : ∀ x, p x = true → q x = false)
    (xs : List α) : (xs.rdropWhile q).takeWhile p = xs.takeWhile p := by
  induction xs using List.reverseRecOn with
  | nil => rfl
  | append_singleton xs x ih =>
      by_cases hq : q x = true
      · have hp : p x = false := by
          by_contra hp
          simp [h x (by simpa using hp)] at hq
        rw [List.rdropWhile_concat_pos _ _ _ hq, ih, List.takeWhile_append]
        split
        · next hlength =>
            have hall : xs.takeWhile p = xs := (List.takeWhile_prefix p).eq_of_length hlength
            simp [hall, hp]
        · rfl
      · rw [List.rdropWhile_concat_neg _ _ _ hq]

theorem strip_of_notMem {text : String} (h : ∀ ch ∈ text.toList, ch ∉ blanks) :
    strip text = text := by
  have hkeep : ∀ chars : List Char, (∀ ch ∈ chars, ch ∉ blanks) →
      chars.dropWhile (· ∈ blanks) = chars := by
    intro chars hchars
    cases chars with
    | nil => rfl
    | cons ch rest => simp [hchars ch List.mem_cons_self]
  rw [strip, hkeep _ h, hkeep _ fun ch hch => h ch (List.mem_reverse.1 hch), List.reverse_reverse,
    String.ofList_toList]

theorem nameChar_notMem_listMarks {ch : Char} (h : nameChar ch = true) : ch ∉ listMarks := by
  intro hmem
  have hall : ∀ mark ∈ listMarks, nameChar mark = false := forall_mem_of_all (by decide)
  simp [hall ch hmem] at h

theorem nameChar_notMem_blanks {ch : Char} (h : nameChar ch = true) : ch ∉ blanks := by
  intro hmem
  have hall : ∀ blank ∈ blanks, nameChar blank = false := forall_mem_of_all (by decide)
  simp [hall ch hmem] at h

theorem nameChar_notMem_lineBoundaries {ch : Char} (h : nameChar ch = true) :
    ch ∉ lineBoundaries := by
  intro hmem
  have hall : ∀ boundary ∈ lineBoundaries, nameChar boundary = false := forall_mem_of_all (by decide)
  simp [hall ch hmem] at h

theorem lowerAscii_ne_empty {text : String} (h : text ≠ "") : lowerAscii text ≠ "" := by
  rw [ne_eq, ← String.toList_eq_nil_iff] at h ⊢
  simpa [lowerAscii] using h

/-- The name that is read of a stripped line is the run of name characters in front of it. -/
theorem pyprojectName_eq_some_iff {stripped word : String} :
    pyprojectName stripped = some word ↔ ∃ run, (stripMarks stripped).takeWhile nameChar = run ∧
      run ≠ [] ∧ word = lowerAscii (String.ofList run) := by
  have hhead : ∀ ch ∈ (stripMarks stripped).head?, ch ∉ listMarks := by
    intro ch hch
    obtain ⟨rest, hrest⟩ := List.head?_eq_some_iff.1 hch
    have hprefix : stripMarks stripped <+: stripped.toList.dropWhile (· ∈ listMarks) :=
      List.rdropWhile_prefix _ _
    have hmarked := List.head?_dropWhile_not (fun ch => decide (ch ∈ listMarks)) stripped.toList
    obtain ⟨behind, hbehind⟩ := hprefix
    rw [← hbehind, hrest] at hmarked
    simpa using hmarked
  have hunquoted : ¬ ((stripMarks stripped).head? = some '"' ∨
      (stripMarks stripped).head? = some '\'') := by
    rintro (hquote | hquote)
    · exact hhead _ hquote (by decide)
    · exact hhead _ hquote (by decide)
  simp only [pyprojectName, if_neg hunquoted, nameRun]
  cases htake : (stripMarks stripped).takeWhile nameChar with
  | nil => simp
  | cons first rest =>
      have hrun : ∀ ch ∈ (String.ofList (first :: rest)).toList, ch ∉ blanks := by
        intro ch hch
        rw [String.toList_ofList, ← htake] at hch
        exact nameChar_notMem_blanks (List.mem_takeWhile_imp hch)
      have hne : lowerAscii (String.ofList (first :: rest)) ≠ "" :=
        lowerAscii_ne_empty fun h => by simpa using congrArg String.toList h
      have hkept : (some (lowerAscii (String.ofList (first :: rest)))).filter
          (fun depName => decide (depName ≠ "")) = some (lowerAscii (String.ofList (first :: rest))) :=
        Option.filter_some_pos (decide_eq_true hne)
      rw [Option.map_some, strip_of_notMem hrun, hkept, Option.some.injEq, exists_eq_left', eq_comm]
      exact (and_iff_right (List.cons_ne_nil _ _)).symm

/-- Blanks and list marks, as they may stand in front of an entry. -/
def PassedOver (front : List Char) : Prop :=
  ∃ indent marks, front = indent ++ marks ∧ (∀ ch ∈ indent, ch ∈ blanks) ∧
    ∀ ch ∈ marks, ch ∈ listMarks

/-- The word is the first thing on the line, once blanks and list marks are passed over. -/
def BeginsWith (line : List Char) (word : String) : Prop :=
  ∃ front run rest, line = front ++ (run ++ rest) ∧ PassedOver front ∧ run ≠ [] ∧
    (∀ ch ∈ run, nameChar ch = true) ∧ (∀ ch ∈ rest.head?, nameChar ch = false) ∧
      word = lowerAscii (String.ofList run)

/-- A run of name characters is what is taken of them. -/
theorem takeWhile_run {run rest : List Char} (hrun : ∀ ch ∈ run, nameChar ch = true)
    (hrest : ∀ ch ∈ rest.head?, nameChar ch = false) : (run ++ rest).takeWhile nameChar = run := by
  rw [List.takeWhile_append_of_pos hrun]
  cases rest with
  | nil => simp
  | cons ch rest =>
      rw [List.takeWhile_cons_of_neg (by simp [hrest ch rfl]), List.append_nil]

/-- Nor is it touched when other characters are removed in front of it. -/
theorem takeWhile_dropWhile_rdropWhile {α : Type} {p q r : α → Bool}
    (h : ∀ x, p x = true → q x = false) (xs : List α) :
    ((xs.rdropWhile q).dropWhile r).takeWhile p = (xs.dropWhile r).takeWhile p := by
  induction xs with
  | nil => rfl
  | cons x xs ih =>
      by_cases hall : ∀ y ∈ x :: xs, q y = true
      · -- everything is removed, and nothing of it would have been taken
        have hnone : ∀ ys : List α, (∀ y ∈ ys, q y = true) → ys.takeWhile p = [] := by
          intro ys hys
          cases ys with
          | nil => rfl
          | cons y ys =>
              refine List.takeWhile_cons_of_neg fun hp => ?_
              simp [h y hp] at hys
        rw [List.rdropWhile_eq_nil_iff.2 hall, hnone _ fun y hy => hall y (List.dropWhile_subset _ hy)]
        rfl
      · have hkeep : (x :: xs).rdropWhile q = x :: xs.rdropWhile q := by
          rw [List.rdropWhile, List.reverse_cons, List.dropWhile_append]
          split
          · next hnil =>
              rw [List.isEmpty_iff, List.dropWhile_eq_nil_iff] at hnil
              have hxs : ∀ y ∈ xs, q y = true := fun y hy => hnil y (List.mem_reverse.2 hy)
              have hx : q x = false := by
                by_contra hx
                exact hall (List.forall_mem_cons.2 ⟨by simpa using hx, hxs⟩)
              rw [List.rdropWhile_eq_nil_iff.2 hxs, List.dropWhile_cons_of_neg (by simp [hx])]
              rfl
          · rw [List.reverse_append]
            rfl
        rw [hkeep]
        by_cases hr : r x = true
        · rw [List.dropWhile_cons_of_pos hr, List.dropWhile_cons_of_pos hr, ih]
        · rw [List.dropWhile_cons_of_neg hr, List.dropWhile_cons_of_neg hr, ← hkeep,
            takeWhile_rdropWhile h]

/-- What is stripped at the end of a line leaves the run at its front as it is. -/
theorem takeWhile_stripMarks_strip (line : List Char) :
    (stripMarks (strip (String.ofList line))).takeWhile nameChar =
      ((line.dropWhile (· ∈ blanks)).dropWhile (· ∈ listMarks)).takeWhile nameChar := by
  have hmarks : ∀ ch, nameChar ch = true → decide (ch ∈ listMarks) = false :=
    fun ch hch => decide_eq_false (nameChar_notMem_listMarks hch)
  have hblanks : ∀ ch, nameChar ch = true → decide (ch ∈ blanks) = false :=
    fun ch hch => decide_eq_false (nameChar_notMem_blanks hch)
  have hstrip : (strip (String.ofList line)).toList =
      (line.dropWhile (· ∈ blanks)).rdropWhile (· ∈ blanks) := by
    rw [strip, String.toList_ofList, String.toList_ofList]
    rfl
  have hback := takeWhile_rdropWhile hmarks
    ((strip (String.ofList line)).toList.dropWhile (· ∈ listMarks))
  refine hback.trans ?_
  rw [hstrip]
  exact takeWhile_dropWhile_rdropWhile hblanks _

/-- The name that is read of a line is the word it begins with. -/
theorem beginsWith_iff (line : List Char) (word : String) :
    BeginsWith line word ↔ pyprojectName (strip (String.ofList line)) = some word := by
  rw [pyprojectName_eq_some_iff, takeWhile_stripMarks_strip]
  constructor
  · rintro ⟨front, run, rest, rfl, ⟨indent, marks, rfl, hindent, hmarks⟩, hne, hrun, hrest, rfl⟩
    refine ⟨run, ?_, hne, rfl⟩
    obtain ⟨first, others, rfl⟩ := List.exists_cons_of_ne_nil hne
    have hfirst : nameChar first = true := hrun first List.mem_cons_self
    have hstay : (first :: others ++ rest).dropWhile (· ∈ blanks) = first :: others ++ rest :=
      List.dropWhile_cons_of_neg (by simpa using nameChar_notMem_blanks hfirst)
    have hmarked : ∀ marks : List Char, (∀ ch ∈ marks, ch ∈ listMarks) →
        (marks ++ (first :: others ++ rest)).dropWhile (· ∈ listMarks) = first :: others ++ rest := by
      intro marks hmarks
      rw [List.dropWhile_append_of_pos (by simpa using hmarks)]
      exact List.dropWhile_cons_of_neg (by simpa using nameChar_notMem_listMarks hfirst)
    have hblank : (marks ++ (first :: others ++ rest)).dropWhile (· ∈ blanks) =
        marks.dropWhile (· ∈ blanks) ++ (first :: others ++ rest) := by
      rw [List.dropWhile_append]
      split
      · next hnil => rw [hstay, List.isEmpty_iff.1 hnil, List.nil_append]
      · rfl
    rw [List.append_assoc, List.dropWhile_append_of_pos (by simpa using hindent), hblank,
      hmarked _ fun ch hch => hmarks ch (List.dropWhile_subset _ hch), takeWhile_run hrun hrest]
  · rintro ⟨run, htake, hne, rfl⟩
    generalize hmarked : line.dropWhile (· ∈ blanks) = marked at htake
    have hline : line = line.takeWhile (· ∈ blanks) ++ (marked.takeWhile (· ∈ listMarks) ++
        marked.dropWhile (· ∈ listMarks)) := by
      rw [List.takeWhile_append_dropWhile, ← hmarked, List.takeWhile_append_dropWhile]
    refine ⟨line.takeWhile (· ∈ blanks) ++ marked.takeWhile (· ∈ listMarks), run,
      (marked.dropWhile (· ∈ listMarks)).dropWhile nameChar, ?_, ⟨_, _, rfl, ?_, ?_⟩, hne, ?_, ?_, rfl⟩
    · rw [← htake, List.takeWhile_append_dropWhile, List.append_assoc]
      exact hline
    · intro ch hch
      simpa using List.mem_takeWhile_imp hch
    · intro ch hch
      simpa using List.mem_takeWhile_imp hch
    · intro ch hch
      rw [← htake] at hch
      exact List.mem_takeWhile_imp hch
    · intro ch hch
      have hhead := List.head?_dropWhile_not nameChar (marked.dropWhile (· ∈ listMarks))
      rw [hch] at hhead
      simpa using hhead

/-! ## The lines of a document -/

/-- The line ends of a file that is read as text are boundaries as they were. -/
theorem splitLinesFrom_universalNewlines (current text : List Char) :
    splitLinesFrom current (universalNewlines text) = splitLinesFrom current text := by
  have hnewline : '\n' ∈ lineBoundaries := by decide
  have hreturn : '\r' ∈ lineBoundaries := by decide
  induction text using universalNewlines.induct generalizing current with
  | case1 => rfl
  | case2 rest ih =>
      rw [universalNewlines, splitLinesFrom_cons (by decide), if_pos hnewline, ih, splitLinesFrom]
  | case3 rest hapart ih =>
      have hhead : rest.head? ≠ some '\n' := by
        rintro hhead
        obtain ⟨behind, rfl⟩ := List.head?_eq_some_iff.1 hhead
        exact hapart behind rfl
      rw [universalNewlines, splitLinesFrom_cons (by decide), if_pos hnewline, ih,
        splitLinesFrom_cons_of_apart (by simp [hhead]), if_pos hreturn]
      exact hapart
  | case4 ch rest hcrlf hcr ih =>
      have hne : ch ≠ '\r' := fun heq => hcr heq
      rw [universalNewlines, splitLinesFrom_cons hne, splitLinesFrom_cons hne, ih, ih]
      · exact hcrlf
      · exact hcr

theorem manifestLines_eq (text : String) : manifestLines text = splitLines text := by
  rw [manifestLines, splitLines, String.toList_ofList, splitLinesFrom_universalNewlines, splitLines]

/-- The flag is up behind these lines: one of them opens an array, and none after it lowers it. -/
def Raised (lines : List String) : Prop :=
  ∃ before opener between, lines = before ++ opener :: between ∧ Opens opener ∧
    ∀ other ∈ between, ¬ Stops other

/-- A line of the text that the flag reaches, with what stands above it. -/
structure ReachedAt (text : String) (above line : List Char) : Prop where
  lineAt : LineAt text.toList above line
  raised : Raised (splitLines (String.ofList above))
  stays : ¬ Stops (String.ofList line)
  entry : ¬ Opens (String.ofList line)

theorem inReach_iff_raised (lines : List String) (line : String) :
    InReach lines line ↔ ∃ earlier later, lines = earlier ++ line :: later ∧ Raised earlier ∧
      ¬ Stops line ∧ ¬ Opens line := by
  constructor
  · rintro ⟨before, opener, rest, rfl, hopens, between, later, rfl, hbetween, hstays, hentry⟩
    exact ⟨before ++ opener :: between, later, by simp, ⟨before, opener, between, rfl, hopens,
      hbetween⟩, hstays, hentry⟩
  · rintro ⟨earlier, later, rfl, ⟨before, opener, between, rfl, hopens, hbetween⟩, hstays, hentry⟩
    exact ⟨before, opener, between ++ line :: later, by simp, hopens, between, later, rfl, hbetween,
      hstays, hentry⟩

/-- The lines in reach are those that stand at a place in reach. -/
theorem inReach_iff_reachedAt (text : String) (line : List Char) :
    InReach (manifestLines text) (String.ofList line) ↔ ∃ above, ReachedAt text above line := by
  rw [manifestLines_eq, inReach_iff_raised]
  constructor
  · rintro ⟨earlier, later, hlines, hraised, hstays, hentry⟩
    obtain ⟨lines, rest, hsplit, hearlier, hrest⟩ := List.map_eq_append_iff.1 hlines
    obtain ⟨head, behind, rfl, hhead, -⟩ := List.map_eq_cons_iff.1 hrest
    rw [String.ofList_inj] at hhead
    subst hhead
    obtain ⟨above, hline, habove⟩ := exists_lineAt hsplit
    refine ⟨above, hline, ?_, hstays, hentry⟩
    rwa [splitLines, String.toList_ofList, habove, hearlier]
  · rintro ⟨above, hreached⟩
    obtain ⟨rest, hrest⟩ := splitLinesFrom_lineAt hreached.lineAt
    refine ⟨splitLines (String.ofList above), rest.map String.ofList, ?_, hreached.raised,
      hreached.stays, hreached.entry⟩
    rw [splitLines, hrest, List.map_append, List.map_cons, splitLines, String.toList_ofList]

/-! ## The layout of the array -/

/-- The name at the head of the string stands there as it is: not written by escapes, and with
nothing but spaces in front of it. -/
def PlainHead (string : BasicString) (name : String) : Prop :=
  ∃ spaces run rest, string.chars = (spaces ++ run).map BasicChar.plain ++ rest ∧
    (∀ ch ∈ spaces, ch = ' ') ∧ run ≠ [] ∧ (∀ ch ∈ run, nameChar ch = true) ∧
      (∀ next ∈ rest.head?, nameChar next.value = false) ∧ name = lowerAscii (String.ofList run)

/-- The string heads the line below `above`: in front of its quote there is nothing on that line but
blanks and list marks, and its head is plain. -/
def Heads (document : PyprojectDocument) (above : List Char) (item : ArrayItem) (name : String) :
    Prop :=
  PlainHead item.string name ∧ ∃ earlier later front,
    document.array.items = earlier ++ item :: later ∧
      document.textBefore earlier item = above ++ front ∧ PassedOver front ∧
        ∀ ch ∈ front, ch ∉ lineBoundaries

/-- No string of the array heads the line below `above`. -/
def Foreign (document : PyprojectDocument) (above : List Char) : Prop :=
  ∀ item name, ¬ Heads document above item name

/-- **The layout that the scanner relies on**: each name that a string has at its head is that of a
string that heads a line in reach (or is the first word of another line in reach), and no line in
reach that is not headed by a string begins with an undeclared word. -/
structure LaidOut (document : PyprojectDocument) : Prop where
  headed : ∀ requirement ∈ document.requirements, ∀ name, distributionName requirement = some name →
    ∃ above line, ReachedAt document.text above line ∧
      ((∃ item, Heads document above item name) ∨ Foreign document above ∧ BeginsWith line name)
  foreign : ∀ above line, ReachedAt document.text above line → Foreign document above →
    ∀ word, BeginsWith line word →
      ∃ requirement ∈ document.requirements, distributionName requirement = some word

theorem distributionName_of_plainHead {string : BasicString} {name : String}
    (h : PlainHead string name) : distributionName string.value = some name := by
  obtain ⟨spaces, run, rest, hchars, hspaces, hne, hrun, hrest, rfl⟩ := h
  have hvalue : string.value.toList = spaces ++ (run ++ rest.map BasicChar.value) := by
    rw [BasicString.value, String.toList_ofList, hchars]
    simp [BasicChar.value, Function.comp_def]
  obtain ⟨first, others, rfl⟩ := List.exists_cons_of_ne_nil hne
  have hfirst : first ≠ ' ' ∧ first ≠ '\t' := by
    constructor <;>
    · rintro rfl
      exact absurd (hrun _ List.mem_cons_self) (by decide)
  have hrest' : ∀ ch ∈ (rest.map BasicChar.value).head?, nameChar ch = false := by
    intro ch hch
    rw [List.head?_map] at hch
    obtain ⟨next, hnext, rfl⟩ := Option.map_eq_some_iff.1 hch
    exact hrest next hnext
  have hhead : string.value.toList.dropWhile (fun ch => ch = ' ' || ch = '\t') =
      first :: others ++ rest.map BasicChar.value := by
    rw [hvalue, List.dropWhile_append_of_pos fun ch hch => by simp [hspaces ch hch]]
    exact List.dropWhile_cons_of_neg (by simp [hfirst])
  rw [distributionName, hhead, nameRun, takeWhile_run hrun hrest']
  rfl

/-- Behind a head that is written plainly there is no name character either. -/
theorem plainHead_text {rest : List BasicChar} (behind : List Char)
    (hrest : ∀ next ∈ rest.head?, nameChar next.value = false) :
    ∀ ch ∈ (rest.flatMap BasicChar.text ++ '"' :: behind).head?, nameChar ch = false := by
  intro ch hch
  cases rest with
  | nil =>
      obtain rfl : '"' = ch := Option.some.inj hch
      decide
  | cons next rest =>
      cases next with
      | plain other =>
          obtain rfl : other = ch := Option.some.inj hch
          exact hrest _ rfl
      | escape letter =>
          obtain rfl : '\\' = ch := Option.some.inj hch
          decide
      | unicode digits =>
          obtain rfl : '\\' = ch := Option.some.inj hch
          decide

/-- A line reaches at least as far as what follows it without a boundary. -/
theorem line_eq_append {line behind front rest : List Char}
    (h : line ++ behind = front ++ rest) (hfront : ∀ ch ∈ front, ch ∉ lineBoundaries)
    (hbehind : ∀ ch ∈ behind.head?, ch ∈ lineBoundaries) :
    ∃ more, line = front ++ more ∧ rest = more ++ behind := by
  rcases List.append_eq_append_iff.1 h with ⟨more, rfl, hrest⟩ | ⟨more, hline, hmore⟩
  · cases more with
    | nil => exact ⟨[], by simp, by simpa using hrest.symm⟩
    | cons ch more =>
        rw [hrest] at hbehind
        exact absurd (hbehind ch rfl) (hfront ch (by simp))
  · exact ⟨more, hline, hmore⟩

/-- A line that a string heads begins with the name of the string. -/
theorem beginsWith_of_heads {document : PyprojectDocument} {above line : List Char}
    {item : ArrayItem} {name : String} (hline : LineAt document.text.toList above line)
    (h : Heads document above item name) :
    BeginsWith line name ∧ ∃ requirement ∈ document.requirements,
      distributionName requirement = some name := by
  obtain ⟨hplain, earlier, later, front, hitems, hbefore, hpassed, hfront⟩ := h
  refine ⟨?_, item.string.value, ?_, distributionName_of_plainHead hplain⟩
  · obtain ⟨spaces, run, rest, hchars, hspaces, hne, hrun, hrest, rfl⟩ := hplain
    obtain ⟨after, hafter⟩ := PyprojectDocument.text_eq_textBefore hitems
    obtain ⟨behind, htext, -, -, hbehind, -⟩ := hline
    have hstring : item.string.text = '"' :: spaces ++ (run ++ (rest.flatMap BasicChar.text ++ ['"'])) := by
      rw [BasicString.text, hchars]
      simp [BasicChar.text, List.flatMap_map]
    have hboth : line ++ behind = (front ++ '"' :: spaces ++ run) ++
        (rest.flatMap BasicChar.text ++ '"' :: after) := by
      rw [hafter, hbefore, List.append_assoc, List.append_cancel_left_eq, hstring] at htext
      rw [← htext]
      simp
    have hmarks : PassedOver (front ++ '"' :: spaces) := by
      obtain ⟨indent, marks, rfl, hindent, hmarks⟩ := hpassed
      refine ⟨indent, marks ++ '"' :: spaces, by simp, hindent, ?_⟩
      intro ch hch
      rcases List.mem_append.1 hch with hch | hch
      · exact hmarks ch hch
      · rcases List.mem_cons.1 hch with rfl | hch
        · decide
        · rw [hspaces ch hch]
          decide
    have hinside : ∀ ch ∈ front ++ '"' :: spaces ++ run, ch ∉ lineBoundaries := by
      intro ch hch
      rcases List.mem_append.1 hch with hch | hch
      · rcases List.mem_append.1 hch with hch | hch
        · exact hfront ch hch
        · rcases List.mem_cons.1 hch with rfl | hch
          · decide
          · rw [hspaces ch hch]
            decide
      · exact nameChar_notMem_lineBoundaries (hrun ch hch)
    obtain ⟨more, rfl, hmore⟩ := line_eq_append hboth hinside hbehind
    refine ⟨front ++ '"' :: spaces, run, more, by simp, hmarks, hne, hrun, ?_, rfl⟩
    intro ch hch
    refine plainHead_text after hrest ch ?_
    rw [hmore, List.head?_append, hch]
    rfl
  · rw [PyprojectDocument.requirements, StringArray.values, hitems]
    simp

/-- **The scan of a document is exact** if and only if its strings head the lines in reach. -/
theorem scan_exact_iff (python : PythonReader) (repoId : String) (document : PyprojectDocument) :
    ScansExactly python repoId document.text document.requirements ↔ LaidOut document := by
  have hreach : ∀ {line}, InReach (manifestLines document.text) line ↔
      ∃ above, ReachedAt document.text above line.toList := by
    intro line
    rw [← inReach_iff_reachedAt, String.ofList_toList]
  have hname : ∀ line name, pyprojectName (strip line) = some name ↔ BeginsWith line.toList name := by
    intro line name
    rw [beginsWith_iff, String.ofList_toList]
  rw [scansExactly_iff]
  constructor
  · intro hlayout
    refine ⟨?_, ?_⟩
    · intro requirement hrequirement name hdeclared
      obtain ⟨line, hline, hread⟩ := hlayout.named requirement hrequirement name hdeclared
      obtain ⟨above, hreached⟩ := hreach.1 hline
      rw [hname] at hread
      refine ⟨above, line.toList, hreached, ?_⟩
      by_cases hforeign : Foreign document above
      · exact Or.inr ⟨hforeign, hread⟩
      · -- the string that heads the line has the name the line begins with
        simp only [Foreign, not_forall, not_not] at hforeign
        obtain ⟨item, word, hheads⟩ := hforeign
        obtain ⟨hbegins, -⟩ := beginsWith_of_heads hreached.lineAt hheads
        rw [beginsWith_iff] at hread hbegins
        obtain rfl := Option.some.inj (hread.symm.trans hbegins)
        exact Or.inl ⟨item, hheads⟩
    · intro above line hreached _ word hbegins
      refine hlayout.noOther (String.ofList line) ((inReach_iff_reachedAt _ _).2 ⟨above, hreached⟩)
        word ?_
      rwa [← beginsWith_iff]
  · intro hlayout
    refine ⟨?_, ?_⟩
    · intro requirement hrequirement name hdeclared
      obtain ⟨above, line, hreached, hline⟩ :=
        hlayout.headed requirement hrequirement name hdeclared
      refine ⟨String.ofList line, (inReach_iff_reachedAt _ _).2 ⟨above, hreached⟩, ?_⟩
      rw [← beginsWith_iff]
      rcases hline with ⟨item, hheads⟩ | ⟨-, hbegins⟩
      · exact (beginsWith_of_heads hreached.lineAt hheads).1
      · exact hbegins
    · intro line hline name hread
      obtain ⟨above, hreached⟩ := hreach.1 hline
      rw [hname] at hread
      by_cases hforeign : Foreign document above
      · exact hlayout.foreign above _ hreached hforeign name hread
      · simp only [Foreign, not_forall, not_not] at hforeign
        obtain ⟨item, word, hheads⟩ := hforeign
        obtain ⟨hbegins, hdeclared⟩ := beginsWith_of_heads hreached.lineAt hheads
        rw [beginsWith_iff] at hread hbegins
        obtain rfl := Option.some.inj (hread.symm.trans hbegins)
        exact hdeclared

/-! ## The layout of a formatter -/

/-- A line of the array: a requirement in quotes, perhaps with a comma and a comment behind it. -/
def EntryLine (requirement line : String) : Prop :=
  ∃ behind : List Char, (strip line).toList = '"' :: requirement.toList ++ '"' :: behind

/-- A requirement as they are written: it starts with a name. -/
def NamedFirst (requirement : String) : Prop :=
  ∃ first rest, requirement.toList = first :: rest ∧ nameChar first = true

/-- Removing the marks of a list uncovers the requirement. -/
theorem takeWhile_stripMarks {requirement line : String} (h : EntryLine requirement line)
    (hnamed : NamedFirst requirement) :
    (stripMarks (strip line)).takeWhile nameChar = requirement.toList.takeWhile nameChar := by
  obtain ⟨behind, hline⟩ := h
  obtain ⟨first, rest, hlist, hfirst⟩ := hnamed
  have hmarks : ∀ ch, nameChar ch = true → decide (ch ∈ listMarks) = false :=
    fun ch hch => decide_eq_false (nameChar_notMem_listMarks hch)
  have hquote : '"' ∈ listMarks := by decide
  have hfront : (strip line).toList.dropWhile (· ∈ listMarks) =
      requirement.toList ++ '"' :: behind := by
    rw [hline, List.cons_append, List.dropWhile_cons, if_pos (by simpa using hquote), hlist,
      List.cons_append, List.dropWhile_cons, if_neg (by simp [hmarks first hfirst])]
  have hback := takeWhile_rdropWhile hmarks (requirement.toList ++ '"' :: behind)
  rw [← hfront] at hback
  refine hback.trans ?_
  rw [hfront, List.takeWhile_append]
  split
  · next hlength =>
      have hall := (List.takeWhile_prefix nameChar).eq_of_length hlength
      rw [hall, List.takeWhile_cons_of_neg (by decide), List.append_nil]
  · rfl

/-- On such a line the scanner reads the name that the requirement has at its head. -/
theorem pyprojectName_entry {requirement line : String} (h : EntryLine requirement line)
    (hnamed : NamedFirst requirement) :
    pyprojectName (strip line) = distributionName requirement := by
  have htake := takeWhile_stripMarks h hnamed
  obtain ⟨first, rest, hlist, hfirst⟩ := hnamed
  have hhead : requirement.toList.takeWhile nameChar = first :: rest.takeWhile nameChar := by
    rw [hlist, List.takeWhile_cons_of_pos hfirst]
  have hblank : requirement.toList.dropWhile (fun ch => ch = ' ' || ch = '\t') =
      requirement.toList := by
    have hfirstBlank : first ≠ ' ' ∧ first ≠ '\t' := by
      constructor <;>
      · rintro rfl
        exact absurd hfirst (by decide)
    rw [hlist, List.dropWhile_cons_of_neg (by simp [hfirstBlank])]
  rw [hhead] at htake
  rw [distributionName, hblank, nameRun, hhead]
  exact pyprojectName_eq_some_iff.2 ⟨_, htake, List.cons_ne_nil _ _, rfl⟩

/-- The layout of a formatter: the key opens the array, each requirement has a line, the bracket
    closes it on a line of its own, and a blank line, the next table or the end follows. Nothing
    else opens an array of dependencies. -/
def Formatted (lines requirements : List String) : Prop :=
  ∃ before opener entries closer behind,
    lines = before ++ opener :: (entries ++ closer :: behind) ∧ Opens opener ∧
      List.Forall₂ EntryLine requirements entries ∧ strip closer = "]" ∧
      (∀ line ∈ behind.head?, Stops line) ∧ ∀ line ∈ before ++ behind, ¬ Opens line

/-- A line that neither lowers the flag nor raises it. -/
def Passes (line : String) : Prop := ¬ Stops line ∧ ¬ Opens line

theorem passes_of_head {line : String} {ch : Char} (h : (strip line).toList.head? = some ch)
    (hbracket : ch ≠ '[') (hletter : ch ≠ 'd') : Passes line := by
  refine ⟨?_, ?_⟩
  · rintro (hempty | ⟨behind, hprefix⟩)
    · simp [hempty] at h
    · rw [← hprefix] at h
      exact hbracket (Option.some.inj h).symm
  · intro hopens
    rw [head_of_opens hopens] at h
    exact hletter (Option.some.inj h).symm

/-- Up to the first line that lowers the flag, every line that passes is in reach. -/
theorem follows_append_iff {entries behind : List String} (hpass : ∀ line ∈ entries, Passes line)
    (hbehind : ∀ line ∈ behind.head?, Stops line) (line : String) :
    Follows (entries ++ behind) line ↔ line ∈ entries := by
  induction entries with
  | nil =>
      cases behind with
      | nil => simp [follows_nil]
      | cons head rest =>
          have hstops : Stops head := hbehind head rfl
          simp [follows_cons_iff, hstops]
  | cons head rest ih =>
      obtain ⟨hhead, hrest⟩ := List.forall_mem_cons.1 hpass
      rw [List.cons_append, follows_cons_iff, ih hrest, List.mem_cons]
      simp [hhead.1, hhead.2]

theorem not_inReach_of_not_opens {lines : List String} (h : ∀ line ∈ lines, ¬ Opens line)
    (line : String) : ¬ InReach lines line := by
  rintro ⟨before, opener, rest, rfl, hopens, -⟩
  exact h opener (by simp) hopens

theorem inReach_append_iff {before : List String} (h : ∀ line ∈ before, ¬ Opens line)
    (rest : List String) (line : String) :
    InReach (before ++ rest) line ↔ InReach rest line := by
  induction before with
  | nil => rfl
  | cons head before ih =>
      obtain ⟨hhead, hbefore⟩ := List.forall_mem_cons.1 h
      rw [List.cons_append, inReach_cons_iff, ih hbefore]
      simp [hhead]

/-- Formatted requirements that start with their names are one a line. -/
theorem onePerLine_of_formatted {lines requirements : List String}
    (h : Formatted lines requirements)
    (hnamed : ∀ requirement ∈ requirements, NamedFirst requirement) :
    OnePerLine lines requirements := by
  obtain ⟨before, opener, entries, closer, behind, rfl, hopens, hentries, hcloser, hbehind, hclosed⟩
    := h
  have hentry : ∀ line ∈ entries, ∃ requirement ∈ requirements, EntryLine requirement line :=
    fun line hline => exists_of_mem_forall₂ hentries hline
  have hpass : ∀ line ∈ entries ++ [closer], Passes line := by
    intro line hline
    rcases List.mem_append.1 hline with hline | hline
    · obtain ⟨requirement, -, rest, hrest⟩ := hentry line hline
      exact passes_of_head (by rw [hrest]; rfl) (by decide) (by decide)
    · rw [List.mem_singleton.1 hline]
      exact passes_of_head (by rw [hcloser]; rfl) (by decide) (by decide)
  have hreach : ∀ line, InReach (before ++ opener :: (entries ++ closer :: behind)) line ↔
      line ∈ entries ++ [closer] := by
    intro line
    have hbefore : ∀ line ∈ before, ¬ Opens line :=
      fun other hother => hclosed other (List.mem_append_left _ hother)
    have hlater : ¬ InReach (entries ++ [closer] ++ behind) line := by
      refine not_inReach_of_not_opens (fun other hother => ?_) line
      rcases List.mem_append.1 hother with hother | hother
      · exact (hpass other hother).2
      · exact hclosed other (List.mem_append_right _ hother)
    have hsplit : entries ++ closer :: behind = entries ++ [closer] ++ behind := by simp
    rw [inReach_append_iff hbefore, inReach_cons_iff, hsplit, follows_append_iff hpass hbehind,
      or_iff_left hlater]
    exact and_iff_right hopens
  have hnone : pyprojectName (strip closer) = none := by
    rw [hcloser]
    decide
  refine ⟨?_, ?_⟩
  · intro requirement hrequirement name hname
    obtain ⟨line, hline, hread⟩ := exists_of_mem_forall₂ hentries.flip hrequirement
    refine ⟨line, (hreach line).2 (List.mem_append_left _ hline), ?_⟩
    rw [pyprojectName_entry hread (hnamed requirement hrequirement), hname]
  · intro line hline name hname
    rcases List.mem_append.1 ((hreach line).1 hline) with hline | hline
    · obtain ⟨requirement, hrequirement, hread⟩ := hentry line hline
      refine ⟨requirement, hrequirement, ?_⟩
      rw [← pyprojectName_entry hread (hnamed requirement hrequirement), hname]
    · rw [List.mem_singleton.1 hline, hnone] at hname
      cases hname

/-- **A formatted array is scanned exactly.** -/
theorem scan_exact_of_formatted (python : PythonReader) (repoId : String)
    {document : PyprojectDocument}
    (h : Formatted (manifestLines document.text) document.requirements)
    (hnamed : ∀ requirement ∈ document.requirements, NamedFirst requirement) :
    ScansExactly python repoId document.text document.requirements :=
  (scansExactly_iff python repoId _ _).2 (onePerLine_of_formatted h hnamed)

/-! ## An array on one line -/

/-- `numpy` -/
def numpyString : BasicString where
  chars := ['n', 'u', 'm', 'p', 'y'].map .plain
  chars_valid := by decide

/-- `["numpy"]` -/
def numpyArray : StringArray where
  items := [⟨[], numpyString, []⟩]
  trailingComma := false
  last := []
  fillers_valid := by decide
  comma_after_item := by decide

def numpyDocument : PyprojectDocument where
  front := "[project]\nname = \"demo\"\nversion = \"1.0\"\ndependencies = "
  array := numpyArray
  back := "\n"

theorem numpyDocument_inProjectTable : numpyDocument.InProjectTable :=
  ⟨"", "name = \"demo\"\nversion = \"1.0\"\n", by decide, Or.inl rfl, Or.inr (by decide), by decide⟩

theorem numpyDocument_lines :
    manifestLines numpyDocument.text =
      ["[project]", "name = \"demo\"", "version = \"1.0\""] ++ ["dependencies = [\"numpy\"]"] := by
  decide

/-- The string on the line of the key is passed over. -/
theorem scan_not_exact :
    ¬ ∀ (python : PythonReader) (repoId : String) (document : PyprojectDocument),
      document.InProjectTable →
        ScansExactly python repoId document.text document.requirements := by
  intro h
  let python : PythonReader := ⟨fun _ => .error "", fun _ => "", fun _ => ""⟩
  have hlayout := (scansExactly_iff python "" _ _).1
    (h python "" numpyDocument numpyDocument_inProjectTable)
  obtain ⟨line, hline, -⟩ := hlayout.named "numpy" (by decide) "numpy" (by decide)
  have hclosed : ∀ head ∈ ["[project]", "name = \"demo\"", "version = \"1.0\""], ¬ Opens head := by
    unfold Opens
    decide
  rw [numpyDocument_lines, inReach_append_iff hclosed, inReach_cons_iff] at hline
  simp [inReach_nil, follows_nil] at hline

end ConstellationTopology
