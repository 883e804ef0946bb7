import ConstellationTopology.Library.DotSegments
import ConstellationTopology.Run.SourcePath

set_option autoImplicit false

/-! # What a normalized source path promises

`normalize_source_path` drops empty and `.` segments and looks at the two ends of its work: the raw
text must not be absolute, the normalized one must not start with `..`. Nothing looks at a `..` in
the middle, and nothing looks for a drive letter that only the normalization brings to the front.

The results below read an accepted path through its segments: `parts_purePosixPath` says that
normalizing keeps them, so what holds of the segments of the input holds of those of the result. -/

namespace ConstellationTopology

/-! ## Segments -/

/-- The segment names something: it is neither empty nor `.`. -/
def namesSegment (segment : String) : Bool := segment ≠ "" ∧ segment ≠ "."

/-- The segments that normalization keeps. -/
def pathParts (raw : String) : List String := (pathSegments raw).filter namesSegment

theorem purePosixPath_eq (raw : String) :
    purePosixPath raw =
      if pathParts raw = [] then "." else String.intercalate "/" (pathParts raw) := by
  unfold purePosixPath pathParts namesSegment
  split
  · next hnil => rw [if_pos hnil]
  · next parts hparts => rw [if_neg hparts]

/-- A piece between two slashes has no slash and only characters of the text. -/
theorem mem_splitOn_slash {text chars : List Char} (h : chars ∈ text.splitOn '/') :
    '/' ∉ chars ∧ chars ⊆ text := by
  induction text generalizing chars with
  | nil =>
      rw [List.splitOn_nil, List.mem_singleton] at h
      simp [h]
  | cons ch rest ih =>
      rw [List.splitOn_cons_eq_if_modifyHead] at h
      split at h
      · rcases List.mem_cons.1 h with rfl | hin
        · simp
        · exact ⟨(ih hin).1, List.subset_cons_of_subset ch (ih hin).2⟩
      · next hne =>
          cases hsplit : rest.splitOn '/' with
          | nil => simp [hsplit] at h
          | cons first others =>
              rw [hsplit] at ih
              rw [hsplit, List.modifyHead_cons] at h
              rcases List.mem_cons.1 h with rfl | hin
              · obtain ⟨hfirst, hsubset⟩ := ih List.mem_cons_self
                rw [beq_iff_eq] at hne
                refine ⟨?_, List.cons_subset_cons ch hsubset⟩
                simp [hfirst, Ne.symm hne]
              · obtain ⟨hpiece, hsubset⟩ := ih (List.mem_cons_of_mem first hin)
                exact ⟨hpiece, List.subset_cons_of_subset ch hsubset⟩

theorem slash_notMem_of_mem_pathSegments {raw segment : String}
    (h : segment ∈ pathSegments raw) : '/' ∉ segment.toList := by
  obtain ⟨chars, hchars, rfl⟩ := List.mem_map.1 h
  rw [String.toList_ofList]
  exact (mem_splitOn_slash hchars).1

theorem subset_of_mem_pathSegments {raw segment : String} (h : segment ∈ pathSegments raw) :
    segment.toList ⊆ raw.toList := by
  obtain ⟨chars, hchars, rfl⟩ := List.mem_map.1 h
  rw [String.toList_ofList]
  exact (mem_splitOn_slash hchars).2

/-- Joining segments and splitting again gives them back. -/
theorem pathSegments_intercalate {segments : List String} (hne : segments ≠ [])
    (hslash : ∀ segment ∈ segments, '/' ∉ segment.toList) :
    pathSegments (String.intercalate "/" segments) = segments := by
  have hchars : (String.intercalate "/" segments).toList =
      ['/'].intercalate (segments.map String.toList) := by
    rw [String.toList_intercalate]
    rfl
  have hsplit : (['/'].intercalate (segments.map String.toList)).splitOn '/' =
      segments.map String.toList := by
    refine List.splitOn_intercalate '/' ?_ ?_
    · intro chars hin
      obtain ⟨segment, hsegment, rfl⟩ := List.mem_map.1 hin
      exact hslash segment hsegment
    · simpa using hne
  rw [pathSegments, hchars, hsplit, List.map_map]
  conv_rhs => rw [← List.map_id segments]
  refine List.map_congr_left fun segment _ => ?_
  exact String.ofList_toList

theorem slash_notMem_of_mem_pathParts {raw segment : String} (h : segment ∈ pathParts raw) :
    '/' ∉ segment.toList :=
  slash_notMem_of_mem_pathSegments (List.mem_of_mem_filter h)

theorem names_of_mem_pathParts {raw segment : String} (h : segment ∈ pathParts raw) :
    segment ≠ "" ∧ segment ≠ "." := by
  have hnames := List.of_mem_filter h
  simpa [namesSegment] using hnames

/-- The segments of a normalized path are the kept ones, or a single `.`. -/
theorem pathSegments_purePosixPath (raw : String) :
    pathSegments (purePosixPath raw) = if pathParts raw = [] then ["."] else pathParts raw := by
  rw [purePosixPath_eq]
  by_cases hnil : pathParts raw = []
  · rw [if_pos hnil, if_pos hnil]
    exact pathSegments_intercalate (List.cons_ne_nil "." []) (by simp)
  · rw [if_neg hnil, if_neg hnil]
    exact pathSegments_intercalate hnil fun segment => slash_notMem_of_mem_pathParts

theorem parts_purePosixPath (raw : String) : pathParts (purePosixPath raw) = pathParts raw := by
  conv_lhs => rw [pathParts, pathSegments_purePosixPath]
  by_cases hnil : pathParts raw = []
  · rw [if_pos hnil, hnil]
    rfl
  · rw [if_neg hnil, pathParts, List.filter_filter]
    simp only [Bool.and_self]

theorem purePosixPath_idem (raw : String) :
    purePosixPath (purePosixPath raw) = purePosixPath raw := by
  rw [purePosixPath_eq (purePosixPath raw), parts_purePosixPath, ← purePosixPath_eq]

/-- A relative destination is resolved by entering its named segments. -/
theorem resolvePath_eq_foldl {root : Path} {destination : String}
    (h : destination.toList.head? ≠ some '/') :
    resolvePath root destination = (pathParts destination).foldl enterSegment root := by
  rw [resolvePath, if_neg h, pathParts]
  generalize pathSegments destination = segments
  induction segments generalizing root with
  | nil => rfl
  | cons segment rest ih =>
      rw [List.foldl_cons, List.filter_cons, ih]
      by_cases hname : segment = "" ∨ segment = "."
      · have hdropped : ¬ namesSegment segment = true := by
          simpa [namesSegment, or_iff_not_imp_left] using hname
        rw [if_neg hdropped, resolveSegment, if_pos hname]
      · have hkept := not_or.1 hname
        rw [if_pos (by simpa [namesSegment] using hkept), List.foldl_cons, resolveSegment,
          if_neg hname, enterSegment, if_neg hkept.2]

/-! ## Accepted paths -/

/-- The text the checks of `normalize_source_path` work on. -/
def slashedPath (path : String) : String := replaceChar '\\' '/' path

theorem normalizeSourcePath_eq (path : String) :
    normalizeSourcePath path =
      if (slashedPath path).toList.head? = some '/' ∨ windowsAbsolute (slashedPath path) then
        .error ("absolute source path is not canonical: " ++ path)
      else if purePosixPath (slashedPath path) = "" ∨ purePosixPath (slashedPath path) = "." then
        .ok "."
      else if purePosixPath (slashedPath path) = ".." ∨
          "../".toList <+: (purePosixPath (slashedPath path)).toList then
        .error ("source path escapes repository root: " ++ path)
      else .ok (purePosixPath (slashedPath path)) := rfl

/-- A normalized path is never empty. -/
theorem purePosixPath_ne_empty (raw : String) : purePosixPath raw ≠ "" := by
  intro hempty
  have hsegments := pathSegments_purePosixPath raw
  rw [hempty] at hsegments
  have hin : "" ∈ pathSegments "" := by decide
  rw [hsegments] at hin
  split at hin
  · exact absurd hin (by decide)
  · exact (names_of_mem_pathParts hin).1 rfl

/-- What `normalize_source_path` lets through, and as what. -/
theorem normalizeSourcePath_ok_iff {path normalized : String} :
    normalizeSourcePath path = .ok normalized ↔
      (slashedPath path).toList.head? ≠ some '/' ∧ windowsAbsolute (slashedPath path) = false ∧
      purePosixPath (slashedPath path) = normalized ∧
      normalized ≠ ".." ∧ ¬ "../".toList <+: normalized.toList := by
  rw [normalizeSourcePath_eq]
  generalize slashedPath path = raw
  split
  · next habsolute =>
      refine ⟨(nomatch ·), fun ⟨hhead, hwindows, _⟩ => ?_⟩
      rw [hwindows] at habsolute
      exact absurd (habsolute.resolve_right Bool.false_ne_true) hhead
  · next habsolute =>
      obtain ⟨hhead, hwindows⟩ := not_or.1 habsolute
      have hwindows := Bool.eq_false_iff.2 hwindows
      split
      · next hdot =>
          have hdot := hdot.resolve_left (purePosixPath_ne_empty raw)
          constructor
          · intro h
            cases h
            exact ⟨hhead, hwindows, hdot, by decide, by decide⟩
          · rintro ⟨_, _, heq, _⟩
            rw [← heq, hdot]
      · split
        · next hescape =>
            refine ⟨(nomatch ·), fun ⟨_, _, heq, hdots, hparent⟩ => ?_⟩
            rw [heq] at hescape
            exact absurd hescape (not_or.2 ⟨hdots, hparent⟩)
        · next hescape =>
            constructor
            · intro h
              cases h
              exact ⟨hhead, hwindows, rfl, not_or.1 hescape⟩
            · rintro ⟨_, _, heq, _⟩
              exact congrArg Except.ok heq

/-! ## Containment -/

/-- Resolving the segments one after another stays below the directory it starts from. -/
def StaysBelow (root : Path) (segments : List String) : Prop :=
  ∀ taken, taken <+: segments → root <+: taken.foldl resolveSegment root

/-- A path that is relative and, wherever it is resolved, leaves that place at no point. -/
structure ContainedPath (path : String) : Prop where
  relative : path.toList.head? ≠ some '/'
  stays : ∀ root : Path, StaysBelow root (pathSegments path)

/-- The segments that go down. -/
def namedSegments (segments : List String) : List String :=
  segments.filter fun segment => namesSegment segment ∧ segment ≠ ".."

/-- No point of the path has more `..` before it than names. -/
def BalancedSegments (segments : List String) : Prop :=
  ∀ taken, taken <+: segments → taken.count ".." ≤ (namedSegments taken).length

/-- A fact about every front part of a list, by the list's first element. -/
theorem forall_prefix_cons {α : Type*} {head : α} {rest : List α} {p : List α → Prop} :
    (∀ taken, taken <+: head :: rest → p taken) ↔
      p [] ∧ ∀ taken, taken <+: rest → p (head :: taken) := by
  constructor
  · intro h
    exact ⟨h [] List.nil_prefix, fun taken ht => h _ (List.cons_prefix_cons.2 ⟨rfl, ht⟩)⟩
  · rintro ⟨hnil, hcons⟩ taken ht
    rcases List.prefix_cons_iff.1 ht with rfl | ⟨rest', rfl, hrest⟩
    · exact hnil
    · exact hcons rest' hrest

/-- A walk that has gone down along `stack` stays below the root exactly as long as no front part
    of what is left goes up more often than `stack` and its own names allow. -/
theorem walk_stays_iff {root : Path} (hroot : root ≠ []) (segments : List String) (stack : Path) :
    (∀ taken, taken <+: segments → root <+: taken.foldl resolveSegment (root ++ stack)) ↔
      ∀ taken, taken <+: segments →
        taken.count ".." ≤ stack.length + (namedSegments taken).length := by
  induction segments generalizing stack with
  | nil => simp [List.prefix_nil, namedSegments]
  | cons segment rest ih =>
      rw [forall_prefix_cons, forall_prefix_cons]
      simp only [List.foldl_nil, List.prefix_append, List.count_nil, Nat.zero_le, true_and,
        List.foldl_cons]
      by_cases hneutral : segment = "" ∨ segment = "."
      · -- the segment moves neither the walk nor the counts
        have hname : namesSegment segment = false := by
          rcases hneutral with rfl | rfl <;> rfl
        have hup : segment ≠ ".." := by
          rcases hneutral with rfl | rfl <;> decide
        rw [resolveSegment, if_pos hneutral, ih stack]
        simp [namedSegments, hname, hup]
      · by_cases hup : segment = ".."
        · subst hup
          have hname : ∀ taken, namedSegments (".." :: taken) = namedSegments taken :=
            fun taken => rfl
          rw [resolveSegment, if_neg hneutral, if_pos rfl]
          simp only [List.count_cons_self, hname]
          rcases List.eq_nil_or_concat stack with rfl | ⟨above, top, rfl⟩
          · constructor
            · -- going up from the root itself leaves it
              intro h
              have hleft := (h [] List.nil_prefix).length_le
              simp only [List.append_nil, List.foldl_nil, List.length_dropLast] at hleft
              have hpos := List.length_pos_of_ne_nil hroot
              omega
            · intro h
              have hnone := h [] List.nil_prefix
              simp [namedSegments] at hnone
          · rw [List.concat_eq_append, ← List.append_assoc, List.dropLast_concat, ih above]
            refine forall₂_congr fun taken _ => ?_
            simp only [List.length_append, List.length_cons, List.length_nil]
            omega
        · have hnames : namesSegment segment = true := by
            simpa [namesSegment, not_or] using hneutral
          have hname : ∀ taken, namedSegments (segment :: taken) =
              segment :: namedSegments taken := by
            intro taken
            simp [namedSegments, hnames, hup]
          rw [resolveSegment, if_neg hneutral, if_neg hup, List.append_assoc,
            ih (stack ++ [segment])]
          refine forall₂_congr fun taken _ => ?_
          rw [hname, List.count_cons_of_ne hup]
          simp only [List.length_append, List.length_cons, List.length_nil]
          omega

/-- **Containment is balance.** The walk is contained wherever it starts exactly when no point of
    it has more `..` than names before it. -/
theorem staysBelow_iff (segments : List String) :
    (∀ root : Path, StaysBelow root segments) ↔ BalancedSegments segments := by
  constructor
  · intro h taken ht
    have hwalk := (walk_stays_iff (List.cons_ne_nil "root" []) segments []).1 (h ["root"])
    simpa using hwalk taken ht
  · intro h root
    cases root with
    | nil => exact fun _ _ => List.nil_prefix
    | cons name rest =>
        intro taken ht
        have hwalk := (walk_stays_iff (List.cons_ne_nil name rest) segments []).2
        rw [List.append_nil] at hwalk
        exact hwalk (fun taken ht => by simpa using h taken ht) taken ht

/-- What the normalization drops does not tip the balance. -/
theorem balancedSegments_filter (segments : List String) :
    BalancedSegments (segments.filter namesSegment) ↔ BalancedSegments segments := by
  have hcount : ∀ taken : List String,
      (taken.filter namesSegment).count ".." = taken.count ".." := by
    intro taken
    exact List.count_filter (by decide)
  have hnamed : ∀ taken : List String,
      namedSegments (taken.filter namesSegment) = namedSegments taken := by
    intro taken
    rw [namedSegments, List.filter_filter]
    refine List.filter_congr fun segment _ => ?_
    by_cases hname : namesSegment segment = true <;> simp [hname]
  constructor
  · intro h taken ht
    have hfiltered := h _ (ht.filter namesSegment)
    rwa [hcount, hnamed] at hfiltered
  · intro h taken ht
    obtain ⟨taken', ht', rfl⟩ := List.prefix_filter_iff.1 ht
    rw [hcount, hnamed]
    exact h taken' ht'

theorem relative_purePosixPath (raw : String) : (purePosixPath raw).toList.head? ≠ some '/' := by
  intro hhead
  cases hchars : (purePosixPath raw).toList with
  | nil => simp [hchars] at hhead
  | cons ch rest =>
      rw [hchars, List.head?_cons, Option.some.injEq] at hhead
      subst hhead
      -- a leading slash would leave an empty first segment
      have hfirst : "" ∈ pathSegments (purePosixPath raw) := by
        rw [pathSegments, hchars, List.splitOn_cons_eq_if_modifyHead]
        simp
      rw [pathSegments_purePosixPath] at hfirst
      split at hfirst
      · exact absurd hfirst (by decide)
      · exact (names_of_mem_pathParts hfirst).1 rfl

/-- **An accepted path is contained exactly when its input is balanced**: the check at the front of
    the normalized text says nothing about a `..` further on. -/
theorem normalized_contained_iff {path normalized : String}
    (h : normalizeSourcePath path = .ok normalized) :
    ContainedPath normalized ↔ BalancedSegments (pathSegments (slashedPath path)) := by
  obtain ⟨-, -, rfl, -⟩ := normalizeSourcePath_ok_iff.1 h
  have hsegments : (∀ root, StaysBelow root (pathSegments (purePosixPath (slashedPath path)))) ↔
      BalancedSegments (pathSegments (slashedPath path)) := by
    rw [staysBelow_iff, ← balancedSegments_filter,
      ← balancedSegments_filter (pathSegments (slashedPath path))]
    change BalancedSegments (pathParts _) ↔ BalancedSegments (pathParts _)
    rw [parts_purePosixPath]
  exact ⟨fun hcontained => hsegments.1 hcontained.stays,
    fun hbalanced => ⟨relative_purePosixPath _, hsegments.2 hbalanced⟩⟩

theorem normalizeSourcePath_climbing :
    normalizeSourcePath "a/../../b" = .ok "a/../../b" := by
  rw [normalizeSourcePath_ok_iff]
  decide

theorem normalized_contained_climbing :
    ContainedPath "a/../../b" ↔ BalancedSegments (pathSegments (slashedPath "a/../../b")) :=
  normalized_contained_iff normalizeSourcePath_climbing

/-- `a/../../b` is accepted and leads out of every directory it is resolved in. -/
theorem normalized_not_contained :
    ¬ ∀ path normalized, normalizeSourcePath path = .ok normalized → ContainedPath normalized := by
  intro hclaim
  have hstays := (hclaim _ _ normalizeSourcePath_climbing).stays ["root"]
  have hpath : pathSegments "a/../../b" = ["a", "..", "..", "b"] := by decide
  rw [hpath] at hstays
  have hleft := hstays ["a", "..", ".."] (by decide)
  exact absurd hleft (by decide)

/-! ## Normalizing twice -/

/-- The first named segment is a drive, and another segment follows it. -/
def StartsWithDrive (segments : List String) : Prop :=
  ∃ letter : Char, ∃ next rest, letter.isAlpha = true ∧
    segments = String.ofList [letter, ':'] :: next :: rest

/-- A text without a backslash is not changed. -/
theorem slashedPath_of_notMem {text : String} (h : '\\' ∉ text.toList) :
    slashedPath text = text :=
  replaceChar_of_notMem h

theorem back_notMem_slashedPath (path : String) : '\\' ∉ (slashedPath path).toList :=
  notMem_replaceChar (by decide) path

theorem mem_intercalate {ch : Char} {segments : List String}
    (h : ch ∈ (String.intercalate "/" segments).toList) :
    ch = '/' ∨ ∃ segment ∈ segments, ch ∈ segment.toList := by
  induction segments with
  | nil => simp at h
  | cons segment rest ih =>
      cases rest with
      | nil => exact Or.inr ⟨segment, by simp, by simpa using h⟩
      | cons next others =>
          rw [String.intercalate_cons_cons] at h
          simp only [String.toList_append, List.mem_append] at h
          rcases h with (hin | hin) | hin
          · exact Or.inr ⟨segment, List.mem_cons_self, hin⟩
          · exact Or.inl (by simpa using hin)
          · rcases ih hin with hslash | ⟨other, hother, hmem⟩
            · exact Or.inl hslash
            · exact Or.inr ⟨other, List.mem_cons_of_mem _ hother, hmem⟩

/-- Normalizing brings no backslash in. -/
theorem back_notMem_purePosixPath {raw : String} (h : '\\' ∉ raw.toList) :
    '\\' ∉ (purePosixPath raw).toList := by
  rw [purePosixPath_eq]
  split
  · decide
  · intro hin
    rcases mem_intercalate hin with hslash | ⟨segment, hsegment, hmem⟩
    · exact absurd hslash (by decide)
    · exact h (subset_of_mem_pathSegments (List.mem_of_mem_filter hsegment) hmem)

/-- `^[A-Za-z]:[\\/]`, on characters. -/
theorem windowsAbsolute_eq_true_iff {raw : String} :
    windowsAbsolute raw = true ↔ ∃ letter separator rest, letter.isAlpha = true ∧
      (separator = '/' ∨ separator = '\\') ∧ raw.toList = letter :: ':' :: separator :: rest := by
  unfold windowsAbsolute
  constructor
  · intro h
    split at h
    · next letter separator rest hchars =>
        simp only [Bool.and_eq_true, Bool.or_eq_true, beq_iff_eq] at h
        exact ⟨letter, separator, rest, h.1, h.2, hchars⟩
    · cases h
  · rintro ⟨letter, separator, rest, hletter, hseparator, hchars⟩
    rw [hchars]
    simpa [hletter] using hseparator

/-- Without backslashes, a text is absolute for Windows when its first segment is a drive that does
    not end it. -/
theorem windowsAbsolute_join_iff {segments : List String}
    (hslash : ∀ segment ∈ segments, '/' ∉ segment.toList)
    (hback : ∀ segment ∈ segments, '\\' ∉ segment.toList) :
    windowsAbsolute (String.intercalate "/" segments) = true ↔ StartsWithDrive segments := by
  rw [windowsAbsolute_eq_true_iff]
  constructor
  · rintro ⟨letter, separator, rest, hletter, hseparator, hchars⟩
    cases segments with
    | nil => simp at hchars
    | cons first others =>
        have hsep : separator ∉ first.toList := by
          rcases hseparator with rfl | rfl
          · exact hslash first List.mem_cons_self
          · exact hback first List.mem_cons_self
        cases others with
        | nil =>
            rw [String.intercalate_singleton] at hchars
            exact absurd (by simp [hchars]) hsep
        | cons next more =>
            refine ⟨letter, next, more, hletter, ?_⟩
            rw [List.cons.injEq]
            refine ⟨?_, rfl⟩
            rw [String.intercalate_cons_cons, String.toList_append, String.toList_append] at hchars
            rw [← String.toList_inj, String.toList_ofList]
            have hfirst := hslash first List.mem_cons_self
            -- the separator of the match is the slash behind the first segment
            match hparts : first.toList with
            | [] =>
                simp only [hparts, List.nil_append] at hchars
                have hhead : letter = '/' := by
                  have := congrArg List.head? hchars
                  simpa using this.symm
                rw [hhead] at hletter
                exact absurd hletter (by decide)
            | [one] =>
                simp only [hparts] at hchars
                have htwo := congrArg (fun chars => chars[1]?) hchars
                simp at htwo
            | [one, two] =>
                simp only [hparts] at hchars
                have hhead := congrArg (fun chars => chars[0]?) hchars
                have htwo := congrArg (fun chars => chars[1]?) hchars
                simp at hhead htwo
                rw [hhead, htwo]
            | one :: two :: three :: more' =>
                simp only [hparts] at hchars hsep
                have hthree := congrArg (fun chars => chars[2]?) hchars
                simp at hthree
                simp [hthree] at hsep
  · rintro ⟨letter, next, rest, hletter, heq⟩
    subst heq
    refine ⟨letter, '/', (String.intercalate "/" (next :: rest)).toList, hletter, Or.inl rfl, ?_⟩
    rw [String.intercalate_cons_cons, String.toList_append, String.toList_append,
      String.toList_ofList]
    rfl

/-- **Normalizing twice.** The result is accepted again, and is then unchanged, exactly when the
    input has no drive letter hidden behind `.` segments. -/
theorem normalizeSourcePath_idem_iff {path normalized : String}
    (h : normalizeSourcePath path = .ok normalized) :
    normalizeSourcePath normalized = .ok normalized ↔
      ¬ StartsWithDrive (pathParts (slashedPath path)) := by
  obtain ⟨-, -, rfl, hdots, hparent⟩ := normalizeSourcePath_ok_iff.1 h
  have hback := back_notMem_slashedPath path
  generalize slashedPath path = raw at hdots hparent hback ⊢
  have hsame : slashedPath (purePosixPath raw) = purePosixPath raw :=
    slashedPath_of_notMem (back_notMem_purePosixPath hback)
  have hdrive : windowsAbsolute (purePosixPath raw) = true ↔ StartsWithDrive (pathParts raw) := by
    rw [purePosixPath_eq]
    split
    · next hnil =>
        rw [hnil]
        refine ⟨fun hdot => absurd hdot (by decide), fun ⟨_, _, _, _, heq⟩ => nomatch heq⟩
    · refine windowsAbsolute_join_iff (fun segment => slash_notMem_of_mem_pathParts) ?_
      intro segment hsegment hmem
      exact hback (subset_of_mem_pathSegments (List.mem_of_mem_filter hsegment) hmem)
  rw [normalizeSourcePath_ok_iff, hsame, ← hdrive, Bool.not_eq_true]
  constructor
  · exact fun haccepted => haccepted.2.1
  · exact fun hwindows =>
      ⟨relative_purePosixPath raw, hwindows, purePosixPath_idem raw, hdots, hparent⟩

theorem normalizeSourcePath_drive : normalizeSourcePath "./C:/x" = .ok "C:/x" := by
  rw [normalizeSourcePath_ok_iff]
  decide

theorem normalizeSourcePath_idem_drive :
    normalizeSourcePath "C:/x" = .ok "C:/x" ↔
      ¬ StartsWithDrive (pathParts (slashedPath "./C:/x")) :=
  normalizeSourcePath_idem_iff normalizeSourcePath_drive

/-- `./C:/x` becomes `C:/x`, which is refused. -/
theorem normalizeSourcePath_not_idem :
    ¬ ∀ path normalized, normalizeSourcePath path = .ok normalized →
      normalizeSourcePath normalized = .ok normalized := by
  intro hclaim
  have hagain := normalizeSourcePath_ok_iff.1 (hclaim _ _ normalizeSourcePath_drive)
  exact absurd hagain.2.1 (by decide)

end ConstellationTopology
