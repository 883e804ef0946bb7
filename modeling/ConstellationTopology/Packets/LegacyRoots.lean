import ConstellationTopology.Packets.MetaGeneration

set_option autoImplicit false

/-! # Roots in legacy mode

In legacy mode an assertion is bound to an artifact through its path alone: one index of paths
serves every root of the generation, and of two artifacts at one path it keeps the one that was
listed later. A signal names an artifact of its own root exactly when, at the path of each work
assertion, the artifact that stands in the index is one of the assertion's root
(`respects_roots_iff`). -/

namespace ConstellationTopology

variable {reader : MetaReader} {generation : Generation} {report : MetaAdaptationReport}
  {files : GenerationFiles} {entries : List Json} {roots : List (CorpusRootRef × RootBundle)}

/-! ## The index of paths -/

/-- The artifact that stands for a path, among artifacts listed with their paths: the last path of
    it is this one, and of all artifacts with this last path it is the one that is listed first at
    the latest place. -/
structure StandsFor (listed : List (String × String)) (artifactId path : String) : Prop where
  last_path : (listed.filter fun row => row.1 = artifactId).getLast? = some (artifactId, path)
  latest : ∀ other, (listed.filter fun row => row.1 = other).getLast? = some (other, path) →
    (listed.map Prod.fst).idxOf other ≤ (listed.map Prod.fst).idxOf artifactId

theorem mem_artifactPaths {artifactId path : String} :
    (artifactId, path) ∈ (artifactPaths entries).rows ↔
      ((entries.filterMap pathRow).filter fun row => row.1 = artifactId).getLast? =
        some (artifactId, path) := by
  rw [Table.mem_rows_iff, artifactPaths, Table.lookup_ofRows]

/-- The index gives the artifact that stands for the path. -/
theorem lookup_artifactByPath {artifactId path : String} :
    (artifactByPath entries).lookup path = some (artifactId, path) ↔
      StandsFor (entries.filterMap pathRow) artifactId path := by
  have hsorted : ((artifactPaths entries).rows.map Prod.fst).Pairwise fun id other =>
      ((entries.filterMap pathRow).map Prod.fst).idxOf id <
        ((entries.filterMap pathRow).map Prod.fst).idxOf other :=
    Table.keys_ofRows_pairwise (entries.filterMap pathRow)
  rw [List.pairwise_map] at hsorted
  rw [artifactByPath, Table.lookup_ofRows,
    getLast?_eq_some_iff_of_pairwise (hsorted.filter fun row => row.2 = path)]
  simp only [List.mem_filter, decide_eq_true_eq, and_true, mem_artifactPaths]
  constructor
  · rintro ⟨hlast, hmax⟩
    exact ⟨hlast, fun other hother => hmax (other, path) ⟨mem_artifactPaths.2 hother, rfl⟩⟩
  · rintro ⟨hlast, hlatest⟩
    refine ⟨hlast, ?_⟩
    rintro ⟨other, otherPath⟩ ⟨hmem, rfl⟩
    exact hlatest other (mem_artifactPaths.1 hmem)

/-- One artifact at most stands for a path. -/
theorem StandsFor.unique {artifactId other path : String}
    (h : StandsFor (entries.filterMap pathRow) artifactId path)
    (hother : StandsFor (entries.filterMap pathRow) other path) : other = artifactId := by
  have hrows := (lookup_artifactByPath.2 hother).symm.trans (lookup_artifactByPath.2 h)
  exact congrArg Prod.fst (Option.some.inj hrows)

/-! ## What becomes of an assertion -/

/-- An assertion of work at a path that stands for an artifact whose format has lines. -/
structure LineBound (entries : List Json) (assertion : RepositoryModelAssertion)
    (artifactId : String) : Prop where
  work : assertion.predicate ∈ workPredicates
  stands : StandsFor (entries.filterMap pathRow) artifactId assertion.sourcePath
  line_bearing : formatOrText entries artifactId ∈ lineBearingFormats

/-- What becomes of an assertion of work is what becomes of it at the artifact that stands for its
    path. -/
theorem adaptAssertion_cases {assertion : RepositoryModelAssertion} {outcome : LegacyOutcome}
    (h : adaptAssertion entries assertion = .ok outcome) :
    (outcome.signal? = none ∧ ∀ artifactId, ¬ LineBound entries assertion artifactId) ∨
      ∃ artifactId, LineBound entries assertion artifactId ∧
        outcome.signal? =
          some (lineSignal assertion artifactId (formatOrText entries artifactId)) := by
  unfold adaptAssertion at h
  by_cases hwork : assertion.predicate ∈ workPredicates
  · rw [if_neg (not_not.2 hwork)] at h
    cases hlookup : (artifactByPath entries).lookup assertion.sourcePath with
    | none =>
        rw [hlookup] at h
        cases h
        refine Or.inl ⟨rfl, fun artifactId hbound => ?_⟩
        cases hlookup.symm.trans (lookup_artifactByPath.2 hbound.stands)
    | some row =>
        obtain ⟨artifactId, path⟩ := row
        have hpath : path = assertion.sourcePath := Table.lookup_key hlookup
        subst hpath
        have hstands := lookup_artifactByPath.1 hlookup
        rw [hlookup] at h
        dsimp only at h
        by_cases hformat : formatOrText entries artifactId ∈ lineBearingFormats
        · rw [if_neg (not_not.2 hformat)] at h
          obtain ⟨_, -, h⟩ := bind_eq_ok.1 h
          cases h
          exact Or.inr ⟨artifactId, ⟨hwork, hstands, hformat⟩, rfl⟩
        · rw [if_pos hformat] at h
          cases h
          refine Or.inl ⟨rfl, fun other hbound => ?_⟩
          exact hformat (hstands.unique hbound.stands ▸ hbound.line_bearing)
  · rw [if_pos hwork] at h
    cases h
    exact Or.inl ⟨rfl, fun _ hbound => hwork hbound.work⟩

/-- An assertion gives the line signal of the artifact it is bound to, and no other. -/
theorem adaptAssertion_signal {assertion : RepositoryModelAssertion} {outcome : LegacyOutcome}
    (h : adaptAssertion entries assertion = .ok outcome) {signal : AdaptedSignal} :
    outcome.signal? = some signal ↔ ∃ artifactId, LineBound entries assertion artifactId ∧
      signal = lineSignal assertion artifactId (formatOrText entries artifactId) := by
  rcases adaptAssertion_cases h with ⟨hnone, hunbound⟩ | ⟨artifactId, hbound, hsome⟩
  · rw [hnone]
    constructor
    · intro hsignal
      cases hsignal
    · rintro ⟨artifactId, hbound, -⟩
      exact absurd hbound (hunbound artifactId)
  · rw [hsome, Option.some.injEq]
    constructor
    · rintro rfl
      exact ⟨artifactId, hbound, rfl⟩
    · rintro ⟨other, hother, rfl⟩
      rw [hbound.stands.unique hother.stands]

/-! ## Roots -/

/-- The document index lists an artifact at a path of a root. -/
def ListedIn (entries : List Json) (rootId artifactId path : String) : Prop :=
  ∃ entry ∈ entries, entry.get? "root_id" = some (.str rootId) ∧
    entry.get? "artifact_id" = some (.str artifactId) ∧
    entry.get? "root_relative_path" = some (.str path)

/-- A signal says what an assertion says, whichever artifact it names. -/
def Carries (assertion : RepositoryModelAssertion) (signal : DocumentWorkSignal) : Prop :=
  signal = (lineSignal assertion signal.artifactId signal.documentFormat).toDocumentWorkSignal

/-- Every signal carries an assertion of a root, and names an artifact that is at the path of the
    assertion in each root whose bundle makes the assertion. -/
structure RespectsRoots (entries : List Json) (report : MetaAdaptationReport) : Prop where
  carried : ∀ signal ∈ report.signals, ∃ root ∈ report.roots, ∃ assertion ∈ root.2.statements,
    Carries assertion signal
  own_root : ∀ root ∈ report.roots, ∀ assertion ∈ root.2.statements, ∀ signal ∈ report.signals,
    Carries assertion signal →
      ListedIn entries root.1.rootId signal.artifactId assertion.sourcePath

/-- At the path of a work assertion the artifact that stands is one of the assertion's root, if its
    format has lines. -/
def OwnRootStands (entries : List Json) (roots : List (CorpusRootRef × RootBundle)) : Prop :=
  ∀ root ∈ roots, ∀ assertion ∈ root.2.statements, ∀ artifactId,
    LineBound entries assertion artifactId →
      ListedIn entries root.1.rootId artifactId assertion.sourcePath

/-- The signals of legacy mode are the line signals of the assertions that are bound. -/
theorem mem_signals_iff (h : adaptMetaGeneration reader generation = .ok report)
    (hmode : report.adaptationMode = .legacyLineAssertions)
    (hfiles : readGeneration reader.python generation = .ok files)
    (hentries : documentEntries files = .ok entries) {signal : DocumentWorkSignal} :
    signal ∈ report.signals ↔ ∃ root ∈ report.roots, ∃ assertion ∈ root.2.statements, ∃ artifactId,
      LineBound entries assertion artifactId ∧
        signal = (lineSignal assertion artifactId
          (formatOrText entries artifactId)).toDocumentWorkSignal := by
  obtain ⟨read, payload, signals, hadapted⟩ := adapted_of_adaptMetaGeneration h
  cases hfiles.symm.trans hadapted.files_read
  have hpayload := hadapted.payload_read
  unfold loadCurrentPayload at hpayload
  rw [← hadapted.mode, hmode] at hpayload
  cases hpayload
  obtain ⟨found, hfound, hbuilt⟩ := bind_eq_ok.1 hadapted.signals_built
  cases hentries.symm.trans hfound
  obtain ⟨outcomes, houtcomes, hbuilt⟩ := bind_eq_ok.1 hbuilt
  obtain ⟨hsignals, -⟩ := Prod.mk.inj (pure_eq_ok.1 hbuilt)
  rw [mapM_eq_ok, hadapted.bundles] at houtcomes
  rw [hadapted.signals_carried, ← hsignals]
  simp only [List.mem_map, mem_sortedBy, List.mem_filterMap]
  constructor
  · rintro ⟨adapted, ⟨outcome, houtcome, hsome⟩, rfl⟩
    obtain ⟨assertion, hassertion, hok⟩ := exists_of_mem_forall₂ houtcomes houtcome
    obtain ⟨bundle, hbundle, hstatement⟩ := List.mem_flatMap.1 hassertion
    obtain ⟨root, hroot, rfl⟩ := List.mem_map.1 hbundle
    obtain ⟨artifactId, hbound, rfl⟩ := (adaptAssertion_signal hok).1 hsome
    exact ⟨root, hroot, assertion, hstatement, artifactId, hbound, rfl⟩
  · rintro ⟨root, hroot, assertion, hstatement, artifactId, hbound, rfl⟩
    have hassertion : assertion ∈ (report.roots.map Prod.snd).flatMap RootBundle.statements :=
      List.mem_flatMap.2 ⟨root.2, List.mem_map_of_mem hroot, hstatement⟩
    obtain ⟨outcome, houtcome, hok⟩ := exists_of_mem_forall₂ houtcomes.flip hassertion
    exact ⟨_, ⟨outcome, houtcome, (adaptAssertion_signal hok).2 ⟨artifactId, hbound, rfl⟩⟩, rfl⟩

/-- The roots of the report are the roots that are loaded. -/
theorem roots_of_adaptMetaGeneration (h : adaptMetaGeneration reader generation = .ok report)
    (hmode : report.adaptationMode = .legacyLineAssertions)
    (hfiles : readGeneration reader.python generation = .ok files) :
    loadRootBundles reader generation .legacyLineAssertions files = .ok report.roots := by
  obtain ⟨read, payload, signals, hadapted⟩ := adapted_of_adaptMetaGeneration h
  cases hfiles.symm.trans hadapted.files_read
  rw [← hadapted.roots_read, ← hadapted.mode, hmode]

/-- Where the signals respect the roots, the artifact of the own root stands at every path. -/
theorem ownRootStands_of_respects (h : adaptMetaGeneration reader generation = .ok report)
    (hmode : report.adaptationMode = .legacyLineAssertions)
    (hfiles : readGeneration reader.python generation = .ok files)
    (hentries : documentEntries files = .ok entries) (hrespects : RespectsRoots entries report) :
    OwnRootStands entries report.roots := by
  intro root hroot assertion hstatement artifactId hbound
  have hsignal := (mem_signals_iff h hmode hfiles hentries).2
    ⟨root, hroot, assertion, hstatement, artifactId, hbound, rfl⟩
  exact hrespects.own_root root hroot assertion hstatement _ hsignal rfl

/-- **Signals respect roots where the own artifact stands.** An adaptation that succeeds in legacy
    mode binds every assertion within its own root exactly when, at the path of each work assertion
    of the loaded roots, the artifact that stands in the document index is listed there in the
    assertion's root, or has a format without lines. -/
theorem respects_roots_iff (h : adaptMetaGeneration reader generation = .ok report)
    (hmode : report.adaptationMode = .legacyLineAssertions)
    (hfiles : readGeneration reader.python generation = .ok files)
    (hentries : documentEntries files = .ok entries)
    (hroots : loadRootBundles reader generation .legacyLineAssertions files = .ok roots) :
    RespectsRoots entries report ↔ OwnRootStands entries roots := by
  cases hroots.symm.trans (roots_of_adaptMetaGeneration h hmode hfiles)
  constructor
  · exact ownRootStands_of_respects h hmode hfiles hentries
  · intro hstands
    refine ⟨?_, ?_⟩
    · intro signal hsignal
      obtain ⟨root, hroot, assertion, hstatement, artifactId, hbound, rfl⟩ :=
        (mem_signals_iff h hmode hfiles hentries).1 hsignal
      exact ⟨root, hroot, assertion, hstatement, rfl⟩
    · intro root hroot assertion hstatement signal hsignal hcarries
      obtain ⟨_, -, other, -, artifactId, hbound, rfl⟩ :=
        (mem_signals_iff h hmode hfiles hentries).1 hsignal
      -- the other assertion is of the same predicate and at the same path
      have hpredicate : other.predicate = assertion.predicate :=
        congrArg DocumentWorkSignal.predicate hcarries
      have hpath : other.sourcePath = assertion.sourcePath :=
        congrArg DocumentWorkSignal.sourcePath hcarries
      exact hstands root hroot assertion hstatement artifactId
        ⟨hpredicate ▸ hbound.work, hpath ▸ hbound.stands, hbound.line_bearing⟩

/-! ## Two roots -/

/-- A heading of the file that both roots may have. -/
def headingAssertion : RepositoryModelAssertion where
  assertionId := "assertion:1"
  subjectId := "repository:a"
  predicate := "document.heading"
  object := "Overview"
  sourcePath := "README"
  startLine := 1
  endLine := 1
  evidenceExcerpt := "# Overview"
  sourceContentHash := "sha256:1"
  extractorId := "headings"
  evidenceClass := .declared
  authority := "document"
  confidence := "high"
  startLine_positive := Nat.one_pos
  endLine_positive := Nat.one_pos

/-- Two observed roots. -/
def twoRootsSnapshot : Json :=
  .obj [("corpus_source_snapshot_id", .str "snapshot:1"),
    ("roots", .arr
      [.obj [("root_id", .str "root:a"), ("observation_status", .str "observed"),
          ("bundle_ref", .str "bundles/a")],
        .obj [("root_id", .str "root:b"), ("observation_status", .str "observed"),
          ("bundle_ref", .str "bundles/b")]])]

/-- A document of a root. -/
def indexEntry (rootId artifactId path : String) : Json :=
  .obj [("artifact_id", .str artifactId), ("root_id", .str rootId),
    ("root_relative_path", .str path), ("format", .str "markdown")]

/-- The documents of the two roots; the second has its document at the path. -/
def twoRootsEntries (path : String) : List Json :=
  [indexEntry "root:a" "artifact:a" "README", indexEntry "root:b" "artifact:b" path]

/-- The index of both documents. -/
def twoRootsIndex (path : String) : Json := .obj [("documents", .arr (twoRootsEntries path))]

/-- The documents of the generation. -/
def twoRootsDocuments (path : String) : List (String × Json) :=
  [(snapshotFile, twoRootsSnapshot), (documentIndexFile, twoRootsIndex path)]

def twoRootsGeneration (path : String) : Generation :=
  writtenGeneration noFloats (twoRootsDocuments path) []

/-- The bundle of a root with its assertions. -/
def assertingBundle (name : String) (assertions : List RepositoryModelAssertion) : RootBundle where
  packet :=
    { packetId := "packet:" ++ name
      repositoryId := "repository:" ++ name
      revision := "1"
      snapshotHash := "sha256:snapshot"
      producer := ⟨"producer", "1"⟩
      profile := ⟨"repo-model", "1.0.0", "sha256:profile"⟩
      schemaHash := "sha256:schema"
      semanticHash := "sha256:" ++ name
      payload := some { assertions := some assertions } }

def twoRootsReader (path : String) : MetaReader :=
  printedReader noFloats [twoRootsSnapshot, twoRootsIndex path] fun reference =>
    if reference = "bundles/a" then .ok (assertingBundle "a" [headingAssertion])
    else if reference = "bundles/b" then .ok (assertingBundle "b" [])
    else .error (.packetLoad "no such bundle")

/-- What is read of the generation. -/
def twoRootsFiles (path : String) : GenerationFiles where
  documents := generationDocuments.filterMap fun name =>
    ((twoRootsDocuments path).lookup name).map (Prod.mk name)
  missing := (generationDocuments.filter fun name =>
    ((twoRootsDocuments path).lookup name).isNone) ++ generationRows

theorem readGeneration_twoRoots (path : String) :
    readGeneration (twoRootsReader path).python (twoRootsGeneration path) =
      .ok (twoRootsFiles path) := by
  have hpython : (twoRootsReader path).python =
      printedPython noFloats [twoRootsSnapshot, twoRootsIndex path] := rfl
  have hsnapshot : (twoRootsSnapshot.stringifyChars noFloats).take 4 = ['{', '"', 'c', 'o'] := rfl
  have hindex : ((twoRootsIndex path).stringifyChars noFloats).take 4 = ['{', '"', 'd', 'o'] := rfl
  have hstarts : ([twoRootsSnapshot, twoRootsIndex path].map
      fun value => (value.stringifyChars noFloats).take 4).Nodup := by
    rw [List.map_cons, List.map_singleton, hsnapshot, hindex]
    decide
  have hnames : ∀ name ∈ (twoRootsDocuments path).map Prod.fst, name ∈ generationDocuments := by
    change ∀ name ∈ [snapshotFile, documentIndexFile], _
    decide
  refine readGeneration_written (writtenGeneration_holds ?_ hnames (by decide))
  intro name value hlookup
  have hmem := List.mem_map_of_mem (f := Prod.snd) (mem_of_lookup hlookup)
  rw [hpython]
  exact printedPython_loads hstarts hmem

theorem documentEntries_twoRoots (path : String) :
    documentEntries (twoRootsFiles path) = .ok (twoRootsEntries path) := rfl

/-- The generation is adapted whether or not the roots share the path. -/
theorem exists_twoRootsReport {path : String} (hpath : path = "README" ∨ path = "PLAN") :
    ∃ report, adaptMetaGeneration (twoRootsReader path) (twoRootsGeneration path) = .ok report ∧
      report.adaptationMode = .legacyLineAssertions ∧
      ∃ root ∈ report.roots, root.1.rootId = "root:a" ∧ headingAssertion ∈ root.2.statements := by
  unfold adaptMetaGeneration
  rw [readGeneration_twoRoots]
  rcases hpath with rfl | rfl
  · exact ⟨_, rfl, rfl, _, List.mem_cons_self, rfl, List.mem_cons_self⟩
  · exact ⟨_, rfl, rfl, _, List.mem_cons_self, rfl, List.mem_cons_self⟩

/-- The roots have no path in common. -/
theorem respects_roots_apart :
    ∃ report roots, adaptMetaGeneration (twoRootsReader "PLAN") (twoRootsGeneration "PLAN") =
        .ok report ∧
      loadRootBundles (twoRootsReader "PLAN") (twoRootsGeneration "PLAN") .legacyLineAssertions
        (twoRootsFiles "PLAN") = .ok roots ∧
      (RespectsRoots (twoRootsEntries "PLAN") report ↔
        OwnRootStands (twoRootsEntries "PLAN") roots) := by
  obtain ⟨report, hreport, hmode, -⟩ := exists_twoRootsReport (Or.inr rfl)
  have hfiles := readGeneration_twoRoots "PLAN"
  have hroots := roots_of_adaptMetaGeneration hreport hmode hfiles
  exact ⟨report, report.roots, hreport, hroots,
    respects_roots_iff hreport hmode hfiles (documentEntries_twoRoots "PLAN") hroots⟩

/-- The roots share a path, and the heading of the one is bound to the file of the other. -/
theorem shared_path_crosses_roots :
    ¬ ∀ (reader : MetaReader) (generation : Generation) (report : MetaAdaptationReport)
      (files : GenerationFiles) (entries : List Json),
      adaptMetaGeneration reader generation = .ok report →
      report.adaptationMode = .legacyLineAssertions →
      readGeneration reader.python generation = .ok files →
      documentEntries files = .ok entries → RespectsRoots entries report := by
  intro hclaim
  obtain ⟨report, hreport, hmode, root, hroot, hname, hheading⟩ :=
    exists_twoRootsReport (Or.inl rfl)
  have hfiles := readGeneration_twoRoots "README"
  have hentries := documentEntries_twoRoots "README"
  have hstands := ownRootStands_of_respects hreport hmode hfiles hentries
    (hclaim _ _ report _ _ hreport hmode hfiles hentries)
  have hbound : LineBound (twoRootsEntries "README") headingAssertion "artifact:b" :=
    ⟨by decide, lookup_artifactByPath.1 rfl, by decide⟩
  obtain ⟨entry, hentry, hrootId, hartifact, -⟩ := hstands root hroot _ hheading _ hbound
  rw [hname] at hrootId
  simp only [twoRootsEntries, List.mem_cons, List.not_mem_nil, or_false] at hentry
  rcases hentry with rfl | rfl
  · exact absurd (Json.str.inj (Option.some.inj hartifact)) (by decide)
  · exact absurd (Json.str.inj (Option.some.inj hrootId)) (by decide)

end ConstellationTopology
