import ConstellationTopology.Packets.MetaGeneration

set_option autoImplicit false

/-! # Conservation of work signals

In current mode every record of the payload becomes one signal, bound to the one input artifact
that has the id the record states. What the translation of a locator may lose is a column or a
block kind that is no text: a generation is conserved exactly when no record has one
(`conserves_signals_iff`). -/

namespace ConstellationTopology

open Json (fieldText?_eq_some)

variable {reader : MetaReader} {generation : Generation} {report : MetaAdaptationReport}

/-! ## The artifact index -/

/-- The loop keeps the first artifact of an id and notes the ids that occur again. -/
theorem foldl_indexArtifact (records : List ArtifactRecord) (id : String) :
    (records.foldl indexArtifact ([], [])).1.lookup id =
        (records.find? fun record => record.artifactId = id).map
          (fun record => (record.contentHash, record.sourcePath)) ∧
      (id ∈ (records.foldl indexArtifact ([], [])).2 ↔
        2 ≤ (records.filter fun record => record.artifactId = id).length) := by
  induction records using List.reverseRecOn with
  | nil => simp
  | append_singleton rest record ih =>
      obtain ⟨hlookup, hduplicated⟩ := ih
      rw [List.foldl_concat, List.find?_append, List.filter_append, List.length_append]
      generalize rest.foldl indexArtifact ([], []) = state at hlookup hduplicated ⊢
      unfold indexArtifact
      by_cases hid : record.artifactId = id
      · subst hid
        cases hfind : rest.find? fun other => other.artifactId = record.artifactId with
        | none =>
            -- the first artifact of the id
            have hnil : (rest.filter fun other => other.artifactId = record.artifactId) = [] := by
              rw [List.filter_eq_nil_iff]
              exact List.find?_eq_none.1 hfind
            have hlookup : state.1.lookup record.artifactId = none := by rw [hlookup, hfind]; rfl
            rw [hnil] at hduplicated ⊢
            simpa [hlookup, List.lookup_append] using hduplicated
        | some first =>
            have hfirst := List.find?_some hfind
            have hmem : first ∈ rest.filter fun other => other.artifactId = record.artifactId :=
              List.mem_filter.2 ⟨List.mem_of_find?_eq_some hfind, hfirst⟩
            have hpos := List.length_pos_of_mem hmem
            rw [hfind] at hlookup
            simp [hlookup]
            omega
      · have hnil : [record].filter (fun other => other.artifactId = id) = [] := by simp [hid]
        have hne : (id == record.artifactId) = false := beq_eq_false_iff_ne.2 (Ne.symm hid)
        rw [hnil]
        split
        · simp [hlookup, hduplicated, hid, Ne.symm hid]
        · simp [hlookup, hduplicated, hid, List.lookup_append, List.lookup_cons, hne]

/-- The index has the ids that exactly one artifact carries. -/
theorem lookup_artifactIndex {bundles : List RootBundle} {id contentHash path : String} :
    (artifactIndex bundles).lookup id = some (contentHash, path) ↔
      ∃ artifact, (inputArtifacts bundles).filter (fun record => record.artifactId = id) =
          [artifact] ∧
        artifact.contentHash = contentHash ∧ artifact.sourcePath = path := by
  obtain ⟨hlookup, hduplicated⟩ := foldl_indexArtifact (inputArtifacts bundles) id
  unfold artifactIndex
  dsimp only
  rw [lookup_filter_keys fun key => decide (key ∉
    ((inputArtifacts bundles).foldl indexArtifact ([], [])).2), hlookup, ← List.head?_filter]
  simp only [hduplicated, decide_eq_true_eq]
  cases (inputArtifacts bundles).filter fun record => record.artifactId = id with
  | nil => simp
  | cons first rest =>
      cases rest with
      | nil => simp
      | cons second others => simp

/-! ## Records -/

/-- A signal names the one input artifact that has the id its record states, where the record says
    the artifact is and with the content it declares. -/
structure BoundToArtifact (bundles : List RootBundle) (record : Json)
    (signal : DocumentWorkSignal) : Prop where
  artifact : ∃ artifact, (inputArtifacts bundles).filter
      (fun other => other.artifactId = signal.artifactId) = [artifact] ∧
    artifact.contentHash = signal.sourceContentHash ∧ artifact.sourcePath = signal.sourcePath
  rmp_artifact_id : record.get? "rmp_artifact_id" = some (.str signal.artifactId)
  source_path : record.get? "source_path" = some (.str signal.sourcePath)
  content_hash : ∀ declared, record.get? "raw_content_hash" = some declared →
    declared = .null ∨ declared = .str signal.sourceContentHash

theorem nonemptyText_eq_some {container : Json} {key text : String} :
    nonemptyText container key = some text ↔
      container.get? key = some (.str text) ∧ text ≠ "" := by
  rw [nonemptyText, Option.filter_eq_some_iff, fieldText?_eq_some, decide_eq_true_eq]

/-- A record is resolved to the one artifact it names, at the path and with the hash it states. -/
theorem resolveRecordArtifact_eq_ok {python : PythonReader} {record : Json}
    {index : List (String × String × String)} {context rmpArtifactId contentHash path : String}
    (h : resolveRecordArtifact python record index context =
      .ok (rmpArtifactId, contentHash, path)) :
    record.get? "rmp_artifact_id" = some (.str rmpArtifactId) ∧
      index.lookup rmpArtifactId = some (contentHash, path) ∧
      (∀ declared, record.get? "raw_content_hash" = some declared →
        declared = .null ∨ declared = .str contentHash) ∧
      record.get? "source_path" = some (.str path) := by
  obtain ⟨id, hid, h⟩ := bind_eq_ok.1 h
  obtain ⟨⟨hash, portablePath⟩, hindex, h⟩ := bind_eq_ok.1 h
  obtain ⟨_, hhash, h⟩ := bind_eq_ok.1 h
  obtain ⟨sourcePath, hpath, h⟩ := bind_eq_ok.1 h
  obtain ⟨_, heq, h⟩ := bind_eq_ok.1 h
  cases h
  rw [expect_eq_ok, nonemptyText_eq_some] at hid hpath
  rw [require_eq_ok] at hhash heq
  subst heq
  refine ⟨hid.1, expect_eq_ok.1 hindex, ?_, hpath.1⟩
  intro declared hdeclared
  rw [hdeclared, Option.getD_some] at hhash
  rcases hhash with hnull | htext
  · cases declared with
    | null => exact Or.inl rfl
    | bool _ | int _ | float _ | str _ | arr _ | obj _ => cases hnull
  · exact Or.inr (Json.isText_iff.1 htext)

/-- A record is adapted to a signal of its own id. -/
theorem bound_of_adaptRecord {python : PythonReader} {bundles : List RootBundle}
    {formats : Table (Prod.fst : String × String → String)} {decodings : List String}
    {record : Json} {signal : AdaptedSignal}
    (h : adaptRecord python (artifactIndex bundles) formats decodings record = .ok signal) :
    signal.signalId = pythonText python ((record.get? "signal_id").getD .null) ∧
      BoundToArtifact bundles record signal.toDocumentWorkSignal ∧
      (SameCoordinate record signal.locator ↔ TextualCoordinate record) := by
  obtain ⟨_, -, h⟩ := bind_eq_ok.1 h
  obtain ⟨⟨rmpArtifactId, contentHash, sourcePath⟩, hartifact, h⟩ := bind_eq_ok.1 h
  obtain ⟨documentFormat, -, h⟩ := bind_eq_ok.1 h
  obtain ⟨located, hlocated, h⟩ := bind_eq_ok.1 h
  obtain ⟨predicate, -, h⟩ := bind_eq_ok.1 h
  obtain ⟨extractorId, -, h⟩ := bind_eq_ok.1 h
  obtain ⟨decoderId, -, h⟩ := bind_eq_ok.1 h
  obtain ⟨decoderVersion, -, h⟩ := bind_eq_ok.1 h
  obtain ⟨evidence, -, h⟩ := bind_eq_ok.1 h
  obtain ⟨authority, -, h⟩ := bind_eq_ok.1 h
  obtain ⟨confidence, -, h⟩ := bind_eq_ok.1 h
  obtain ⟨_, -, h⟩ := bind_eq_ok.1 h
  cases h
  obtain ⟨hid, hindex, hhash, hpath⟩ := resolveRecordArtifact_eq_ok hartifact
  -- what is translated is an object, so the record has a locator
  cases hraw : record.get? "structured_locator" with
  | none =>
      rw [hraw] at hlocated
      obtain ⟨_, hobject, -⟩ := bind_eq_ok.1 hlocated
      cases require_eq_ok.1 hobject
  | some raw =>
      rw [hraw] at hlocated
      exact ⟨rfl, ⟨lookup_artifactIndex.1 hindex, hid, hpath, hhash⟩,
        sameCoordinate_iff_of_translate hraw hlocated⟩

/-! ## Conservation -/

/-- A signal is bound to the artifact of its record and names the coordinate of it. -/
structure BoundToRecord (bundles : List RootBundle) (record : Json) (signal : DocumentWorkSignal) :
    Prop extends BoundToArtifact bundles record signal where
  coordinate : SameCoordinate record signal.locator

/-- The signals of the packet are those of the payload: one for each record and no other, each bound
    as its record says, and nothing declined. -/
structure ConservesSignals (payload : WorkSignalPayload) (report : MetaAdaptationReport) : Prop where
  ids : (report.signals.map fun signal => some signal.signalId).Perm
    (payload.records.map (Json.fieldText? "signal_id"))
  ids_nodup : (report.signals.map DocumentWorkSignal.signalId).Nodup
  bound : ∀ record ∈ payload.records, ∀ signal ∈ report.signals,
    record.fieldText? "signal_id" = some signal.signalId →
      BoundToRecord report.rootBundles record signal
  none_declined : report.unadaptableSignals = []

/-- The records of an accepted payload have ids. -/
theorem exists_signalId_of_load {python : PythonReader} {c : Codec} {payload : WorkSignalPayload}
    (h : loadWorkSignalPayload python generation c = .ok payload) {record : Json}
    (hrecord : record ∈ payload.records) :
    ∃ signalId, record.get? "signal_id" = some (.str signalId) := by
  obtain ⟨bytes, text, hverified⟩ := load_eq_ok.1 h
  obtain ⟨line, -, hgives⟩ := exists_of_mem_forall₂ hverified.lines hrecord
  obtain ⟨signalId, -, hid⟩ := hgives.signal_id
  exact ⟨signalId, hid⟩

/-- What a successful adaptation in current mode makes of the records, before it sorts. -/
theorem exists_adapted_records (h : adaptMetaGeneration reader generation = .ok report)
    (hmode : report.adaptationMode = .currentComplete) {payload : WorkSignalPayload}
    (hpayload : loadWorkSignalPayload reader.python generation reader.codec = .ok payload) :
    ∃ entries signals, report.signals.Perm (signals.map AdaptedSignal.toDocumentWorkSignal) ∧
      List.Forall₂ (fun record signal => adaptRecord reader.python
        (artifactIndex report.rootBundles) (documentFormats entries)
        (normalizedDocumentIds entries) record = .ok signal) payload.records signals ∧
      report.unadaptableSignals = [] := by
  obtain ⟨files, read, carried, hadapted⟩ := adapted_of_adaptMetaGeneration h
  have hread := hadapted.payload_read
  unfold loadCurrentPayload at hread
  rw [← hadapted.mode, hmode] at hread
  dsimp only at hread
  rw [hpayload] at hread
  cases hread
  obtain ⟨sorted, hsorted, hbuilt⟩ := bind_eq_ok.1 hadapted.signals_built
  obtain ⟨entries, -, hsorted⟩ := bind_eq_ok.1 hsorted
  obtain ⟨signals, hsignals, hsorted⟩ := bind_eq_ok.1 hsorted
  obtain ⟨hcarried, hnone⟩ := Prod.mk.inj (pure_eq_ok.1 hbuilt)
  refine ⟨entries, signals, ?_, mapM_eq_ok.1 hsignals, hnone.symm⟩
  rw [hadapted.signals_carried, ← hcarried, ← pure_eq_ok.1 hsorted]
  exact (sortedBy_perm _ _).map _

/-- The signals have the ids of the records. -/
theorem signalIds_perm (h : adaptMetaGeneration reader generation = .ok report)
    (hmode : report.adaptationMode = .currentComplete) {payload : WorkSignalPayload}
    (hpayload : loadWorkSignalPayload reader.python generation reader.codec = .ok payload) :
    (report.signals.map fun signal => some signal.signalId).Perm
      (payload.records.map (Json.fieldText? "signal_id")) := by
  obtain ⟨entries, signals, hperm, hadapted, -⟩ := exists_adapted_records h hmode hpayload
  have hpairs := (List.forall₂_and_left _ _).2
    ⟨fun record hrecord => exists_signalId_of_load hpayload hrecord, hadapted⟩
  have hids : signals.map (fun signal => some signal.signalId) =
      payload.records.map (Json.fieldText? "signal_id") := by
    rw [← List.forall₂_eq_eq_eq, List.forall₂_map_left_iff, List.forall₂_map_right_iff]
    refine hpairs.flip.imp ?_
    rintro signal record ⟨⟨signalId, hid⟩, hsignal⟩
    rw [(bound_of_adaptRecord hsignal).1, hid, fieldText?_eq_some.2 hid]
    rfl
  have hmapped := hperm.map fun signal => some signal.signalId
  rw [List.map_map] at hmapped
  exact hids ▸ hmapped

/-- No two signals share an id. -/
theorem signalIds_nodup (h : adaptMetaGeneration reader generation = .ok report)
    (hmode : report.adaptationMode = .currentComplete) {payload : WorkSignalPayload}
    (hpayload : loadWorkSignalPayload reader.python generation reader.codec = .ok payload) :
    (report.signals.map DocumentWorkSignal.signalId).Nodup := by
  obtain ⟨_, _, hverified⟩ := load_eq_ok.1 hpayload
  refine List.Nodup.of_map some ?_
  rw [List.map_map]
  exact (signalIds_perm h hmode hpayload).nodup_iff.2 hverified.ids_nodup

/-- The signal that bears the id of a record was adapted from it. -/
theorem bound_of_signalId (h : adaptMetaGeneration reader generation = .ok report)
    (hmode : report.adaptationMode = .currentComplete) {payload : WorkSignalPayload}
    (hpayload : loadWorkSignalPayload reader.python generation reader.codec = .ok payload)
    {record : Json} (hrecord : record ∈ payload.records) {signal : DocumentWorkSignal}
    (hsignal : signal ∈ report.signals)
    (hid : record.fieldText? "signal_id" = some signal.signalId) :
    BoundToArtifact report.rootBundles record signal ∧
      (SameCoordinate record signal.locator ↔ TextualCoordinate record) := by
  obtain ⟨entries, signals, hperm, hadapted, -⟩ := exists_adapted_records h hmode hpayload
  obtain ⟨adapted, hmem, hadapt⟩ := exists_of_mem_forall₂ hadapted.flip hrecord
  obtain ⟨hadaptedId, hbound⟩ := bound_of_adaptRecord hadapt
  have hsame : adapted.toDocumentWorkSignal = signal := by
    refine List.inj_on_of_nodup_map (signalIds_nodup h hmode hpayload)
      (hperm.mem_iff.2 (List.mem_map_of_mem hmem)) hsignal ?_
    rw [hadaptedId, fieldText?_eq_some.1 hid]
    rfl
  exact hsame ▸ hbound

/-- Where the signals are conserved the coordinates are textual. -/
theorem textualCoordinate_of_conserves (h : adaptMetaGeneration reader generation = .ok report)
    (hmode : report.adaptationMode = .currentComplete) {payload : WorkSignalPayload}
    (hpayload : loadWorkSignalPayload reader.python generation reader.codec = .ok payload)
    (hconserves : ConservesSignals payload report) {record : Json}
    (hrecord : record ∈ payload.records) : TextualCoordinate record := by
  obtain ⟨signalId, hid⟩ := exists_signalId_of_load hpayload hrecord
  rw [← fieldText?_eq_some] at hid
  have hmem := hconserves.ids.mem_iff.2 (List.mem_map_of_mem hrecord)
  obtain ⟨signal, hsignal, hsome⟩ := List.mem_map.1 hmem
  have hbound := hconserves.bound record hrecord signal hsignal hsome.symm
  exact (bound_of_signalId h hmode hpayload hrecord hsignal hsome.symm).2.1 hbound.coordinate

/-- **Signals are conserved up to textual coordinates.** An adaptation that succeeds in current mode
    conserves the records of its payload exactly when no record states a column of a row, or the
    kind of a block, that is no text. -/
theorem conserves_signals_iff (h : adaptMetaGeneration reader generation = .ok report)
    (hmode : report.adaptationMode = .currentComplete) {payload : WorkSignalPayload}
    (hpayload : loadWorkSignalPayload reader.python generation reader.codec = .ok payload) :
    ConservesSignals payload report ↔ ∀ record ∈ payload.records, TextualCoordinate record := by
  constructor
  · exact fun hconserves record hrecord =>
      textualCoordinate_of_conserves h hmode hpayload hconserves hrecord
  · intro htextual
    obtain ⟨_, _, -, -, hnone⟩ := exists_adapted_records h hmode hpayload
    refine ⟨signalIds_perm h hmode hpayload, signalIds_nodup h hmode hpayload, ?_, hnone⟩
    intro record hrecord signal hsignal hid
    obtain ⟨hbound, hcoordinate⟩ := bound_of_signalId h hmode hpayload hrecord hsignal hid
    exact { toBoundToArtifact := hbound, coordinate := hcoordinate.2 (htextual record hrecord) }

/-! ## One row of a sheet -/

/-- A signal that was read from a row, with the column it states. -/
def rowRecord (column : Json) : Json :=
  .obj [("signal_id", .str "signal:1"), ("artifact_id", .str "corpus:1"),
    ("rmp_artifact_id", .str "artifact:1"), ("source_path", .str "TASKS"), ("format", .str "csv"),
    ("structured_locator",
      .obj [("kind", .str "csv_row"), ("row_number", .int 9), ("column", column)]),
    ("predicate", .str "work.status"), ("extractor_id", .str "status"),
    ("decoder_id", .str "l9.csv"), ("decoder_version", .str "1"),
    ("evidence_class", .str "declared"), ("authority", .str "document"),
    ("confidence", .str "high")]

def rowManifest (column : Json) : Json :=
  .obj [("schema", .str documentWorkSignalsManifestSchema),
    ("payload_file", .str documentWorkSignalsFile),
    ("payload_byte_length", .int (writtenPayload noFloats [rowRecord column]).toUTF8.size),
    ("payload_artifact_hash",
      .str (textCodec.artifactHash (writtenPayload noFloats [rowRecord column]).toUTF8)),
    ("record_count", .int 1),
    ("payload_semantic_hash", .str (workSignalsSemanticHash textCodec [rowRecord column]))]

/-- One observed root. -/
def rowSnapshot : Json :=
  .obj [("corpus_source_snapshot_id", .str "snapshot:1"),
    ("roots", .arr [.obj [("root_id", .str "root:a"), ("root_identity_class", .str "declared"),
      ("observation_status", .str "observed"), ("bundle_ref", .str "bundles/a")]])]

def rowGeneration (column : Json) : Generation :=
  writtenGeneration noFloats [(snapshotFile, rowSnapshot)]
    [(documentWorkSignalsFile, (writtenPayload noFloats [rowRecord column]).toUTF8),
      (documentWorkSignalsManifestFile, ((rowManifest column).stringify noFloats).toUTF8)]

def rowArtifact : ArtifactRecord where
  artifactId := "artifact:1"
  repositoryId := "repository:a"
  sourcePath := "TASKS"
  artifactType := "sheet"
  contentHash := "sha256:1"
  packetRef := "packet:a"
  sourcePath_portable := ⟨"TASKS", normalizeSourcePath_name (by simp) (by simp) (by simp)
    (by decide) (by decide) (by decide)⟩

def rowReader (column : Json) : MetaReader :=
  printedReader noFloats [rowSnapshot, rowManifest column, rowRecord column] fun reference =>
    if reference = "bundles/a" then
      .ok { packet :=
        { packetId := "packet:a"
          repositoryId := "repository:a"
          revision := "1"
          snapshotHash := "sha256:snapshot"
          producer := ⟨"producer", "1"⟩
          profile := ⟨"repo-model", "1.0.0", "sha256:profile"⟩
          schemaHash := "sha256:schema"
          semanticHash := "sha256:a"
          payload := some { artifacts := [rowArtifact] } } }
    else .error (.packetLoad "no such bundle")

theorem rowReader_python (column : Json) : (rowReader column).python =
    printedPython noFloats [rowSnapshot, rowManifest column, rowRecord column] := rfl

theorem rowReader_loads (column : Json) {value : Json}
    (hvalue : value ∈ [rowSnapshot, rowManifest column, rowRecord column]) :
    (rowReader column).python.loads (value.stringify noFloats) = .ok value := by
  have hsnapshot : (rowSnapshot.stringifyChars noFloats).take 4 = ['{', '"', 'c', 'o'] := rfl
  have hmanifest : ((rowManifest column).stringifyChars noFloats).take 4 = ['{', '"', 's', 'c'] :=
    rfl
  have hrecord : ((rowRecord column).stringifyChars noFloats).take 4 = ['{', '"', 's', 'i'] := rfl
  have hstarts : ([rowSnapshot, rowManifest column, rowRecord column].map
      fun value => (value.stringifyChars noFloats).take 4).Nodup := by
    rw [List.map_cons, List.map_cons, List.map_singleton, hsnapshot, hmanifest, hrecord]
    decide
  rw [rowReader_python]
  exact printedPython_loads hstarts hvalue

/-- The payload of one row is accepted. -/
theorem load_row {column : Json}
    (hplain : ∀ ch ∈ rawBoundaries, ¬ (rowRecord column).Mentions ch) :
    loadWorkSignalPayload (rowReader column).python (rowGeneration column) textCodec =
      .ok ⟨[rowRecord column], rowManifest column⟩ := by
  have hrecords : Signals [rowRecord column] :=
    ⟨fun record hrecord => ⟨"signal:1", by decide, by rw [List.mem_singleton.1 hrecord]; rfl⟩,
      by simp⟩
  have hloads : ∀ record ∈ [rowRecord column],
      (rowReader column).python.loads (record.stringify noFloats) = .ok record := by
    intro record hrecord
    exact rowReader_loads column (by simp [List.mem_singleton.1 hrecord])
  have hholds : Holds (rowReader column).python noFloats (rowGeneration column)
      (rowManifest column) [rowRecord column] :=
    ⟨⟨(rowManifest column).stringify noFloats, readManifestText_stringify rfl,
      rowReader_loads column (by simp)⟩, rfl⟩
  have hdescribes : Describes textCodec (rowManifest column)
      (writtenPayload noFloats [rowRecord column]).toUTF8 [rowRecord column] :=
    { schema := rfl
      payload_file := rfl
      byte_length := rfl
      artifact_hash := rfl
      record_count := rfl
      semantic_hash := rfl
      document_count := fun _ h => nomatch h
      by_format := fun _ h => nomatch h
      by_predicate := fun _ h => nomatch h }
  have hframed : Framed (rowManifest column) [rowRecord column] := by
    refine ⟨?_, fun _ h => nomatch h⟩
    intro record hrecord
    rw [List.mem_singleton.1 hrecord]
    exact hplain
  exact load_of_framed hrecords hloads hholds hdescribes hframed

/-- The generation of one row is adapted, whatever its column is. -/
theorem exists_rowReport {column : Json}
    (hplain : ∀ ch ∈ rawBoundaries, ¬ (rowRecord column).Mentions ch) :
    ∃ report, adaptMetaGeneration (rowReader column) (rowGeneration column) = .ok report ∧
      report.adaptationMode = .currentComplete := by
  have hholds : HoldsDocuments (rowReader column).python noFloats (rowGeneration column)
      [(snapshotFile, rowSnapshot)] := by
    refine writtenGeneration_holds ?_ (by decide) ?_
    · intro name value hlookup
      have hmem := mem_of_lookup hlookup
      rw [List.mem_singleton, Prod.mk.injEq] at hmem
      exact rowReader_loads column (by simp [hmem.2])
    · change ∀ name ∈ [documentWorkSignalsFile, documentWorkSignalsManifestFile], _
      decide
  have hload : loadCurrentPayload (rowReader column) (rowGeneration column) =
      .ok (some ⟨[rowRecord column], rowManifest column⟩) := by
    have hmode : detectAdaptationMode (rowGeneration column) = .currentComplete := rfl
    unfold loadCurrentPayload
    rw [hmode]
    dsimp only
    rw [show (rowReader column).codec = textCodec from rfl, load_row hplain]
    rfl
  unfold adaptMetaGeneration
  rw [readGeneration_written hholds, hload]
  exact ⟨_, rfl, rfl⟩

/-- The column is named by its text. -/
theorem conserves_signals_named_column :
    ∃ report, adaptMetaGeneration (rowReader (.str "status")) (rowGeneration (.str "status")) =
        .ok report ∧
      (ConservesSignals ⟨[rowRecord (.str "status")], rowManifest (.str "status")⟩ report ↔
        ∀ record ∈ [rowRecord (.str "status")], TextualCoordinate record) := by
  have hplain : ∀ ch ∈ rawBoundaries, ¬ (rowRecord (.str "status")).Mentions ch := by
    simp [rawBoundaries, rowRecord, Json.Mentions, Json.MentionsFields]
  obtain ⟨report, hreport, hmode⟩ := exists_rowReport hplain
  exact ⟨report, hreport, conserves_signals_iff hreport hmode (load_row hplain)⟩

/-- The column is named by its number, which the signal loses. -/
theorem column_number_lost :
    ¬ ∀ (reader : MetaReader) (generation : Generation) (report : MetaAdaptationReport)
      (payload : WorkSignalPayload), adaptMetaGeneration reader generation = .ok report →
      report.adaptationMode = .currentComplete →
      loadWorkSignalPayload reader.python generation reader.codec = .ok payload →
      ConservesSignals payload report := by
  intro hclaim
  have hplain : ∀ ch ∈ rawBoundaries, ¬ (rowRecord (.int 3)).Mentions ch := by
    simp [rawBoundaries, rowRecord, Json.Mentions, Json.MentionsFields]
  obtain ⟨report, hreport, hmode⟩ := exists_rowReport hplain
  have hconserves := hclaim _ _ report _ hreport hmode (load_row hplain)
  have htextual := textualCoordinate_of_conserves hreport hmode (load_row hplain) hconserves
    (List.mem_singleton_self _)
  rcases htextual.column _ rfl rfl (.int 3) rfl with hnull | ⟨text, htext⟩
  · cases hnull
  · cases htext

end ConstellationTopology
