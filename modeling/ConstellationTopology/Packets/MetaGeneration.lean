import ConstellationTopology.Packets.GenerationFiles

set_option autoImplicit false

/-! # Adapting a generation

`packets/adapters/meta_generation.py`: a generation that the producer published, read as a Corpus
Intelligence Packet. A generation with a work-signal payload has every record of it adapted; one
from before the payload has its signals reconstructed from the assertions of its roots.

The payload domains beside the work signals and the identity of a finished packet are parameters;
of the packet itself the profile, the inputs and the hashes are left out. -/

namespace ConstellationTopology

/-! ## Current mode -/

/-- The artifacts of the bundles. -/
def inputArtifacts (bundles : List RootBundle) : List ArtifactRecord :=
  bundles.flatMap RootBundle.artifacts

/-- One turn of the loop of `_artifact_index`: the index, and the ids met again. -/
def indexArtifact (state : List (String × String × String) × List String)
    (record : ArtifactRecord) : List (String × String × String) × List String :=
  if (state.1.lookup record.artifactId).isSome then (state.1, record.artifactId :: state.2)
  else (state.1 ++ [(record.artifactId, record.contentHash, record.sourcePath)], state.2)

/-- `_artifact_index`: the content hash and the path of each id that occurs once. -/
def artifactIndex (bundles : List RootBundle) : List (String × String × String) :=
  let (index, duplicated) := (inputArtifacts bundles).foldl indexArtifact ([], [])
  index.filter fun row => row.1 ∉ duplicated

/-- A work signal with the fields that only an adapted record fills. -/
structure AdaptedSignal extends DocumentWorkSignal where
  corpusArtifactId : String := ""
  normalizedDocumentId : Option String := none
  blockId : String := ""
  blockKind : String := ""
  extractorProfileVersion : String := ""

/-- The validation of a signal. -/
def validateSignal (signal : DocumentWorkSignal) : Except PayloadError Unit :=
  requireTexts "DocumentWorkSignal"
    [("signal_id", signal.signalId), ("artifact_id", signal.artifactId),
      ("subject_id", signal.subjectId), ("predicate", signal.predicate),
      ("source_path", signal.sourcePath), ("source_content_hash", signal.sourceContentHash),
      ("document_format", signal.documentFormat), ("extractor_id", signal.extractorId),
      ("decoder_id", signal.decoderId), ("decoder_version", signal.decoderVersion),
      ("authority", signal.authority), ("confidence", signal.confidence)]

section Adapting

variable (python : PythonReader)

/-- `_resolve_record_artifact`: the id, the content hash and the path. -/
def resolveRecordArtifact (record : Json) (index : List (String × String × String))
    (context : String) : Except PayloadError (String × String × String) := do
  let rmpArtifactId ← expect (nonemptyText record "rmp_artifact_id")
    (.generation (context ++ ": carries no rmp_artifact_id"))
  let (contentHash, portablePath) ← expect (index.lookup rmpArtifactId)
    (.generation (context ++ ": names artifact " ++ python.repr (.str rmpArtifactId)
      ++ ", which no input Repository Model Packet carries unambiguously"))
  let declaredHash := (record.get? "raw_content_hash").getD .null
  require (declaredHash.isNull = true ∨ declaredHash.isText contentHash = true)
    (.generation (context ++ ": cites content hash " ++ python.repr declaredHash
      ++ " and the artifact carries " ++ python.repr (.str contentHash)
      ++ "; the claim is bound to bytes the corpus did not observe"))
  let sourcePath ← expect (nonemptyText record "source_path")
    (.generation (context ++ ": carries no source_path"))
  require (sourcePath = portablePath) (.generation (context ++ ": cites path "
    ++ python.repr (.str sourcePath) ++ " and the artifact is at "
    ++ python.repr (.str portablePath)))
  return (rmpArtifactId, contentHash, sourcePath)

/-- `_record_format`. -/
def recordFormat (record : Json) (formats : Table (Prod.fst : String × String → String))
    (context : String) : Except PayloadError String := do
  let documentFormat ← expect (nonemptyText record "format")
    (.generation (context ++ ": carries no format"))
  match formats.lookup (textOr python record "artifact_id" "") with
  | none => return documentFormat
  | some (_, indexed) =>
      require (indexed = documentFormat) (.generation (context ++ ": declares format "
        ++ python.repr (.str documentFormat) ++ " and the document index records "
        ++ python.repr (.str indexed)))
      return documentFormat

/-- `_evidence_class`. -/
def evidenceClass (record : Json) (context : String) : Except PayloadError StatementClass :=
  let value := (record.get? "evidence_class").getD .null
  if value.isText "declared" then .ok .declared
  else if value.isText "observed" then .ok .observed
  else .error (.generation (context ++ ": evidence_class is " ++ python.repr value
    ++ ", not 'declared' or 'observed'"))

/-- `_adapt_record`. -/
def adaptRecord (index : List (String × String × String))
    (formats : Table (Prod.fst : String × String → String)) (decodings : List String)
    (record : Json) : Except PayloadError AdaptedSignal := do
  let signalId := pythonText python ((record.get? "signal_id").getD .null)
  let context := "work signal " ++ signalId
  let normalizedDocumentId := nonemptyText record "normalized_document_id"
  require (∀ decoding ∈ normalizedDocumentId, decoding ∈ decodings)
    (.generation (context ++ ": cites decoding "
      ++ python.repr (.str (normalizedDocumentId.getD "")) ++ ", which the document index does not "
      ++ "record"))
  let (rmpArtifactId, contentHash, sourcePath) ←
    resolveRecordArtifact python record index context
  let documentFormat ← recordFormat python record formats context
  let blockKind := (record.fieldText? "block_kind").getD ""
  let located ← translateLocator python ((record.get? "structured_locator").getD .null)
    documentFormat blockKind context
  let predicate ← requireText record "predicate" context
  let extractorId ← requireText record "extractor_id" context
  let decoderId ← requireText record "decoder_id" context
  let decoderVersion ← requireText record "decoder_version" context
  let evidence ← evidenceClass python record context
  let authority ← requireText record "authority" context
  let confidence ← requireText record "confidence" context
  let signal : AdaptedSignal :=
    { signalId
      artifactId := rmpArtifactId
      -- the producer's signal is about its artifact
      subjectId := rmpArtifactId
      predicate
      object := textOr python record "object" ""
      sourcePath
      locator := located.1
      sourceContentHash := contentHash
      documentFormat
      evidenceExcerpt := textOr python record "bounded_excerpt" ""
      extractorId
      decoderId
      decoderVersion
      evidenceClass := evidence
      authority
      confidence
      locator_valid := located.2
      corpusArtifactId := textOr python record "artifact_id" ""
      normalizedDocumentId
      blockId := textOr python record "block_id" ""
      blockKind
      extractorProfileVersion := textOr python record "extractor_profile_version" "" }
  validateSignal signal.toDocumentWorkSignal
  return signal

/-- `_current_work_signals`. -/
def currentWorkSignals (payload : WorkSignalPayload) (bundles : List RootBundle)
    (files : GenerationFiles) : Except PayloadError (List AdaptedSignal) := do
  let entries ← documentEntries files
  let signals ← payload.records.mapM (adaptRecord python (artifactIndex bundles)
    (documentFormats entries) (normalizedDocumentIds entries))
  return sortedBy (fun signal => signal.signalId) signals

end Adapting

/-! ## Legacy mode -/

/-- `WORK_PREDICATES`. -/
def workPredicates : List String :=
  ["document.heading", "document.title", "work.blocked_by", "work.depends_on", "work.kind",
    "work.milestone", "work.references", "work.status", "work.superseded_by", "work.supersedes",
    "work.task.completed", "work.task.open"]

/-- A work signal that the packet cannot hold. -/
structure UnadaptableSignal where
  assertionId : String
  artifactId : String
  predicate : String
  documentFormat : String
  reason : String

/-- `UNADAPTABLE_NO_STRUCTURED_LOCATOR`. -/
def unadaptableNoStructuredLocator : String :=
  "the generation records this signal only as a line span into the producer's joined block text, "
    ++ "which is not a coordinate in the source document; adapting it would require inventing a "
    ++ "structured locator"

/-- `_line_signal`. -/
def lineSignal (assertion : RepositoryModelAssertion) (artifactId documentFormat : String) :
    AdaptedSignal where
  signalId := assertion.assertionId
  artifactId := artifactId
  subjectId := assertion.subjectId
  predicate := assertion.predicate
  object := assertion.object
  sourcePath := assertion.sourcePath
  locator := .line assertion.startLine assertion.endLine
  sourceContentHash := assertion.sourceContentHash
  documentFormat := documentFormat
  evidenceExcerpt := assertion.evidenceExcerpt
  extractorId := assertion.extractorId
  -- the format itself, where the decoder is not recorded
  decoderId := documentFormat
  decoderVersion := "unknown"
  evidenceClass := assertion.evidenceClass
  authority := assertion.authority
  confidence := assertion.confidence
  locator_valid := ⟨assertion.startLine_positive, assertion.endLine_positive⟩

/-- What becomes of an assertion in legacy mode. -/
inductive LegacyOutcome
  | skipped
  | unadaptable (signal : UnadaptableSignal)
  | adapted (signal : AdaptedSignal)

/-- The signal, if the row gave one. -/
def LegacyOutcome.signal? : LegacyOutcome → Option AdaptedSignal
  | adapted signal => some signal
  | _ => none

/-- The record that could not be adapted, if the row gave one. -/
def LegacyOutcome.unadaptable? : LegacyOutcome → Option UnadaptableSignal
  | unadaptable signal => some signal
  | _ => none

/-- `formats.get(artifact_id, "text")`. -/
def formatOrText (entries : List Json) (artifactId : String) : String :=
  (((documentFormats entries).lookup artifactId).map Prod.snd).getD "text"

/-- One turn of the loop of `_work_signals`. -/
def adaptAssertion (entries : List Json) (assertion : RepositoryModelAssertion) :
    Except PayloadError LegacyOutcome :=
  if assertion.predicate ∉ workPredicates then .ok .skipped
  else match (artifactByPath entries).lookup assertion.sourcePath with
    -- the assertion came from a file that no decoder opened
    | none => .ok .skipped
    | some (artifactId, _) =>
        let documentFormat := formatOrText entries artifactId
        if documentFormat ∉ lineBearingFormats then
          .ok (.unadaptable
            { assertionId := assertion.assertionId
              artifactId
              predicate := assertion.predicate
              documentFormat
              reason := unadaptableNoStructuredLocator })
        else do
          let signal := lineSignal assertion artifactId documentFormat
          validateSignal signal.toDocumentWorkSignal
          return .adapted signal

/-- `_work_signals`. -/
def workSignals (files : GenerationFiles) (bundles : List RootBundle) :
    Except PayloadError (List AdaptedSignal × List UnadaptableSignal) := do
  let entries ← documentEntries files
  let outcomes ← (bundles.flatMap RootBundle.statements).mapM (adaptAssertion entries)
  return (sortedBy (fun signal => signal.signalId) (outcomes.filterMap LegacyOutcome.signal?),
    sortedBy UnadaptableSignal.assertionId (outcomes.filterMap LegacyOutcome.unadaptable?))

/-! ## The adaptation -/

/-- What the adaptation produced and what it declined. -/
structure MetaAdaptationReport where
  packet : CorpusIntelligencePacket
  generationRoot : String
  rootBundles : List RootBundle
  adaptedSignalCount : ℕ
  unadaptableSignals : List UnadaptableSignal
  adaptationMode : AdaptationMode
  manifestRecordCount : ℤ
  parsedSignalCount : ℕ
  producerRevision : String
  sampledReportListedCount : Option ℤ
  adaptedByFormat : List (String × ℕ)
  adaptedByPredicate : List (String × ℕ)
  rootIdentityClassCounts : List (String × ℕ)
  missingFiles : List String
  diagnostics : List String

/-- The document work signals of the packet. -/
def MetaAdaptationReport.signals (report : MetaAdaptationReport) : List DocumentWorkSignal :=
  (report.packet.payload.map CorpusIntelligencePayload.documentWorkSignals).getD []

/-- The roots of the corpus, each beside the bundle that it produced. -/
def MetaAdaptationReport.roots (report : MetaAdaptationReport) :
    List (CorpusRootRef × RootBundle) :=
  report.packet.corpus.rootRefs.zip report.rootBundles

/-- `_tally_signals` and `_tally_identity_classes`. -/
def tallyBy {α : Type} (field : α → String) (xs : List α) : List (String × ℕ) :=
  (sortedSet (xs.map field)).map fun value => (value, (xs.map field).count value)

/-- `_sampled_report_listed_count`. -/
def sampledReportListedCount (files : GenerationFiles) : Option ℤ :=
  match ((files.get documentSignalsFile).get? "block_signals").bind (Json.get? "by_format") with
  | some (.arr entries) =>
      some (entries.filterMap fun entry =>
        (entry.get? "listed_signal_count").bind Json.wholeNumber?).sum
  | _ => none

/-- `_diagnostics`. -/
def adaptationDiagnostics (mode : AdaptationMode) (unadaptable : List UnadaptableSignal)
    (droppedReasoning : List String) : List String :=
  (if droppedReasoning = [] then [] else
    ["dropped reasoning candidates naming a candidate this generation did not write: "
      ++ ", ".intercalate droppedReasoning])
  ++ (if unadaptable.isEmpty then [] else
    [toString unadaptable.length ++ " work signal(s) were not adapted because this generation "
      ++ "records them only as line spans into joined block text"])
  ++ (if mode = .currentComplete then [] else
    ["read in legacy mode: this generation predates the complete work-signal payload, so "
      ++ "binary-document signals are reported rather than adapted. It does not qualify the "
      ++ "current producer contract."])

section Adaptation

variable (reader : MetaReader) (generation : Generation)

/-- The signals of `_build_payload`, and those that could not be carried. -/
def buildSignals (files : GenerationFiles) (bundles : List RootBundle) :
    Option WorkSignalPayload → Except PayloadError (List AdaptedSignal × List UnadaptableSignal)
  | some payload => do
      let signals ← currentWorkSignals reader.python payload bundles files
      return (signals, [])
  | none => workSignals files bundles

/-- The payload, in current mode. -/
def loadCurrentPayload : Except PayloadError (Option WorkSignalPayload) :=
  match detectAdaptationMode generation with
  | .currentComplete => (loadWorkSignalPayload reader.python generation reader.codec).map some
  | .legacyLineAssertions => .ok none

/-- `adapt_meta_generation`. -/
def adaptMetaGeneration : Except PayloadError MetaAdaptationReport := do
  let files ← readGeneration reader.python generation
  let mode := detectAdaptationMode generation
  let workSignalPayload ← loadCurrentPayload reader generation
  let roots ← loadRootBundles reader generation mode files
  let snapshot ← requireDocument generation files snapshotFile
  let analysis := (← snapshot.getItem "analysis").orElse (.obj [])
  let identities ← corpusToRmpIds generation files roots
  let (signals, unadaptable) ←
    buildSignals reader files (roots.map Prod.snd) workSignalPayload
  let (domains, droppedReasoning) ← reader.domains files identities
  let payload := { domains with
    documentWorkSignals := signals.map AdaptedSignal.toDocumentWorkSignal }
  analysis.asMapping
  let corpus ← corpusDescriptor reader generation files snapshot analysis (roots.map Prod.fst)
  let packet : CorpusIntelligencePacket :=
    { packetId := "packet:pending"
      producer := { name := "l9-constellation-topology/meta-generation-adapter"
                    version := "1.1.0" }
      corpus
      payload := some payload
      domains_nodup := by simp }
  let sampled := sampledReportListedCount files
  require (mode = .currentComplete → ∀ listed ∈ sampled, listed ≤ signals.length)
    (.generation ("the sampled report lists " ++ toString (sampled.getD 0)
      ++ " signal(s) and the complete payload carries " ++ toString signals.length
      ++ "; the report cannot exceed the payload it samples"))
  return {
    packet := { packet with packetId := reader.packetId packet }
    generationRoot := generation.root
    rootBundles := roots.map Prod.snd
    adaptedSignalCount := signals.length
    unadaptableSignals := unadaptable
    adaptationMode := mode
    manifestRecordCount := (workSignalPayload.bind fun read =>
      (read.manifest.get? "record_count").bind Json.wholeNumber?).getD 0
    parsedSignalCount := (workSignalPayload.map fun read => read.records.length).getD 0
    producerRevision := textOr reader.python analysis "corpus_analysis_id" ""
    sampledReportListedCount := sampled
    adaptedByFormat := tallyBy (fun signal => signal.documentFormat) signals
    adaptedByPredicate := tallyBy (fun signal => signal.predicate) signals
    rootIdentityClassCounts := tallyBy (fun root => root.1.identityClass.value) roots
    missingFiles := sortedBy id files.missing
    diagnostics := adaptationDiagnostics mode unadaptable droppedReasoning }

end Adaptation

/-! ## What an adaptation did -/

/-- The steps of an adaptation that succeeded. -/
structure Adapted (reader : MetaReader) (generation : Generation) (report : MetaAdaptationReport)
    (files : GenerationFiles) (payload : Option WorkSignalPayload) (signals : List AdaptedSignal) :
    Prop where
  files_read : readGeneration reader.python generation = .ok files
  payload_read : loadCurrentPayload reader generation = .ok payload
  roots_read : loadRootBundles reader generation (detectAdaptationMode generation) files =
    .ok report.roots
  bundles : report.rootBundles = report.roots.map Prod.snd
  signals_built : buildSignals reader files report.rootBundles payload =
    .ok (signals, report.unadaptableSignals)
  signals_carried : report.signals = signals.map AdaptedSignal.toDocumentWorkSignal
  mode : report.adaptationMode = detectAdaptationMode generation

variable {reader : MetaReader} {generation : Generation} {report : MetaAdaptationReport}

theorem rootRefs_of_corpusDescriptor {files : GenerationFiles} {snapshot analysis : Json}
    {rootRefs : List CorpusRootRef} {corpus : CorpusDescriptor}
    (h : corpusDescriptor reader generation files snapshot analysis rootRefs = .ok corpus) :
    corpus.rootRefs = rootRefs := by
  obtain ⟨snapshotId, -, h⟩ := bind_eq_ok.1 h
  obtain ⟨coverage, -, h⟩ := bind_eq_ok.1 h
  obtain ⟨_, -, h⟩ := bind_eq_ok.1 h
  split at h
  · cases h
    rfl
  · cases h

/-- What is reported was computed step by step. -/
theorem adapted_of_adaptMetaGeneration (h : adaptMetaGeneration reader generation = .ok report) :
    ∃ files payload signals, Adapted reader generation report files payload signals := by
  obtain ⟨files, hfiles, h⟩ := bind_eq_ok.1 h
  obtain ⟨payload, hpayload, h⟩ := bind_eq_ok.1 h
  obtain ⟨roots, hroots, h⟩ := bind_eq_ok.1 h
  obtain ⟨snapshot, -, h⟩ := bind_eq_ok.1 h
  obtain ⟨analysis, -, h⟩ := bind_eq_ok.1 h
  obtain ⟨identities, -, h⟩ := bind_eq_ok.1 h
  obtain ⟨⟨signals, unadaptable⟩, hsignals, h⟩ := bind_eq_ok.1 h
  obtain ⟨⟨domains, dropped⟩, -, h⟩ := bind_eq_ok.1 h
  obtain ⟨_, -, h⟩ := bind_eq_ok.1 h
  obtain ⟨corpus, hcorpus, h⟩ := bind_eq_ok.1 h
  obtain ⟨_, -, h⟩ := bind_eq_ok.1 h
  cases h
  have hzip : corpus.rootRefs.zip (roots.map Prod.snd) = roots := by
    rw [rootRefs_of_corpusDescriptor hcorpus, List.zip_map', List.map_id']
  exact ⟨files, payload, signals,
    { files_read := hfiles
      payload_read := hpayload
      roots_read := hroots.trans (congrArg Except.ok hzip.symm)
      bundles := congrArg (List.map Prod.snd) hzip.symm
      signals_built := hsignals
      signals_carried := rfl
      mode := rfl }⟩

end ConstellationTopology
