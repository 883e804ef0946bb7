import ConstellationTopology.Packets.CorpusIntelligence
import ConstellationTopology.Stages.ReconcileAssertions
import ConstellationTopology.Stages.ReconcileEvidence

set_option autoImplicit false

/-! # Evidence for producer statements

`packets/assertion_evidence.py` and `packets/document_signal_evidence.py`: the statements two kinds
of packet carry, the evidence record each gets at the packet boundary, and what reconciliation reads
of it. Building a record fails where the source path is not portable. -/

namespace ConstellationTopology

/-- `ASSERTION_EVIDENCE_CREATED_AT`. -/
def assertionEvidenceCreatedAt : Timestamp := ⟨"1970-01-01T00:00:00Z"⟩

/-- The confidence of the evidence of one statement: an exact span of hashed bytes. -/
def statementConfidence (confidence authority : String) (evidenceClass : StatementClass) :
    ConfidenceAssessment where
  level := namedLevel confidence
  evidenceStrength := .direct
  derivationMethod := namedDerivation evidenceClass.evidenceClass.value
  authority := namedAuthority authority
  completeness := .sufficient
  conflictStatus := .none

/-! ## Repository-model assertions -/

/-- `assertion_evidence_value`. -/
def assertionEvidenceValue (assertion : RepositoryModelAssertion) : Json :=
  .obj [("assertion_id", .str assertion.assertionId),
    ("predicate", .str assertion.predicate),
    ("object", .str assertion.object),
    ("evidence_excerpt", .str assertion.evidenceExcerpt),
    ("extractor_id", .str assertion.extractorId),
    ("source_range", .obj [("start_line", .int assertion.startLine),
      ("end_line", .int assertion.endLine)]),
    ("declared_authority", .str assertion.authority),
    ("declared_confidence", .str assertion.confidence)]

/-- The `EvidenceSourceRef` of an assertion. -/
def assertionSourceRef (assertion : RepositoryModelAssertion) (packet : RepositoryModelPacket) :
    Except String EvidenceSourceRef :=
  match h : normalizeSourcePath assertion.sourcePath with
  | .error message => .error message
  | .ok path => .ok
      { sourcePath := some path
        lineNumber := some assertion.startLine
        contentHash := some assertion.sourceContentHash
        packetId := some packet.packetId
        sourceRevision := some packet.revision
        sourcePath_portable := fun _ hpath => ⟨_, Option.mem_some_iff.1 hpath ▸ h⟩
        lineNumber_positive := fun _ hn => Option.mem_some_iff.1 hn ▸ assertion.startLine_positive
        locator_valid := noLocator_valid
        lineNumber_agrees := by simp }

/-- `assertion_evidence_record`. -/
def assertionEvidenceRecord (c : Codec) (packet : RepositoryModelPacket)
    (assertion : RepositoryModelAssertion) : Except String EvidenceRecord := do
  let sourceRef ← assertionSourceRef assertion packet
  pure (makeEvidenceRecord c assertion.subjectId (some assertion.predicate) assertionEvidenceStage
    assertion.evidenceClass.evidenceClass .file sourceRef (assertionEvidenceValue assertion)
    (statementConfidence assertion.confidence assertion.authority assertion.evidenceClass)
    packet.producer.name packet.producer.version assertionEvidenceCreatedAt)

/-- `assertion_evidence_records`. -/
def assertionEvidenceRecords (c : Codec) (packet : RepositoryModelPacket) :
    Except String (List EvidenceRecord) :=
  match packet.payload with
  | none => pure []
  | some payload => payload.statements.mapM (assertionEvidenceRecord c packet)

/-- `assertion_semantic_input`. -/
def assertionSemanticInput (assertion : RepositoryModelAssertion) : SemanticInput where
  inputId := assertion.assertionId
  subjectId := assertion.subjectId
  predicate := assertion.predicate
  object := assertion.object
  authority := assertion.authority
  confidence := assertion.confidence
  evidenceClass := assertion.evidenceClass.evidenceClass.value

/-! ## Document work signals -/

/-- `locator.model_dump(mode="json")`: a field that is `None` stays. -/
def SourceLocator.dump (locator : SourceLocator) : Json :=
  .obj (("kind", .str locator.kind) ::
    match locator with
    | line startLine endLine => [("start_line", natJson startLine), ("end_line", natJson endLine)]
    | pdf pageNumber blockIndex =>
        [("page_number", natJson pageNumber), ("block_index", natJson blockIndex)]
    | docx blockIndex blockKind part =>
        [("block_index", natJson blockIndex), ("block_kind", .str blockKind), ("part", .str part)]
    | pptx slideNumber shapeIndex part =>
        [("slide_number", natJson slideNumber), ("shape_index", natJson shapeIndex),
          ("part", .str part)]
    | spreadsheet sheet cellOrRange =>
        [("sheet", .str sheet), ("cell_or_range", .str cellOrRange)]
    | notebook cellIndex cellType startLine endLine =>
        [("cell_index", natJson cellIndex), ("cell_type", .str cellType),
          ("start_line", (startLine.map natJson).getD .null),
          ("end_line", (endLine.map natJson).getD .null)]
    | csv row column => [("row", natJson row), ("column", (column.map .str).getD .null)]
    | html stableNodeIndex nodePath =>
        [("stable_node_index", natJson stableNodeIndex), ("node_path", .str nodePath)])

/-- The line a locator starts at, if its format has lines. -/
def SourceLocator.startLine? : SourceLocator → Option ℕ
  | line startLine _ => some startLine
  | _ => none

theorem SourceLocator.startLine?_eq_some {locator : SourceLocator} {n : ℕ}
    (h : locator.startLine? = some n) : ∃ endLine, locator = .line n endLine := by
  cases locator with
  | line startLine endLine => exact ⟨endLine, by rw [← Option.some.inj h]⟩
  | _ => cases h

/-- `signal_evidence_value`. -/
def signalEvidenceValue (signal : DocumentWorkSignal) : Json :=
  .obj [("assertion_id", .str signal.signalId),
    ("predicate", .str signal.predicate),
    ("object", .str signal.object),
    ("evidence_excerpt", .str signal.evidenceExcerpt),
    ("extractor_id", .str signal.extractorId),
    ("decoder_id", .str signal.decoderId),
    ("decoder_version", .str signal.decoderVersion),
    ("document_format", .str signal.documentFormat),
    ("artifact_id", .str signal.artifactId),
    ("locator", signal.locator.dump),
    ("declared_authority", .str signal.authority),
    ("declared_confidence", .str signal.confidence)]

/-- `signal_source_ref`: a line number only beside a line locator. -/
def signalSourceRef (signal : DocumentWorkSignal) (packet : CorpusIntelligencePacket) :
    Except String EvidenceSourceRef :=
  match h : normalizeSourcePath signal.sourcePath with
  | .error message => .error message
  | .ok path => .ok
      { sourcePath := some path
        lineNumber := signal.locator.startLine?
        contentHash := some signal.sourceContentHash
        packetId := some packet.packetId
        locator := some signal.locator
        sourcePath_portable := fun _ hpath => ⟨_, Option.mem_some_iff.1 hpath ▸ h⟩
        lineNumber_positive := by
          intro n hn
          obtain ⟨endLine, hline⟩ := SourceLocator.startLine?_eq_some hn
          have hvalid := signal.locator_valid
          rw [hline] at hvalid
          exact hvalid.1
        locator_valid := fun _ hl => Option.mem_some_iff.1 hl ▸ signal.locator_valid
        lineNumber_agrees := by
          intro l hl n hn
          obtain rfl := Option.mem_some_iff.1 hl
          exact SourceLocator.startLine?_eq_some hn }

/-- `signal_evidence_record`. -/
def signalEvidenceRecord (c : Codec) (packet : CorpusIntelligencePacket)
    (signal : DocumentWorkSignal) : Except String EvidenceRecord := do
  let sourceRef ← signalSourceRef signal packet
  pure (makeEvidenceRecord c signal.subjectId (some signal.predicate) documentSignalEvidenceStage
    signal.evidenceClass.evidenceClass .file sourceRef (signalEvidenceValue signal)
    (statementConfidence signal.confidence signal.authority signal.evidenceClass)
    packet.producer.name packet.producer.version assertionEvidenceCreatedAt)

/-- `signal_evidence_records`. -/
def signalEvidenceRecords (c : Codec) (packet : CorpusIntelligencePacket) :
    Except String (List EvidenceRecord) :=
  match packet.payload with
  | none => pure []
  | some payload => payload.documentWorkSignals.mapM (signalEvidenceRecord c packet)

/-- `signal_semantic_input`. -/
def signalSemanticInput (signal : DocumentWorkSignal) : SemanticInput where
  inputId := signal.signalId
  subjectId := signal.subjectId
  predicate := signal.predicate
  object := signal.object
  authority := signal.authority
  confidence := signal.confidence
  evidenceClass := signal.evidenceClass.evidenceClass.value
  origin := "corpus-document-signal"

/-- `signal_semantic_inputs`. -/
def signalSemanticInputs (packet : CorpusIntelligencePacket) : List SemanticInput :=
  (packet.payload.map CorpusIntelligencePayload.documentWorkSignals).getD []
    |>.map signalSemanticInput

/-! ## The compiler's inputs -/

/-- The evidence `RepositoryModelV1Adapter.adapt` hands on: the packet's own, and that built for its
    assertions. -/
def adaptedEvidence (c : Codec) (packet : RepositoryModelPacket) :
    Except String (List EvidenceRecord) := do
  let records ← assertionEvidenceRecords c packet
  pure ((packet.payload.map RepositoryModelPayload.evidence).getD [] ++ records)

/-- The assertions the adapter hands on. -/
def adaptedAssertions (packet : RepositoryModelPacket) : List RepositoryModelAssertion :=
  (packet.payload.map RepositoryModelPayload.statements).getD []

/-- `statements` of `compile_topology`: one reconciliation over both producers. -/
def compiledInputs (packets : List RepositoryModelPacket)
    (corpusPackets : List CorpusIntelligencePacket) : List SemanticInput :=
  (packets.flatMap adaptedAssertions).map assertionSemanticInput
    ++ corpusPackets.flatMap signalSemanticInputs

end ConstellationTopology
