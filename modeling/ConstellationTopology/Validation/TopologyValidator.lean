import ConstellationTopology.Packets.CorpusIntelligence
import ConstellationTopology.Packets.Payloads
import ConstellationTopology.Packets.ValidationReceipt
import ConstellationTopology.Stages.ReconcileAssertions
import Mathlib.Algebra.GroupWithZero.Nat

set_option autoImplicit false

/-! # Fail-closed validation

`validation/topology_validator.py`: the checks `validate_topology` makes of a compiled packet and its
state. The JSON Schema engine and the checked-in schemas it reads are a parameter: what it reports
for a packet and for a record. -/

namespace ConstellationTopology

/-- A record the schema engine is asked about. -/
inductive SchemaRecord
  | repository (record : RepositoryRecord)
  | artifact (record : ArtifactRecord)
  | capability (record : CapabilityRecord)
  | semanticClaim (record : SemanticClaimRecord)
  | edge (record : EdgeRecord)
  | flow (record : FlowRecord)
  | graph (record : GraphRecord)
  | risk (record : RiskRecord)
  | maturity (record : MaturityAssessment)
  | evidence (record : EvidenceRecord)
  | diagnostic (record : DiagnosticRecord)

/-- `_schema_errors` under the schema root, over the dump of a packet or of a record. -/
structure SchemaEngine where
  packetErrors : TopologyPacket → List String
  recordErrors : SchemaRecord → List String

/-- What the validator reads of an input bundle. -/
structure RepositoryModelBundle where
  packet : RepositoryModelPacket
  receipt : ValidationReceipt

/-- What the validator reads of a corpus bundle. -/
structure CorpusIntelligenceBundle where
  packet : CorpusIntelligencePacket

/-- `_check`. -/
def validationCheck (checkId : String) (checkClass : CheckClass) (rule : String) (passed : Bool)
    (success failure : String) (details : List (String × Json) := []) : ValidationCheck where
  checkId := checkId
  checkClass := checkClass
  rule := rule
  status := if passed then .passed else .failed
  message := if passed then success else failure
  details := details

/-- `", ".join(values)`. -/
def joined (values : List String) : String := String.intercalate ", " values

/-! ## Schema checks -/

/-- `_record_schema_errors`. -/
def recordSchemaErrors (engine : SchemaEngine) (records : List SchemaRecord) : List String :=
  records.zipIdx.flatMap fun entry =>
    (engine.recordErrors entry.1).map fun message =>
      "record[" ++ toString entry.2 ++ "] " ++ message

/-- `record_schemas`. -/
def recordSchemas (state : TopologyState) : List (String × List SchemaRecord) :=
  [("repository-record.schema.json", state.repositoryRecords.map .repository),
    ("artifact-record.schema.json", state.artifactRecords.map .artifact),
    ("capability-record.schema.json", state.capabilityRecords.map .capability),
    ("semantic-claim-record.schema.json", state.semanticClaims.map .semanticClaim),
    ("edge-record.schema.json", state.edgeRecords.map .edge),
    ("flow-record.schema.json", state.flowRecords.map .flow),
    ("graph-record.schema.json", state.graphRecords.map .graph),
    ("risk-record.schema.json", state.risks.map .risk),
    ("maturity-assessment.schema.json", state.maturity.map .maturity),
    ("evidence-record.schema.json", state.evidence.map .evidence),
    ("diagnostic-record.schema.json", state.diagnostics.map .diagnostic)]

/-- `record_errors`: the schemas some record fails. -/
def recordErrors (engine : SchemaEngine) (state : TopologyState) : List (String × List String) :=
  ((recordSchemas state).map fun entry => (entry.1, recordSchemaErrors engine entry.2)).filter
    fun entry => entry.2 ≠ []

/-- The checks of the packet and of its records against their schemas. -/
def schemaChecks (engine : SchemaEngine) (packet : TopologyPacket) (state : TopologyState) :
    List ValidationCheck :=
  [validationCheck "model-topology-packet" .schema "pydantic_model_construction" true
      "Topology Packet was constructed through the runtime Pydantic contract."
      "Topology Packet runtime model construction failed."
      [("validation_layer", .str "model-construction"), ("engine", .str "pydantic")],
    validationCheck "model-topology-state" .schema "pydantic_state_construction" true
      "Topology state collections were constructed through typed runtime models."
      "Topology state runtime model construction failed."
      [("validation_layer", .str "model-construction"), ("engine", .str "pydantic")],
    validationCheck "json-schema-topology-packet" .schema "topology_packet_json_schema"
      (engine.packetErrors packet).isEmpty
      "Topology Packet independently validates against the checked-in JSON Schema."
      "Topology Packet failed independent JSON Schema validation."
      [("validation_layer", .str "json-schema"),
        ("engine", .str "jsonschema.Draft202012Validator"),
        ("errors", Json.strings (engine.packetErrors packet))],
    validationCheck "json-schema-topology-records" .schema "topology_record_json_schemas"
      (recordErrors engine state).isEmpty
      "All canonical topology records independently validate against checked-in schemas."
      "One or more topology records failed independent JSON Schema validation."
      [("validation_layer", .str "json-schema"),
        ("engine", .str "jsonschema.Draft202012Validator"),
        ("errors", .obj ((recordErrors engine state).map fun entry =>
          (entry.1, Json.strings entry.2)))]]

/-! ## Dependency cycles -/

/-- The targets of each node's dependency edges. -/
def dependencyTargets (state : TopologyState) (node : String) : List String :=
  sortedSet ((state.edgeRecords.filter fun edge =>
    edge.edgeType = .dependsOn ∧ edge.sourceId = node).map EdgeRecord.targetId)

/-- The nodes with a dependency edge. -/
def dependencySources (state : TopologyState) : List String :=
  sortedSet ((state.edgeRecords.filter fun edge => edge.edgeType = .dependsOn).map
    EdgeRecord.sourceId)

/-- The smallest rotation of a cycle given without its repeated node. -/
def smallestRotation (nodes : List String) : List String :=
  let rotations := (List.range nodes.length).map fun index =>
    nodes.drop index ++ nodes.take index ++ (nodes[index]?).toList
  rotations.foldl (fun least rotation => if rotation < least then rotation else least)
    (rotations.headD [])

/-- `visit`: the fuel is what the bound on the path leaves. -/
def visitDependencies (state : TopologyState) : ℕ → String → List String → List (List String)
  | fuel, node, path =>
      if node ∈ path then [smallestRotation (path.drop (path.idxOf node))]
      else
        match fuel with
        | 0 => []
        | fuel + 1 => (dependencyTargets state node).flatMap fun target =>
            visitDependencies state fuel target (path ++ [node])

/-- `_dependency_cycles`. -/
def dependencyCycles (state : TopologyState) : List (List String) :=
  sortedSet ((dependencySources state).flatMap fun node =>
    visitDependencies state ((dependencySources state).length + 2) node [])

/-! ## Invariant checks -/

/-- `_duplicates`. -/
def duplicates (values : List String) : List String :=
  sortedSet (values.filter fun value => 1 < values.count value)

/-- Two dictionaries hold the same entries. -/
def sameEntries (left right : List (String × String)) : Bool :=
  (left.map Prod.fst ++ right.map Prod.fst).all fun key => left.lookup key == right.lookup key

/-- `id_sets`, with the category as `str.title` writes it. -/
def idSets (state : TopologyState) : List (String × String × List String) :=
  [("repository", "Repository", state.repositoryRecords.map RepositoryRecord.repositoryId),
    ("artifact", "Artifact", state.artifactRecords.map ArtifactRecord.artifactId),
    ("capability", "Capability", state.capabilityRecords.map CapabilityRecord.capabilityId),
    ("semantic-claim", "Semantic-Claim", state.semanticClaims.map SemanticClaimRecord.claimId),
    ("edge", "Edge", state.edgeRecords.map EdgeRecord.edgeId),
    ("flow", "Flow", state.flowRecords.map FlowRecord.flowId),
    ("graph", "Graph", state.graphRecords.map GraphRecord.entityId),
    ("risk", "Risk", state.risks.map RiskRecord.riskId),
    ("unknown", "Unknown", state.unknowns.map UnknownRecord.unknownId),
    ("conflict", "Conflict", state.conflicts.map ConflictRecord.conflictId)]

/-- The check that the ids of one domain are distinct. -/
def uniqueIdCheck (category title : String) (ids : List String) : ValidationCheck :=
  validationCheck ("invariant-unique-" ++ category ++ "-ids") .invariant "canonical_ids_unique"
    (duplicates ids).isEmpty (title ++ " identities are unique.")
    ("Duplicate " ++ category ++ " identities: " ++ joined (duplicates ids) ++ ".")
    [("duplicates", Json.strings (duplicates ids))]

/-- `node_ids`. -/
def nodeIds (state : TopologyState) : List String :=
  (state.graphRecords.filter fun record => record.recordType = .node).map GraphRecord.entityId

/-- `unresolved_endpoints`. -/
def unresolvedEndpoints (state : TopologyState) : List String :=
  sortedSet ((state.edgeRecords.flatMap fun edge => [edge.sourceId, edge.targetId]).filter
    fun endpoint => endpoint ∉ nodeIds state)

/-- `revisions_missing`. -/
def revisionsMissing (state : TopologyState) : List String :=
  sortedBy id ((state.repositoryRecords.filter fun record => record.sourceRevision = "").map
    RepositoryRecord.repositoryId)

/-- `invalid_paths`. -/
def invalidPaths (state : TopologyState) : List String :=
  sortedBy id ((state.artifactRecords.map ArtifactRecord.sourcePath).filter fun path =>
    path.toList.head? = some '/' ∨ path = ".." ∨ "../".toList <+: path.toList)

/-- `blocking_conflicts`: a resolution that is empty resolves nothing. -/
def blockingConflicts (state : TopologyState) : List String :=
  sortedBy id ((state.conflicts.filter fun record =>
    record.blocking ∧ record.resolution.getD "" = "").map ConflictRecord.conflictId)

/-- `expected_packet_id`. -/
def expectedPacketId (packet : TopologyPacket) : String :=
  "packet:" ++ removeMarker "sha256:" packet.semanticHash

/-- The checks of identities, endpoints and paths. -/
def invariantChecks (c : Codec) (packet : TopologyPacket) (state : TopologyState) :
    List ValidationCheck :=
  [validationCheck "invariant-semantic-hash" .invariant "semantic_hash_reproducible"
      (packet.semanticHash = calculateTopologySemanticHash c packet)
      "Topology semantic hash is reproducible."
      ("Topology semantic hash mismatch: expected " ++ packet.semanticHash ++ ", calculated "
        ++ calculateTopologySemanticHash c packet ++ "."),
    validationCheck "invariant-packet-id" .invariant "packet_id_matches_semantic_hash"
      (packet.packetId = expectedPacketId packet)
      "Packet identity is derived from the semantic hash."
      ("Packet ID must be " ++ expectedPacketId packet ++ ", got " ++ packet.packetId ++ "."),
    validationCheck "invariant-payload-hashes" .invariant "payload_hashes_resolve"
      (sameEntries packet.payloadHashes (topologyPayloadHashes c state))
      "Every payload hash resolves to the exact materialized bytes."
      "One or more payload hashes do not match the materialized topology state."
      [("expected", textFields (topologyPayloadHashes c state)),
        ("actual", textFields packet.payloadHashes)]]
  ++ (idSets state).map (fun entry => uniqueIdCheck entry.1 entry.2.1 entry.2.2)
  ++ [validationCheck "invariant-edge-endpoints" .invariant "every_edge_endpoint_exists"
      (unresolvedEndpoints state).isEmpty
      "Every edge endpoint resolves to a canonical graph node."
      ("Unresolved edge endpoints: " ++ joined (unresolvedEndpoints state) ++ ".")
      [("unresolved_endpoints", Json.strings (unresolvedEndpoints state))],
    validationCheck "invariant-source-revisions" .invariant "source_revisions_present"
      (revisionsMissing state).isEmpty
      "Every repository has an explicit source revision."
      ("Repositories missing source revisions: " ++ joined (revisionsMissing state) ++ "."),
    validationCheck "invariant-portable-paths" .invariant "no_absolute_paths_in_semantic_identity"
      (invalidPaths state).isEmpty
      "All source paths are portable repository-relative paths."
      ("Non-portable source paths: " ++ joined (invalidPaths state) ++ "."),
    validationCheck "invariant-blocking-conflicts" .invariant "blocking_conflicts_resolved"
      (blockingConflicts state).isEmpty
      "No unresolved blocking topology conflicts remain."
      ("Unresolved blocking conflicts: " ++ joined (blockingConflicts state) ++ ".")
      [("blocking_conflicts", Json.strings (blockingConflicts state))],
    validationCheck "invariant-dependency-cycles-reported" .invariant "cycles_reported" true
      (if dependencyCycles state ≠ [] then
        "Dependency cycle scan completed; cycles are recorded in validation receipt details."
      else "Dependency cycle scan completed with no cycles.")
      "Dependency cycle scan failed."
      [("cycles", .arr ((dependencyCycles state).map Json.strings))]]

/-! ## Evidence checks -/

/-- `_record_evidence_refs`: the records the validator walks, with their authority if they have one. -/
def recordEvidenceRefs (state : TopologyState) : List (String × List String × Option Authority) :=
  state.repositoryRecords.map (fun r => (r.repositoryId, r.evidenceRefs, some r.confidence.authority))
  ++ state.artifactRecords.map (fun r => (r.artifactId, r.evidenceRefs, some r.confidence.authority))
  ++ state.capabilityRecords.map
    (fun r => (r.capabilityId, r.evidenceRefs, some r.confidence.authority))
  ++ state.semanticClaims.map (fun r => (r.claimId, r.evidenceRefs, some r.authority))
  ++ state.edgeRecords.map (fun r => (r.edgeId, r.evidenceRefs, some r.confidence.authority))
  ++ state.flowRecords.map (fun r => (r.flowId, r.evidenceRefs, some r.confidence.authority))
  ++ state.graphRecords.map (fun r => (r.entityId, r.evidenceRefs, some r.confidence.authority))
  ++ state.risks.map (fun r => (r.riskId, r.evidenceRefs, none))
  ++ state.maturity.map (fun r => ("maturity:" ++ r.subjectId, r.evidenceRefs, none))
  ++ state.unknowns.map (fun r => (r.unknownId, r.evidenceRefs, some .candidate))
  ++ state.conflicts.map (fun r => (r.conflictId, r.evidenceRefs, some .candidate))
  ++ state.diagnostics.map (fun r => (r.diagnosticId, r.evidenceRefs, some .candidate))

/-- `evidence_ids`. -/
def evidenceIds (state : TopologyState) : List String := state.evidence.map EvidenceRecord.evidenceId

/-- The entries of `unresolved_evidence`, in the order they are written. -/
def unresolvedEvidence (state : TopologyState) : List (String × List String) :=
  ((recordEvidenceRefs state).map fun entry =>
    (entry.1, sortedSet (entry.2.1.filter fun ref => ref ∉ evidenceIds state))).filter
      fun entry => entry.2 ≠ []

/-- The authorities under which a record must cite evidence. -/
def backedAuthorities : List Authority := [.source, .validatedMachine, .derived]

/-- `missing_required_evidence`. -/
def missingRequiredEvidence (state : TopologyState) : List String :=
  ((recordEvidenceRefs state).filter fun entry =>
    (∃ authority ∈ entry.2.2, authority ∈ backedAuthorities) ∧ entry.2.1 = []).map Prod.fst

/-- `bad_inference`. -/
def badInference (state : TopologyState) : List String :=
  sortedBy id ((state.evidence.filter fun record =>
    record.sourceType = .inference ∧ record.evidenceClass = .declared).map
      EvidenceRecord.evidenceId)

/-- The checks of what the records cite. -/
def evidenceChecks (state : TopologyState) : List ValidationCheck :=
  [validationCheck "evidence-references-resolve" .evidence "every_evidence_reference_resolves"
      (unresolvedEvidence state).isEmpty
      "Every evidence reference resolves within the Topology Packet."
      "One or more topology records reference missing evidence."
      [("unresolved", .obj ((Table.ofRows Prod.fst (unresolvedEvidence state)).rows.map
        fun entry => (entry.1, Json.strings entry.2)))],
    validationCheck "evidence-canonical-claims-backed" .evidence "canonical_claims_require_evidence"
      (missingRequiredEvidence state).isEmpty
      "Every accepted canonical claim carries evidence references."
      ("Canonical claims without evidence: "
        ++ joined (sortedBy id (missingRequiredEvidence state)))
      [("subjects", Json.strings (sortedBy id (missingRequiredEvidence state)))],
    validationCheck "evidence-inference-labeling" .evidence "inference_not_marked_declared"
      (badInference state).isEmpty
      "No inferred evidence is misclassified as declared authority."
      ("Inferred evidence marked declared: " ++ joined (badInference state) ++ ".")]

/-! ## Cross-reference checks -/

section CrossReferences

variable (packet : TopologyPacket) (state : TopologyState) (inputBundles : List RepositoryModelBundle)
  (corpusBundles : List CorpusIntelligenceBundle)

/-- The diagnostics a bundle carries; none without a payload. -/
def RepositoryModelBundle.diagnostics (bundle : RepositoryModelBundle) :
    List (List (String × Json)) :=
  (bundle.packet.payload.map RepositoryModelPayload.diagnostics).getD []

/-- `input_diagnostic_count`. -/
def inputDiagnosticCount : ℕ := (inputBundles.map fun bundle => bundle.diagnostics.length).sum

/-- `preserved_diagnostic_count`. -/
def preservedDiagnosticCount : ℕ :=
  state.diagnostics.countP fun diagnostic => diagnostic.disposition = .preserved

/-- `diagnostic_source_packets`. -/
def diagnosticSourcePackets : List String := state.diagnostics.map DiagnosticRecord.sourcePacketId

/-- `expected_diagnostic_sources`. -/
def expectedDiagnosticSources : List String :=
  (inputBundles.filter fun bundle => bundle.diagnostics ≠ []).map fun bundle =>
    bundle.packet.packetId

/-- `input_assertion_ids`. -/
def inputAssertionIds : List String :=
  inputBundles.flatMap (fun bundle =>
      ((bundle.packet.payload.map RepositoryModelPayload.statements).getD []).map
        RepositoryModelAssertion.assertionId)
    ++ corpusBundles.flatMap (fun bundle =>
      ((bundle.packet.payload.map CorpusIntelligencePayload.documentWorkSignals).getD []).map
        DocumentWorkSignal.signalId)

/-- `evidenced_assertion_ids`. -/
def evidencedAssertionIds : List String :=
  (state.evidence.filterMap statementEvidence?).map StatementEvidence.assertionId

/-- `claimed_assertion_ids`. -/
def claimedAssertionIds : List String :=
  state.semanticClaims.flatMap SemanticClaimRecord.sourceAssertionIds

/-- `sorted(left - right)`. -/
def sortedDifference (left right : List String) : List String :=
  sortedSet (left.filter fun value => value ∉ right)

/-- `packet_refs`. -/
def packetRefs : Table PacketRef.packetId :=
  Table.ofRows _ packet.inputs.repositoryModelPackets

/-- `bundle_refs`. -/
def bundleRefs : Table fun bundle : RepositoryModelBundle => bundle.packet.packetId :=
  Table.ofRows _ inputBundles

/-- `input_mismatch`. -/
def inputMismatch : List String :=
  let refs := (packetRefs packet).rows.map PacketRef.packetId
  let bundles := (bundleRefs inputBundles).rows.map fun bundle => bundle.packet.packetId
  sortedSet (refs.filter (fun packetId => packetId ∉ bundles)
    ++ bundles.filter (fun packetId => packetId ∉ refs))

/-- `failed_parents`. -/
def failedParents : List String :=
  sortedBy id ((inputBundles.filter fun bundle =>
    bundle.packet.validation.status ≠ .passed ∨ bundle.receipt.status ≠ .passed).map
      fun bundle => bundle.packet.packetId)

/-- The mismatches of one reference with its bundle. -/
def referenceMismatch (reference : PacketRef) (bundle : RepositoryModelBundle) : List String :=
  (if reference.semanticHash ≠ bundle.packet.semanticHash then
      [reference.packetId ++ ":semantic_hash"] else [])
    ++ (if reference.sourceRevision ≠ some bundle.packet.revision then
      [reference.packetId ++ ":source_revision"] else [])
    ++ (if reference.validationStatus ≠ .passed then
      [reference.packetId ++ ":validation_status"] else [])

/-- `reference_mismatches`. -/
def referenceMismatches : List String :=
  (sortedBy PacketRef.packetId (packetRefs packet).rows).flatMap fun reference =>
    match (bundleRefs inputBundles).lookup reference.packetId with
    | none => []
    | some bundle => referenceMismatch reference bundle

/-- The checks against the inputs. -/
def crossReferenceChecks : List ValidationCheck :=
  let unevidenced := sortedDifference (inputAssertionIds inputBundles corpusBundles)
    (evidencedAssertionIds state)
  let unclaimed := sortedDifference (inputAssertionIds inputBundles corpusBundles)
    (claimedAssertionIds state)
  let invented := sortedDifference (claimedAssertionIds state)
    (inputAssertionIds inputBundles corpusBundles)
  [validationCheck "cross-diagnostic-conservation" .crossReference "input_diagnostics_conserved"
      (inputDiagnosticCount inputBundles = preservedDiagnosticCount state ∧
        ∀ source ∈ expectedDiagnosticSources inputBundles, source ∈ diagnosticSourcePackets state)
      "Every accepted input diagnostic is preserved with source-packet lineage."
      "One or more accepted input diagnostics were lost or lack source lineage."
      [("input_count", .int (inputDiagnosticCount inputBundles)),
        ("preserved_count", .int (preservedDiagnosticCount state)),
        ("expected_source_packets",
          Json.strings (sortedSet (expectedDiagnosticSources inputBundles))),
        ("actual_source_packets", Json.strings (sortedSet (diagnosticSourcePackets state)))],
    validationCheck "cross-assertion-conservation" .crossReference "input_assertions_conserved"
      (unevidenced ++ unclaimed ++ invented).isEmpty
      ("Every input assertion is carried by an evidence record and named by "
        ++ "a semantic claim, and no claim cites an assertion no input made.")
      "One or more input assertions were lost, or a claim cites an unknown one."
      [("input_assertion_count",
          .int (sortedSet (inputAssertionIds inputBundles corpusBundles)).length),
        ("evidenced_assertion_count", .int (sortedSet (evidencedAssertionIds state)).length),
        ("claimed_assertion_count", .int (sortedSet (claimedAssertionIds state)).length),
        ("semantic_claim_count", .int state.semanticClaims.length),
        ("assertions_without_evidence", Json.strings unevidenced),
        ("assertions_without_claim", Json.strings unclaimed),
        ("claims_citing_unknown_assertions", Json.strings invented)],
    validationCheck "cross-input-packet-set" .crossReference "input_packet_set_matches"
      (inputMismatch packet inputBundles).isEmpty
      "Topology input references match the loaded Repository Model Packets."
      ("Topology input packet set mismatch: " ++ joined (inputMismatch packet inputBundles) ++ "."),
    validationCheck "cross-parent-validation" .crossReference "input_validation_passed"
      (failedParents inputBundles).isEmpty
      "Every input packet has a passed validation receipt."
      ("Input packets without passed validation: " ++ joined (failedParents inputBundles) ++ "."),
    validationCheck "cross-input-reference-integrity" .crossReference "input_refs_match_packets"
      (referenceMismatches packet inputBundles).isEmpty
      "Every input reference matches its packet hash, revision, and validation status."
      ("Input reference mismatches: " ++ joined (referenceMismatches packet inputBundles) ++ ".")
      [("mismatches", Json.strings (referenceMismatches packet inputBundles))]]

/-- `all_checks`. -/
def allChecks (c : Codec) (engine : SchemaEngine) : List ValidationCheck :=
  schemaChecks engine packet state ++ invariantChecks c packet state ++ evidenceChecks state
    ++ crossReferenceChecks packet state inputBundles corpusBundles

/-- `validate_topology`. -/
def validateTopology (c : Codec) (engine : SchemaEngine) (createdAt : Timestamp) :
    ValidationReceipt :=
  finalizeValidationReceipt c
    { receiptId := "receipt:pending"
      subjectPacketId := packet.packetId
      subjectSemanticHash := packet.semanticHash
      validator := ⟨"l9-constellation-topology", "2.0.0"⟩
      status :=
        if ∃ check ∈ allChecks packet state inputBundles corpusBundles c engine,
          check.status = .failed then .failed else .passed
      schemaResults := schemaChecks engine packet state
      invariantResults := invariantChecks c packet state
      evidenceResults := evidenceChecks state
      crossReferenceResults := crossReferenceChecks packet state inputBundles corpusBundles
      createdAt := createdAt
      semanticHash := "sha256:pending" }

end CrossReferences

end ConstellationTopology
