import ConstellationTopology.Packets.CorpusValidator
import ConstellationTopology.Packets.TopologyBundle
import ConstellationTopology.Topology.CandidateDomains
import ConstellationTopology.Topology.FlowBuilder
import ConstellationTopology.Topology.Impact
import ConstellationTopology.Topology.Maturity
import ConstellationTopology.Topology.Readiness
import ConstellationTopology.Topology.ReasoningRouter
import ConstellationTopology.Topology.Risk
import ConstellationTopology.Validation.TopologyValidator

set_option autoImplicit false

/-! # The whole compile

`compile_topology` of `compiler.py`, from loaded bundles to the artifacts of the topology bundle:
the corpus check, the stages (`Compiler.lean`), what is derived from the graph, the packet with its
identity, its validation, and the rendering. Reading the configuration and the bundles from disk is
not part of it. -/

namespace ConstellationTopology

/-! ## What a compile is given -/

/-- `ResolvedConfiguration`; the profiles are the mappings of their files. -/
structure ResolvedConfiguration where
  topologyProfile : Json
  riskProfile : Json
  maturityProfile : Json
  reportProfile : Json
  packetProfile : Json
  outputPolicy : Json
  profileHash : String
  schemaContractHash : String
  activeContractVersions : List (String × String) := []

/-- The policies the compiler owns. -/
structure CompilerPolicies where
  reconciliationPolicyHash : String
  edgeTaxonomyHash : String
  predicatePolicyHash : String

/-- What the compiler is run with: serialization, Python's texts and numbers, the checked-in schemas
and the compiler's own policies. -/
structure CompileEnvironment where
  codec : Codec
  text : PythonText
  int : PythonInt
  engine : SchemaEngine
  policies : CompilerPolicies

/-- A loaded Repository Model bundle, with the artifact hash its packet declares. -/
structure RepositoryInput extends RepositoryModelBundle where
  artifactHash : Option String := none

/-- How a compile ends without a result. -/
inductive CompileError
  /-- An exception of the configuration or of a stage. -/
  | raised (message : String)
  /-- `CorpusIntelligenceValidationError`. -/
  | corpusInvalid (errors : List String)
  /-- `TopologyCompilationError`. -/
  | validationFailed (receipt : ValidationReceipt)

section Compile

variable (env : CompileEnvironment) (configuration : ResolvedConfiguration)

/-! ## Checking the corpus packets -/

/-- The packets a corpus packet declares, among those of the compile. -/
def declaredModels (corpus : CorpusAnalysisPacket) (packets : List RepositoryModelPacket) :
    List RepositoryModelPacket :=
  packets.filter fun packet => packet.packetId ∈ corpus.inputIds

/-- One turn of the loop of `_check_corpus_inputs`. -/
def checkCorpusInput (packets : List RepositoryModelPacket) (corpus : CorpusAnalysisPacket) :
    Except CompileError Unit := do
  let missing := absentFrom corpus.inputIds (loadedPackets packets)
  demand (missing = []) (.raised ("corpus intelligence packet " ++ corpus.packetId
    ++ " analyses repository-model packets absent from this compile: " ++ joined missing))
  (validateCorpusIntelligencePacket env.text.repr corpus
    (declaredModels corpus packets)).mapError .corpusInvalid

/-- `_check_corpus_inputs`. -/
def checkCorpusInputs (corpora : List CorpusAnalysisPacket)
    (packets : List RepositoryModelPacket) : Except CompileError Unit := do
  let _ ← corpora.mapM (checkCorpusInput env packets)

/-! ## Deriving -/

/-- The role taxonomy of the topology profile. -/
def roleTaxonomyOf : Except String (List (String × List String)) := do
  let roles ← mappingItems (configuration.topologyProfile.getD "role_taxonomy" (.obj []))
  roles.mapM fun role => (sequenceItems role.2).map fun values =>
    (role.1, values.map env.text.str)

/-- The request of `stages/assess_impact.py`. -/
def downstreamRequest (edges : List EdgeRecord) (repository : RepositoryRecord) : ImpactRequest where
  subjectId := repository.repositoryId
  edges := edges
  direction := .downstream
  maximumDepth := 10

/-- What is derived from the canonical graph. -/
def canonicalDomains (stages : CompiledStages) : Except String DerivedDomains := do
  let impacts ← stages.repositories.mapM fun repository =>
    assessImpact (downstreamRequest stages.graph.edges repository)
  let maturity ← assessMaturity env.text env.int stages.repositories stages.evidence.evidence
    configuration.maturityProfile
  let risks ← assessTopologyRisks env.codec env.text stages.repositories configuration.riskProfile
  return {
    flows := buildFlows env.codec stages.graph.edges
    impacts := impacts
    maturity := maturity
    risks := risks }

/-- `upstream_by_candidate`: the first request for a candidate stands. -/
def upstreamRequest (corpora : List CorpusAnalysisPacket) (candidateId : String) :
    Option ReasoningCandidateRequest :=
  ((corpora.flatMap CorpusAnalysisPacket.reasoningCandidates).map
    ReasoningRequest.toReasoningCandidateRequest).find? fun request =>
      request.candidateId = candidateId

/-- `route_reasoning_candidates`. -/
def routeReasoningCandidates (corpora : List CorpusAnalysisPacket) (edges : List EdgeRecord)
    (conflicts : List ConflictRecord) (unknowns : List UnknownRecord)
    (clusters : List CandidateClusterRecord) : List TopologyReasoningCandidate :=
  sortedBy TopologyReasoningCandidate.reasoningCandidateId (clusters.map fun cluster =>
    routeCandidate cluster edges conflicts unknowns env.codec
      (upstreamRequest corpora cluster.candidateId))

/-- The packets of the corpora, without what is only measured. -/
def corpusPackets (corpora : List CorpusAnalysisPacket) : List CorpusIntelligencePacket :=
  corpora.map CorpusAnalysisPacket.toCorpusIntelligencePacket

/-- The canonical domains with the candidate domains beside them. -/
def withAnalysis (stages : CompiledStages) (corpora : List CorpusAnalysisPacket)
    (canonical : DerivedDomains) : DerivedDomains :=
  let measured := stages.withCandidates (corpusPackets corpora)
    { canonical with readiness := corpora.flatMap compileReadinessEvidence }
  { measured with
    reasoning := routeReasoningCandidates env corpora stages.graph.edges stages.conflicts
      stages.unknowns measured.candidateClusters }

/-- The compiled state. -/
def compileState (inputs : List RepositoryInput) (corpora : List CorpusAnalysisPacket) :
    Except String TopologyState := do
  let taxonomy ← roleTaxonomyOf env configuration
  let stages ← compileStages env.codec env.text
    { packets := inputs.map fun input => input.packet
      corpusPackets := corpusPackets corpora
      roleTaxonomy := taxonomy }
  let canonical ← canonicalDomains env configuration stages
  return stages.state (withAnalysis env stages corpora canonical)

/-! ## The packet -/

/-- `_packet_ref`. -/
def packetRef (input : RepositoryInput) : PacketRef where
  packetId := input.packet.packetId
  packetType := "l9.repository-model"
  packetVersion := input.packet.packetVersion
  uri := "packet://" ++ input.packet.packetId
  semanticHash := input.packet.semanticHash
  artifactHash := input.artifactHash
  validationStatus := input.packet.validation.status
  subjectId := some input.packet.repositoryId
  sourceRevision := some input.packet.revision

/-- `_corpus_packet_ref`. -/
def corpusPacketRef (corpus : CorpusAnalysisPacket) : PacketRef where
  packetId := corpus.packetId
  packetType := "l9.corpus-intelligence"
  packetVersion := corpus.packetVersion
  uri := "packet://" ++ corpus.packetId
  semanticHash := corpus.semanticHash
  artifactHash := corpus.artifactHash
  validationStatus := corpus.validation.status
  subjectId := some corpus.corpus.corpusId
  sourceRevision := some corpus.corpus.corpusSourceSnapshotId

/-- `_policy_hashes`. -/
def policyHashes : List (String × String) :=
  [("topology", env.codec.semanticHash configuration.topologyProfile),
    ("risk", env.codec.semanticHash configuration.riskProfile),
    ("maturity", env.codec.semanticHash configuration.maturityProfile),
    ("report", env.codec.semanticHash configuration.reportProfile),
    ("packet", env.codec.semanticHash configuration.packetProfile),
    ("output", env.codec.semanticHash configuration.outputPolicy),
    ("reconciliation", env.policies.reconciliationPolicyHash),
    ("edge_taxonomy", env.policies.edgeTaxonomyHash),
    ("assertion_predicates", env.policies.predicatePolicyHash)]

/-- `COMPILER_NAME` and `COMPILER_VERSION`. -/
def compilerProducer : Producer := ⟨"l9-constellation-topology", "2.0.0"⟩

/-- `CANONICAL_CREATED_AT`. -/
def canonicalCreatedAt : Timestamp := ⟨"1970-01-01T00:00:00Z"⟩

/-- The inputs a packet names, in the order of their ids. -/
def topologyInputs (inputs : List RepositoryInput) (corpora : List CorpusAnalysisPacket) :
    TopologyInputs where
  repositoryModelPackets := sortedBy PacketRef.packetId (inputs.map packetRef)
  corpusIntelligencePackets := sortedBy PacketRef.packetId (corpora.map corpusPacketRef)

/-- The packet before it has an identity. -/
def pendingPacket (profile : ProfileRef) (inputs : TopologyInputs) (state : TopologyState)
    (createdAt : Timestamp) : TopologyPacket where
  packetId := "packet:pending"
  producer := compilerProducer
  profile := profile
  inputs := inputs
  schemaHash := configuration.schemaContractHash
  policyHashes := policyHashes env configuration
  payloadRefs := topologyPayloadRefs
  payloadHashes := topologyPayloadHashes env.codec state
  validation := ⟨.notRun, none⟩
  semanticHash := "sha256:pending"
  artifactHash := "sha256:pending"
  lineage :=
    { parentPacketIds := sortedBy id ((inputs.repositoryModelPackets
        ++ inputs.corpusIntelligencePackets).map PacketRef.packetId)
      generation := 1 }
  createdAt := createdAt

/-- The profile a packet names. -/
def profileRef : Except String ProfileRef := do
  let id ← profileKey "id" configuration.topologyProfile
  let version ← profileKey "version" configuration.topologyProfile
  return ⟨env.text.str id, env.text.str version,
    env.codec.semanticHash configuration.topologyProfile⟩

/-- The packet that passed validation, before it is sealed. -/
def TopologyPacket.validated (packet : TopologyPacket) : TopologyPacket :=
  { packet with validation := ⟨.passed, some "receipts/validation-receipt.json"⟩ }

/-- A value that stays as `null` in a dump. -/
def dumpedText (value : Option String) : Json := (value.map Json.str).getD .null

/-- `model_dump` of a reference: nothing is left out. -/
def PacketRef.dump (ref : PacketRef) : Json :=
  .obj [("packet_id", .str ref.packetId), ("packet_type", .str ref.packetType),
    ("packet_version", .str ref.packetVersion), ("uri", .str ref.uri),
    ("semantic_hash", .str ref.semanticHash), ("artifact_hash", dumpedText ref.artifactHash),
    ("validation_status", .str ref.validationStatus.value),
    ("subject_id", dumpedText ref.subjectId), ("source_revision", dumpedText ref.sourceRevision)]

/-- `model_dump(exclude={"artifact_hash"})` of a packet. -/
def TopologyPacket.coreDump (packet : TopologyPacket) : Json :=
  .obj [("packet_type", .str "l9.topology"),
    ("packet_version", .str packet.packetVersion),
    ("packet_id", .str packet.packetId),
    ("producer", packet.producer.toJson),
    ("profile", packet.profile.toJson),
    ("inputs", .obj [
      ("repository_model_packets",
        .arr (packet.inputs.repositoryModelPackets.map PacketRef.dump)),
      ("corpus_intelligence_packets",
        .arr (packet.inputs.corpusIntelligencePackets.map PacketRef.dump))]),
    ("schema_hash", .str packet.schemaHash),
    ("policy_hashes", textFields packet.policyHashes),
    ("payload_refs", textFields packet.payloadRefs),
    ("payload_hashes", textFields packet.payloadHashes),
    ("validation", .obj [("status", .str packet.validation.status.value),
      ("receipt_ref", dumpedText packet.validation.receiptRef)]),
    ("semantic_hash", .str packet.semanticHash),
    ("lineage", .obj [("parent_packet_ids", Json.strings packet.lineage.parentPacketIds),
      ("root_packet_id", dumpedText packet.lineage.rootPacketId),
      ("generation", .int packet.lineage.generation)]),
    ("created_at", .str packet.createdAt.isoformat)]

/-- The packet with the hash of its own dump. -/
def TopologyPacket.sealed (packet : TopologyPacket) : TopologyPacket :=
  { packet with
    artifactHash := env.codec.artifactHash (env.codec.canonicalBytes packet.coreDump) }

/-! ## The compile -/

/-- `CompilationResult`; the inputs and the configuration are those it was given. -/
structure CompilationResult (c : Codec) where
  packet : TopologyPacket
  state : TopologyState
  receipt : ValidationReceipt
  artifacts : List (RenderedArtifact c)

/-- The packet and the receipt of a state. -/
def validateState (profile : ProfileRef) (inputs : List RepositoryInput)
    (corpora : List CorpusAnalysisPacket) (createdAt : Timestamp) (state : TopologyState) :
    TopologyPacket × ValidationReceipt :=
  let packet := (pendingPacket env configuration profile (topologyInputs inputs corpora) state
    createdAt).identified env.codec
  (packet, validateTopology packet state (inputs.map RepositoryInput.toRepositoryModelBundle)
    ((corpusPackets corpora).map CorpusIntelligenceBundle.mk) env.codec env.engine createdAt)

/-- The end of `compile_topology`: a state is validated, and rendered if it passed. -/
def finishCompilation (inputs : List RepositoryInput) (corpora : List CorpusAnalysisPacket)
    (timestamp : Timestamp) (profile : ProfileRef) (state : TopologyState) :
    Except CompileError (CompilationResult env.codec) := do
  let validated := validateState env configuration profile inputs corpora timestamp state
  demand (validated.2.status = .passed) (.validationFailed validated.2)
  let packet := validated.1.validated.sealed env
  let artifacts ← (buildTopologyBundleArtifacts env.codec packet state validated.2
    timestamp).mapError .raised
  return { packet, state, receipt := validated.2, artifacts }

/-- `compile_topology`, from its loaded bundles on. -/
def compileTopology (inputs : List RepositoryInput) (corpora : List CorpusAnalysisPacket)
    (createdAt : Option Timestamp) :
    Except CompileError (CompilationResult env.codec) := do
  demand (inputs ≠ []) (.raised "at least one Repository Model Packet bundle is required")
  checkCorpusInputs env corpora (inputs.map fun input => input.packet)
  let state ← (compileState env configuration inputs corpora).mapError .raised
  let profile ← (profileRef env configuration).mapError .raised
  finishCompilation env configuration inputs corpora (createdAt.getD canonicalCreatedAt) profile
    state

end Compile

end ConstellationTopology
