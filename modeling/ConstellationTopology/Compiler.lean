import ConstellationTopology.Domain.Topology
import ConstellationTopology.Library.Fallible
import ConstellationTopology.Packets.RepositoryValidation
import ConstellationTopology.Stages.AggregateCapabilities
import ConstellationTopology.Stages.AggregateRepositories
import ConstellationTopology.Stages.ClassifyRoles
import ConstellationTopology.Stages.DeriveUnknowns
import ConstellationTopology.Topology.CorpusModel
import ConstellationTopology.Topology.Duplicates
import ConstellationTopology.Topology.WorkProjection

set_option autoImplicit false

/-! # The compiler

`compiler.py`: the stages of `compile_topology` from the adapted packets to the state, in the order
the compiler calls them. What it derives from the finished graph and never feeds back (flows,
impacts, maturity, risks, and the candidate domains) is a parameter of the state. -/

namespace ConstellationTopology

/-- What Python writes for a value: `str`, `repr` of a text and `str.lower`. -/
structure PythonText where
  str : Json → String
  repr : String → String
  lower : String → String

/-- What Python writes for a text, for inputs that hold no other value. -/
def plainText : PythonText where
  str
    | .str text => text
    | _ => ""
  repr text := "'" ++ text ++ "'"
  lower := lowerAscii

/-! ## The adapted packets -/

/-- What the adapter makes of a packet. -/
structure NormalizedRepositoryModel where
  packetId : String
  repositories : List RepositoryRecord
  artifacts : List ArtifactRecord
  capabilities : List CapabilityRecord
  relationships : List EdgeRecord
  evidence : List EvidenceRecord
  diagnostics : List DiagnosticRecord
  assertions : List RepositoryModelAssertion

/-- The records of all models, domain by domain. -/
structure NormalizedInputs where
  repositories : List RepositoryRecord := []
  artifacts : List ArtifactRecord := []
  capabilities : List CapabilityRecord := []
  relationships : List EdgeRecord := []
  evidence : List EvidenceRecord := []
  diagnostics : List DiagnosticRecord := []

section Adapt

variable (c : Codec) (text : PythonText)

/-- The diagnostics the adapter hands on. -/
def adaptedDiagnostics (packet : RepositoryModelPacket) : List DiagnosticRecord :=
  normalizeDiagnostics c text.str
    ((packet.payload.map RepositoryModelPayload.diagnostics).getD []) packet.packetId

/-- `RepositoryModelV1Adapter.adapt`. -/
def RepositoryModelV1Adapter.adapt (packet : RepositoryModelPacket) :
    Except String NormalizedRepositoryModel := do
  validateRepositoryModelPacket c text.repr packet
  let payload ← expect packet.payload "validated packet payload is unexpectedly absent"
  let evidence ← adaptedEvidence c packet
  return {
    packetId := packet.packetId
    repositories := payload.repositories
    artifacts := payload.artifacts
    capabilities := payload.capabilities
    relationships := payload.relationships
    evidence := evidence
    diagnostics := adaptedDiagnostics c text packet
    assertions := payload.statements }

/-- `adapt_packets`: one adapter supports every version that is adapted. -/
def adaptPackets (packets : List RepositoryModelPacket) :
    Except String (List NormalizedRepositoryModel) :=
  packets.mapM fun packet => do
    demand (packet.packetVersion ∈ supportedRepositoryModelVersions)
      ("unsupported Repository Model Packet version: " ++ packet.packetVersion)
    RepositoryModelV1Adapter.adapt c text packet

/-- `normalize_models` over `adapt_packets`; the assertions are in `compiledInputs`. -/
def normalizeModels (packets : List RepositoryModelPacket) : Except String NormalizedInputs := do
  let models ← adaptPackets c text packets
  return {
    repositories := models.flatMap NormalizedRepositoryModel.repositories
    artifacts := models.flatMap NormalizedRepositoryModel.artifacts
    capabilities := models.flatMap NormalizedRepositoryModel.capabilities
    relationships := models.flatMap NormalizedRepositoryModel.relationships
    evidence := models.flatMap NormalizedRepositoryModel.evidence
    diagnostics := models.flatMap NormalizedRepositoryModel.diagnostics }

/-- The records of one domain of a packet. -/
def adaptedRecords {α : Type} (domain : RepositoryModelPayload → List α)
    (packet : RepositoryModelPacket) : List α :=
  (packet.payload.map domain).getD []

/-- A model is the adapted packet: the packet was accepted, and its records were handed on. -/
structure AdaptedAs (packet : RepositoryModelPacket) (model : NormalizedRepositoryModel) : Prop where
  accepted : RepositoryModelV1Adapter.Accepts c packet
  repositories : model.repositories = adaptedRecords RepositoryModelPayload.repositories packet
  artifacts : model.artifacts = adaptedRecords RepositoryModelPayload.artifacts packet
  capabilities : model.capabilities = adaptedRecords RepositoryModelPayload.capabilities packet
  relationships : model.relationships = adaptedRecords RepositoryModelPayload.relationships packet
  evidence : adaptedEvidence c packet = .ok model.evidence
  diagnostics : model.diagnostics = adaptedDiagnostics c text packet

/-- What the normalized inputs are read off. -/
def normalizedFrom (packets : List RepositoryModelPacket) (evidence : List (List EvidenceRecord)) :
    NormalizedInputs where
  repositories := packets.flatMap (adaptedRecords RepositoryModelPayload.repositories)
  artifacts := packets.flatMap (adaptedRecords RepositoryModelPayload.artifacts)
  capabilities := packets.flatMap (adaptedRecords RepositoryModelPayload.capabilities)
  relationships := packets.flatMap (adaptedRecords RepositoryModelPayload.relationships)
  evidence := evidence.flatten
  diagnostics := packets.flatMap (adaptedDiagnostics c text)

variable {c text} {packet : RepositoryModelPacket} {model : NormalizedRepositoryModel}

theorem RepositoryModelV1Adapter.adaptedAs_of_adapt (h : adapt c text packet = .ok model) :
    AdaptedAs c text packet model := by
  simp only [adapt, bind_eq_ok, expect_eq_ok, validateRepositoryModelPacket_eq_ok, pure_eq_ok] at h
  obtain ⟨_, haccepts, payload, hpayload, evidence, hevidence, rfl⟩ := h
  exact
    { accepted := haccepts
      repositories := by simp [adaptedRecords, hpayload]
      artifacts := by simp [adaptedRecords, hpayload]
      capabilities := by simp [adaptedRecords, hpayload]
      relationships := by simp [adaptedRecords, hpayload]
      evidence := hevidence
      diagnostics := rfl }

theorem RepositoryModelV1Adapter.exists_adapt (haccepts : Accepts c packet)
    {evidence : List EvidenceRecord} (hevidence : adaptedEvidence c packet = .ok evidence) :
    ∃ model, adapt c text packet = .ok model := by
  obtain ⟨payload, hpayload⟩ := Option.isSome_iff_exists.1 haccepts.payload
  simp only [adapt, bind_eq_ok, expect_eq_ok, validateRepositoryModelPacket_eq_ok]
  exact ⟨_, (), haccepts, payload, hpayload, evidence, hevidence, rfl⟩

theorem adaptPackets_spec {packets : List RepositoryModelPacket}
    {models : List NormalizedRepositoryModel} (h : adaptPackets c text packets = .ok models) :
    List.Forall₂ (AdaptedAs c text) packets models := by
  refine (mapM_eq_ok.1 h).imp fun packet model hmodel => ?_
  obtain ⟨_, -, hadapt⟩ := bind_eq_ok.1 hmodel
  exact RepositoryModelV1Adapter.adaptedAs_of_adapt hadapt

/-- **Normalization is what the accepted packets hold**: every packet is accepted by its adapter,
the evidence of its assertions can be built, and everything else is copied from the payloads. -/
theorem normalizeModels_eq_ok {packets : List RepositoryModelPacket} {normalized : NormalizedInputs} :
    normalizeModels c text packets = .ok normalized ↔
      (∀ packet ∈ packets, RepositoryModelV1Adapter.Accepts c packet) ∧
        ∃ evidence, packets.mapM (adaptedEvidence c) = .ok evidence ∧
          normalizedFrom c text packets evidence = normalized := by
  have hflatten : ∀ {models}, adaptPackets c text packets = .ok models →
      (∀ packet ∈ packets, RepositoryModelV1Adapter.Accepts c packet) ∧
        ∃ evidence, packets.mapM (adaptedEvidence c) = .ok evidence ∧
          normalizeModels c text packets = .ok (normalizedFrom c text packets evidence) := by
    intro models hmodels
    have hadapted := adaptPackets_spec hmodels
    refine ⟨fun packet hpacket => ?_, models.map NormalizedRepositoryModel.evidence, ?_, ?_⟩
    · obtain ⟨model, -, hmodel⟩ := exists_related_of_mem hadapted hpacket
      exact hmodel.accepted
    · rw [mapM_eq_ok, List.forall₂_map_right_iff]
      exact hadapted.imp fun _ _ hmodel => hmodel.evidence
    · simp only [normalizeModels, hmodels, normalizedFrom, bind, Except.bind, pure, Except.pure,
        flatMap_of_forall₂ hadapted fun _ _ h => h.repositories,
        flatMap_of_forall₂ hadapted fun _ _ h => h.artifacts,
        flatMap_of_forall₂ hadapted fun _ _ h => h.capabilities,
        flatMap_of_forall₂ hadapted fun _ _ h => h.relationships,
        flatMap_of_forall₂ hadapted fun _ _ h => h.diagnostics, List.flatMap_def]
  constructor
  · intro h
    obtain ⟨models, hmodels, -⟩ := bind_eq_ok.1 h
    obtain ⟨haccepted, evidence, hevidence, hnormalized⟩ := hflatten hmodels
    exact ⟨haccepted, evidence, hevidence, Except.ok.inj (hnormalized.symm.trans h)⟩
  · rintro ⟨haccepted, evidence, hevidence, rfl⟩
    have hadapts : ∀ packet ∈ packets, ∃ model, (do
        demand (packet.packetVersion ∈ supportedRepositoryModelVersions)
          ("unsupported Repository Model Packet version: " ++ packet.packetVersion)
        RepositoryModelV1Adapter.adapt c text packet) = Except.ok model := by
      intro packet hpacket
      obtain ⟨records, -, hrecords⟩ := exists_related_of_mem (mapM_eq_ok.1 hevidence) hpacket
      obtain ⟨model, hmodel⟩ : ∃ model, RepositoryModelV1Adapter.adapt c text packet = .ok model :=
        RepositoryModelV1Adapter.exists_adapt (haccepted packet hpacket) hrecords
      exact ⟨model, bind_eq_ok.2 ⟨(), demand_of (haccepted packet hpacket).version, hmodel⟩⟩
    obtain ⟨models, hmodels⟩ := exists_mapM_eq_ok hadapts
    obtain ⟨-, evidence', hevidence', hnormalized⟩ := hflatten hmodels
    rw [Except.ok.inj (hevidence.symm.trans hevidence')]
    exact hnormalized

theorem mem_adaptedRecords {α : Type} {domain : RepositoryModelPayload → List α} {record : α} :
    record ∈ adaptedRecords domain packet ↔ ∃ payload ∈ packet.payload, record ∈ domain payload := by
  cases hpayload : packet.payload <;> simp [adaptedRecords, hpayload]

variable (c text)

/-- The evidence of the corpus facts, packet by packet. -/
def corpusEvidence (packet : CorpusIntelligencePacket) : Except String (List EvidenceRecord) := do
  let signals ← signalEvidenceRecords c packet
  return signals ++ duplicateEvidenceRecords c packet ++ corpusScopeEvidenceRecords c packet

end Adapt

/-! ## Domains a corpus analysis did not run -/

section NotRun

variable (c : Codec) (repr : String → String)

/-- What identifies the statement that a domain was not run. -/
def notRunIdentity (packet : CorpusIntelligencePacket) (statement : CorpusDomainNotRun) :
    String × String × String × String :=
  (packet.packetId, packet.corpus.corpusId, statement.domain.value, statement.reason)

/-- The id of the unknown of such a statement. -/
def notRunUnknownId (identity : String × String × String × String) : String :=
  c.stableId "unknown" (.obj [("source_packet_id", .str identity.1),
    ("subject_id", .str identity.2.1), ("field", .str identity.2.2.1),
    ("reason", .str identity.2.2.2)])

/-- The unknown of one statement. -/
def notRunUnknown (packet : CorpusIntelligencePacket) (statement : CorpusDomainNotRun) :
    UnknownRecord where
  unknownId := notRunUnknownId c (notRunIdentity packet statement)
  subjectId := packet.corpus.corpusId
  field := some statement.domain.value
  reason := "Corpus analysis domain " ++ repr statement.domain.value ++ " was not run: "
    ++ statement.reason
  evidenceRefs := (groupOf EvidenceRecord.subjectId packet.corpus.corpusId
    (corpusScopeEvidenceRecords c packet)).map EvidenceRecord.evidenceId

/-- The statements of all packets, each with its packet. -/
def notRunStatements (packets : List CorpusIntelligencePacket) :
    List (CorpusIntelligencePacket × CorpusDomainNotRun) :=
  packets.flatMap fun packet =>
    (packet.domainsNotRun.getD []).map fun statement => (packet, statement)

/-- `_corpus_domains_not_run_unknowns`. -/
def corpusDomainsNotRunUnknowns (packets : List CorpusIntelligencePacket) : List UnknownRecord :=
  sortedBy UnknownRecord.unknownId
    ((notRunStatements packets).map fun entry => notRunUnknown c repr entry.1 entry.2)

end NotRun

/-! ## The stages -/

/-- What `compile_topology` is given. -/
structure CompileInputs where
  packets : List RepositoryModelPacket
  corpusPackets : List CorpusIntelligencePacket := []
  roleTaxonomy : List (String × List String) := []

/-- The results of the stages, under the compiler's names. -/
structure CompiledStages where
  normalized : NormalizedInputs
  signalEvidence : List EvidenceRecord
  statements : List SemanticInput
  evidence : EvidenceReconciliation
  declaredUnknowns : List UnknownRecord
  repositories : List RepositoryRecord
  repositoryConflicts : List ConflictRecord
  repositoryUnknowns : List UnknownRecord
  reconciliation : Reconciliation
  projection : ClaimProjection
  work : WorkProjection
  claims : List SemanticClaimRecord
  capabilities : List CapabilityRecord
  capabilityConflicts : List ConflictRecord
  corpusRecords : List CorpusRecord
  rootRecords : List RootRecord
  corpusUnknowns : List UnknownRecord
  duplicateEdges : List EdgeRecord
  corpusGraph : List GraphRecord × List EdgeRecord
  graph : TopologyGraph

section Stages

variable (c : Codec) (text : PythonText)

/-- The exact-duplicate relations of all packets. -/
def compiledDuplicateRelations (packets : List CorpusIntelligencePacket) :
    List ExactDuplicateRelation :=
  packets.flatMap duplicateRelations

/-- `duplicate_evidence_index`: the last packet that has an entry for a relation stands. -/
def duplicateEvidenceIndex (packets : List CorpusIntelligencePacket) (relationId : String) :
    List String :=
  (((Table.ofRows Prod.fst (packets.flatMap (duplicateEvidenceByRelation c))).lookup
    relationId).map Prod.snd).getD []

/-- The corpus and root records, each stamped with the evidence about it. -/
def stampedScope (packets : List CorpusIntelligencePacket) : List CorpusRecord × List RootRecord :=
  let scope := compileCorpusScope packets
  (scope.1.map fun record =>
      { record with evidenceRefs := corpusEvidenceBySubject c packets record.corpusId },
    scope.2.map fun record =>
      { record with evidenceRefs := corpusEvidenceBySubject c packets record.rootId })

/-- The stages of `compile_topology` over inputs that were adapted. -/
def runStages (inputs : CompileInputs) (normalized : NormalizedInputs)
    (signalEvidence : List EvidenceRecord) : CompiledStages :=
  let evidence := ReconcileEvidence.run c text.str (normalized.evidence ++ signalEvidence)
  let aggregated := AggregateRepositories.run c text.lower text.repr normalized.repositories
  let repositories := classifyRoles text.lower inputs.roleTaxonomy aggregated.1
  let statements := compiledInputs inputs.packets inputs.corpusPackets
  let reconciliation := ReconcileAssertions.run c text.repr statements evidence.evidence
  let projection := projectClaims c text.repr reconciliation.claims
  let work := projectWorkRelations c reconciliation.claims normalized.artifacts
  let capabilities := AggregateCapabilities.run c
    (buildCapabilities repositories normalized.artifacts normalized.capabilities
      ++ projection.capabilities)
  let scope := stampedScope c inputs.corpusPackets
  let corpusGraph := corpusScopeGraph c scope.1 scope.2
  let duplicateEdges := buildDuplicateEdges c (compiledDuplicateRelations inputs.corpusPackets)
    (duplicateEvidenceIndex c inputs.corpusPackets)
  { normalized := normalized
    signalEvidence := signalEvidence
    statements := statements
    evidence := evidence
    declaredUnknowns := DeriveUnknowns.run c text.str normalized.diagnostics
    repositories := repositories
    repositoryConflicts := aggregated.2.1
    repositoryUnknowns := aggregated.2.2
    reconciliation := reconciliation
    projection := projection
    work := work
    claims := applyProjection
      (mergeProjectedEntities [projection.entitiesByClaim, work.entitiesByClaim])
      reconciliation.claims
    capabilities := capabilities.1
    capabilityConflicts := capabilities.2
    corpusRecords := scope.1
    rootRecords := scope.2
    corpusUnknowns := corpusDomainsNotRunUnknowns c text.repr inputs.corpusPackets
    duplicateEdges := duplicateEdges
    corpusGraph := corpusGraph
    graph := buildTopologyGraph c repositories normalized.artifacts capabilities.1
      (normalized.relationships ++ projection.edges ++ work.edges ++ duplicateEdges
        ++ corpusGraph.2)
      (projection.nodes ++ work.nodes ++ corpusGraph.1) }

/-- The stages of `compile_topology`. -/
def compileStages (inputs : CompileInputs) : Except String CompiledStages := do
  let normalized ← normalizeModels c text inputs.packets
  let signalEvidence ← inputs.corpusPackets.mapM (corpusEvidence c)
  return runStages c text inputs normalized signalEvidence.flatten

theorem compileStages_eq_ok {inputs : CompileInputs} {stages : CompiledStages} :
    compileStages c text inputs = .ok stages ↔
      ∃ normalized, normalizeModels c text inputs.packets = .ok normalized ∧
        ∃ signalEvidence, inputs.corpusPackets.mapM (corpusEvidence c) = .ok signalEvidence ∧
          runStages c text inputs normalized signalEvidence.flatten = stages := by
  simp only [compileStages, bind_eq_ok, pure_eq_ok]

end Stages

/-! ## The state -/

/-- What the compiler derives from the graph and the packets beside the stages. -/
structure DerivedDomains where
  flows : List FlowRecord := []
  impacts : List ImpactIndex := []
  maturity : List MaturityAssessment := []
  risks : List RiskRecord := []
  candidateRelations : List CandidateRelationRecord := []
  candidateClusters : List CandidateClusterRecord := []
  candidateGraph : List GraphRecord := []
  readiness : List ReadinessEvidenceRecord := []
  reasoning : List TopologyReasoningCandidate := []

namespace CompiledStages

variable (stages : CompiledStages)

/-- `normalized.evidence + signal_evidence`, the pool `reconcile_evidence` is given. -/
def evidencePool : List EvidenceRecord := stages.normalized.evidence ++ stages.signalEvidence

/-- What `aggregate_capabilities` is given. -/
def builtCapabilities : List CapabilityRecord :=
  buildCapabilities stages.repositories stages.normalized.artifacts stages.normalized.capabilities
    ++ stages.projection.capabilities

/-- `all_conflicts`. -/
def conflicts : List ConflictRecord :=
  stages.evidence.conflicts ++ stages.repositoryConflicts ++ stages.capabilityConflicts
    ++ stages.reconciliation.conflicts

/-- `all_unknowns`. -/
def unknowns : List UnknownRecord :=
  stages.repositoryUnknowns ++ stages.evidence.unknowns ++ stages.declaredUnknowns
    ++ stages.corpusUnknowns ++ stages.reconciliation.unknowns ++ stages.work.unknowns

/-- `TopologyState(…)`. -/
def state (derived : DerivedDomains) : TopologyState where
  repositoryRecords := sortedBy RepositoryRecord.repositoryId stages.repositories
  artifactRecords := sortedBy ArtifactRecord.artifactId stages.normalized.artifacts
  capabilityRecords := sortedBy CapabilityRecord.capabilityId stages.capabilities
  semanticClaims := sortedBy SemanticClaimRecord.claimId stages.claims
  edgeRecords := sortedBy EdgeRecord.edgeId stages.graph.edges
  flowRecords := sortedBy FlowRecord.flowId derived.flows
  graphRecords := sortedBy (fun record : GraphRecord =>
    toLex (record.recordType.value, record.entityId))
      (stages.graph.graphRecords ++ derived.candidateGraph)
  risks := sortedBy RiskRecord.riskId derived.risks
  maturity := sortedBy MaturityAssessment.subjectId derived.maturity
  impactIndexes := sortedBy ImpactIndex.subjectId derived.impacts
  corpusRecords := sortedBy CorpusRecord.corpusId stages.corpusRecords
  rootRecords := sortedBy RootRecord.rootId stages.rootRecords
  candidateRelations := sortedBy CandidateRelationRecord.relationId derived.candidateRelations
  candidateClusters := sortedBy CandidateClusterRecord.candidateId derived.candidateClusters
  readinessEvidence := sortedBy ReadinessEvidenceRecord.readinessId derived.readiness
  topologyReasoningCandidates :=
    sortedBy TopologyReasoningCandidate.reasoningCandidateId derived.reasoning
  evidence := sortedBy EvidenceRecord.evidenceId stages.evidence.evidence
  diagnostics := sortedBy DiagnosticRecord.diagnosticId
    (stages.normalized.diagnostics ++ stages.reconciliation.diagnostics)
  unknowns := sortedBy UnknownRecord.unknownId stages.unknowns
  conflicts := sortedBy ConflictRecord.conflictId stages.conflicts

theorem state_edgeRecords (derived : DerivedDomains) :
    (stages.state derived).edgeRecords = sortedBy EdgeRecord.edgeId stages.graph.edges := rfl

theorem state_unknowns (derived : DerivedDomains) :
    (stages.state derived).unknowns = sortedBy UnknownRecord.unknownId stages.unknowns := rfl

theorem state_conflicts (derived : DerivedDomains) :
    (stages.state derived).conflicts = sortedBy ConflictRecord.conflictId stages.conflicts := rfl

theorem state_graphRecords (derived : DerivedDomains) :
    (stages.state derived).graphRecords.Perm
      (stages.graph.graphRecords ++ derived.candidateGraph) := sortedBy_perm _ _

end CompiledStages

end ConstellationTopology
