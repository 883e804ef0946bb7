import ConstellationTopology.Library.JsonText
import ConstellationTopology.Validation.TopologyValidator

set_option autoImplicit false

/-! # What a passed validation closes

`validate_topology` walks twelve domains for their evidence references, and the state has eighteen
that carry some. A passed validation closes the state exactly when the other six resolve of
themselves (`validated_references_closed_iff`). -/

namespace ConstellationTopology

/-- Every reference is an evidence record of the state. -/
def Resolves (state : TopologyState) (refs : List String) : Prop :=
  ∀ ref ∈ refs, ref ∈ evidenceIds state

/-- Every evidence reference of every record resolves, and every edge ends at nodes. -/
structure ReferencesClosed (state : TopologyState) : Prop where
  repositories : ∀ r ∈ state.repositoryRecords, Resolves state r.evidenceRefs
  artifacts : ∀ r ∈ state.artifactRecords, Resolves state r.evidenceRefs
  capabilities : ∀ r ∈ state.capabilityRecords, Resolves state r.evidenceRefs
  claims : ∀ r ∈ state.semanticClaims, Resolves state r.evidenceRefs
  edges : ∀ r ∈ state.edgeRecords, Resolves state r.evidenceRefs
  flows : ∀ r ∈ state.flowRecords, Resolves state r.evidenceRefs
  graph : ∀ r ∈ state.graphRecords, Resolves state r.evidenceRefs
  risks : ∀ r ∈ state.risks, Resolves state r.evidenceRefs
  maturity : ∀ r ∈ state.maturity, Resolves state r.evidenceRefs
  corpora : ∀ r ∈ state.corpusRecords, Resolves state r.evidenceRefs
  roots : ∀ r ∈ state.rootRecords, Resolves state r.evidenceRefs
  candidateRelations : ∀ r ∈ state.candidateRelations, Resolves state r.evidenceRefs
  candidateClusters : ∀ r ∈ state.candidateClusters, Resolves state r.evidenceRefs
  readiness : ∀ r ∈ state.readinessEvidence, Resolves state r.evidenceRefs
  reasoning : ∀ r ∈ state.topologyReasoningCandidates, Resolves state r.evidenceRefs
  unknowns : ∀ r ∈ state.unknowns, Resolves state r.evidenceRefs
  conflicts : ∀ r ∈ state.conflicts, Resolves state r.evidenceRefs
  diagnostics : ∀ r ∈ state.diagnostics, Resolves state r.evidenceRefs
  endpoints : ∀ edge ∈ state.edgeRecords,
    edge.sourceId ∈ nodeIds state ∧ edge.targetId ∈ nodeIds state

/-- The references of the domains the validator does not walk resolve. -/
structure UnwalkedResolve (state : TopologyState) : Prop where
  corpora : ∀ r ∈ state.corpusRecords, Resolves state r.evidenceRefs
  roots : ∀ r ∈ state.rootRecords, Resolves state r.evidenceRefs
  candidateRelations : ∀ r ∈ state.candidateRelations, Resolves state r.evidenceRefs
  candidateClusters : ∀ r ∈ state.candidateClusters, Resolves state r.evidenceRefs
  readiness : ∀ r ∈ state.readinessEvidence, Resolves state r.evidenceRefs
  reasoning : ∀ r ∈ state.topologyReasoningCandidates, Resolves state r.evidenceRefs

/-! ## Passing -/

section Passing

variable {c : Codec} {engine : SchemaEngine} {packet : TopologyPacket} {state : TopologyState}
  {inputBundles : List RepositoryModelBundle} {corpusBundles : List CorpusIntelligenceBundle}
  {createdAt : Timestamp}

theorem validationCheck_failed_iff {checkId rule success failure : String} {checkClass : CheckClass}
    {passed : Bool} {details : List (String × Json)} :
    (validationCheck checkId checkClass rule passed success failure details).status = .failed ↔
      passed = false := by
  cases passed <;> simp [validationCheck]

/-- No check failed. -/
def NoneFailed (checks : List ValidationCheck) : Prop := ∀ check ∈ checks, check.status ≠ .failed

theorem noneFailed_append {checks checks' : List ValidationCheck} :
    NoneFailed (checks ++ checks') ↔ NoneFailed checks ∧ NoneFailed checks' :=
  List.forall_mem_append

theorem noneFailed_cons {check : ValidationCheck} {checks : List ValidationCheck} :
    NoneFailed (check :: checks) ↔ check.status ≠ .failed ∧ NoneFailed checks :=
  List.forall_mem_cons

theorem noneFailed_nil : NoneFailed [] := nofun

theorem schemaChecks_passed_iff : NoneFailed (schemaChecks engine packet state) ↔
    engine.packetErrors packet = [] ∧ recordErrors engine state = [] := by
  simp [schemaChecks, noneFailed_cons, noneFailed_nil, validationCheck_failed_iff]

theorem invariantChecks_passed_iff : NoneFailed (invariantChecks c packet state) ↔
    packet.semanticHash = calculateTopologySemanticHash c packet ∧
      packet.packetId = expectedPacketId packet ∧
      sameEntries packet.payloadHashes (topologyPayloadHashes c state) = true ∧
      (∀ entry ∈ idSets state, duplicates entry.2.2 = []) ∧
      unresolvedEndpoints state = [] ∧ revisionsMissing state = [] ∧
      invalidPaths state = [] ∧ blockingConflicts state = [] := by
  have hids : NoneFailed ((idSets state).map fun entry =>
      uniqueIdCheck entry.1 entry.2.1 entry.2.2) ↔
        ∀ entry ∈ idSets state, duplicates entry.2.2 = [] := by
    simp only [NoneFailed, List.forall_mem_map, uniqueIdCheck, ne_eq, validationCheck_failed_iff,
      Bool.not_eq_false, List.isEmpty_iff]
  simp [invariantChecks, noneFailed_append, noneFailed_cons, noneFailed_nil, hids,
    validationCheck_failed_iff]

theorem evidenceChecks_passed_iff : NoneFailed (evidenceChecks state) ↔
    unresolvedEvidence state = [] ∧ missingRequiredEvidence state = [] ∧
      badInference state = [] := by
  simp [evidenceChecks, noneFailed_cons, noneFailed_nil, validationCheck_failed_iff]

theorem crossReferenceChecks_passed_iff :
    NoneFailed (crossReferenceChecks packet state inputBundles corpusBundles) ↔
      (inputDiagnosticCount inputBundles = preservedDiagnosticCount state ∧
        ∀ source ∈ expectedDiagnosticSources inputBundles,
          source ∈ diagnosticSourcePackets state) ∧
      (sortedDifference (inputAssertionIds inputBundles corpusBundles)
          (evidencedAssertionIds state) = [] ∧
        sortedDifference (inputAssertionIds inputBundles corpusBundles)
          (claimedAssertionIds state) = [] ∧
        sortedDifference (claimedAssertionIds state)
          (inputAssertionIds inputBundles corpusBundles) = []) ∧
      inputMismatch packet inputBundles = [] ∧ failedParents inputBundles = [] ∧
      referenceMismatches packet inputBundles = [] := by
  simp [crossReferenceChecks, noneFailed_cons, noneFailed_nil, validationCheck_failed_iff]

/-- **A receipt passes** exactly when every class of checks did. -/
theorem validateTopology_passed_iff :
    (validateTopology packet state inputBundles corpusBundles c engine createdAt).status = .passed ↔
      NoneFailed (schemaChecks engine packet state) ∧ NoneFailed (invariantChecks c packet state) ∧
        NoneFailed (evidenceChecks state) ∧
        NoneFailed (crossReferenceChecks packet state inputBundles corpusBundles) := by
  rw [← and_assoc, ← and_assoc, ← noneFailed_append, ← noneFailed_append, ← noneFailed_append]
  change _ ↔ NoneFailed (allChecks packet state inputBundles corpusBundles c engine)
  unfold validateTopology
  rw [finalizeValidationReceipt_status]
  split
  · next h =>
      simp only [reduceCtorEq, false_iff]
      exact fun hnone => h.elim fun check hcheck => hnone check hcheck.1 hcheck.2
  · next h => simpa [NoneFailed] using h

end Passing

/-! ## What the two closing checks say -/

section Closing

variable {state : TopologyState}

/-- Nothing walked is left unresolved. -/
theorem unresolvedEvidence_eq_nil_iff : unresolvedEvidence state = [] ↔
    ∀ entry ∈ recordEvidenceRefs state, Resolves state entry.2.1 := by
  unfold unresolvedEvidence Resolves
  rw [List.filter_eq_nil_iff, List.forall_mem_map]
  simp only [ne_eq, decide_not, Bool.not_eq_eq_eq_not, Bool.not_true, decide_eq_false_iff_not,
    Decidable.not_not, sortedSet_eq_nil_iff, List.filter_eq_nil_iff]

theorem duplicates_eq_nil_iff {values : List String} : duplicates values = [] ↔ values.Nodup := by
  unfold duplicates
  rw [sortedSet_eq_nil_iff, List.filter_eq_nil_iff, List.nodup_iff_count_le_one]
  constructor
  · intro h value
    by_cases hvalue : value ∈ values
    · simpa using h value hvalue
    · simp [List.count_eq_zero_of_not_mem hvalue]
  · intro h value _
    simpa using h value

theorem unresolvedEndpoints_eq_nil_iff : unresolvedEndpoints state = [] ↔
    ∀ edge ∈ state.edgeRecords,
      edge.sourceId ∈ nodeIds state ∧ edge.targetId ∈ nodeIds state := by
  unfold unresolvedEndpoints
  rw [sortedSet_eq_nil_iff, List.filter_eq_nil_iff, List.forall_mem_flatMap]
  simp

/-- The walk reaches these domains, and they only. -/
theorem forall_recordEvidenceRefs_iff {P : List String → Prop} :
    (∀ entry ∈ recordEvidenceRefs state, P entry.2.1) ↔
      (∀ r ∈ state.repositoryRecords, P r.evidenceRefs) ∧
      (∀ r ∈ state.artifactRecords, P r.evidenceRefs) ∧
      (∀ r ∈ state.capabilityRecords, P r.evidenceRefs) ∧
      (∀ r ∈ state.semanticClaims, P r.evidenceRefs) ∧
      (∀ r ∈ state.edgeRecords, P r.evidenceRefs) ∧
      (∀ r ∈ state.flowRecords, P r.evidenceRefs) ∧
      (∀ r ∈ state.graphRecords, P r.evidenceRefs) ∧
      (∀ r ∈ state.risks, P r.evidenceRefs) ∧
      (∀ r ∈ state.maturity, P r.evidenceRefs) ∧
      (∀ r ∈ state.unknowns, P r.evidenceRefs) ∧
      (∀ r ∈ state.conflicts, P r.evidenceRefs) ∧
      (∀ r ∈ state.diagnostics, P r.evidenceRefs) := by
  simp only [recordEvidenceRefs, List.forall_mem_append, List.forall_mem_map, and_assoc]

end Closing

/-- A passed validation tells the ids of a domain apart. -/
theorem ids_nodup_of_passed {c : Codec} {engine : SchemaEngine} {packet : TopologyPacket}
    {state : TopologyState} {inputBundles : List RepositoryModelBundle}
    {corpusBundles : List CorpusIntelligenceBundle} {createdAt : Timestamp}
    (hpassed : (validateTopology packet state inputBundles corpusBundles c engine
      createdAt).status = .passed) (category title : String) {ids : List String}
    (hids : (category, title, ids) ∈ idSets state) : ids.Nodup := by
  obtain ⟨-, hinvariant, -⟩ := validateTopology_passed_iff.1 hpassed
  obtain ⟨-, -, -, hunique, -⟩ := invariantChecks_passed_iff.1 hinvariant
  exact duplicates_eq_nil_iff.1 (hunique _ hids)

/-- **Validation closes the references it walks**: a state that passes is closed exactly when the
    references of the corpus, root, candidate, readiness and reasoning records resolve. -/
theorem validated_references_closed_iff (c : Codec) (engine : SchemaEngine)
    (packet : TopologyPacket) (state : TopologyState) (inputBundles : List RepositoryModelBundle)
    (corpusBundles : List CorpusIntelligenceBundle) (createdAt : Timestamp)
    (hpassed : (validateTopology packet state inputBundles corpusBundles c engine
      createdAt).status = .passed) :
    ReferencesClosed state ↔ UnwalkedResolve state := by
  obtain ⟨-, hinvariant, hevidence, -⟩ := validateTopology_passed_iff.1 hpassed
  obtain ⟨-, -, -, -, hendpoints, -⟩ := invariantChecks_passed_iff.1 hinvariant
  have hwalked := forall_recordEvidenceRefs_iff.1
    (unresolvedEvidence_eq_nil_iff.1 (evidenceChecks_passed_iff.1 hevidence).1)
  obtain ⟨hrepositories, hartifacts, hcapabilities, hclaims, hedges, hflows, hgraph, hrisks,
    hmaturity, hunknowns, hconflicts, hdiagnostics⟩ := hwalked
  constructor
  · intro hclosed
    exact
      { corpora := hclosed.corpora
        roots := hclosed.roots
        candidateRelations := hclosed.candidateRelations
        candidateClusters := hclosed.candidateClusters
        readiness := hclosed.readiness
        reasoning := hclosed.reasoning }
  · intro hunwalked
    exact
      { repositories := hrepositories
        artifacts := hartifacts
        capabilities := hcapabilities
        claims := hclaims
        edges := hedges
        flows := hflows
        graph := hgraph
        risks := hrisks
        maturity := hmaturity
        corpora := hunwalked.corpora
        roots := hunwalked.roots
        candidateRelations := hunwalked.candidateRelations
        candidateClusters := hunwalked.candidateClusters
        readiness := hunwalked.readiness
        reasoning := hunwalked.reasoning
        unknowns := hunknowns
        conflicts := hconflicts
        diagnostics := hdiagnostics
        endpoints := unresolvedEndpoints_eq_nil_iff.1 hendpoints }

/-! ## A state that passes -/

/-- An engine that reports no error. -/
def quietEngine : SchemaEngine := ⟨fun _ => [], fun _ => []⟩

theorem recordErrors_quiet (state : TopologyState) : recordErrors quietEngine state = [] := by
  simp [recordErrors, recordSchemas, recordSchemaErrors, quietEngine]

/-- A validated Repository Model Packet with a payload. -/
def validatedBundle (payload : RepositoryModelPayload) : RepositoryModelBundle where
  packet :=
    { packetId := "packet:in"
      repositoryId := "repo:a"
      revision := "r1"
      snapshotHash := "sha256:snapshot"
      producer := ⟨"repo-model", "1.0.0"⟩
      profile := ⟨"repo-model", "1.0.0", "sha256:profile"⟩
      schemaHash := "sha256:schema"
      semanticHash := "sha256:in"
      payload := some payload }
  receipt :=
    { receiptId := "receipt:in"
      subjectPacketId := "packet:in"
      subjectSemanticHash := "sha256:in"
      validator := ⟨"repo-model", "1.0.0"⟩
      status := .passed
      createdAt := ⟨"1970-01-01T00:00:00Z"⟩
      semanticHash := "sha256:receipt" }

/-- The reference the compiler keeps of it. -/
def validatedInputs : TopologyInputs where
  repositoryModelPackets :=
    [{ packetId := "packet:in"
       packetType := "l9.repository-model"
       packetVersion := "1.1.0"
       uri := "packet://packet:in"
       semanticHash := "sha256:in"
       validationStatus := .passed
       subjectId := some "repo:a"
       sourceRevision := some "r1" }]

/-- The packet the compiler makes of a state. -/
def statePacket (c : Codec) (state : TopologyState) : TopologyPacket :=
  TopologyPacket.identified c
    { packetId := "packet:pending"
      producer := ⟨"l9-constellation-topology", "2.0.0"⟩
      profile := ⟨"topology", "1.0.0", "sha256:profile"⟩
      inputs := validatedInputs
      schemaHash := "sha256:schema"
      payloadRefs := topologyPayloadRefs
      payloadHashes := topologyPayloadHashes c state
      validation := ⟨.notRun, none⟩
      semanticHash := "sha256:pending"
      artifactHash := "sha256:pending"
      createdAt := ⟨"1970-01-01T00:00:00Z"⟩ }

/-- What the checks find of a state compiled from one payload without diagnostics. -/
structure Passable (payload : RepositoryModelPayload) (state : TopologyState) : Prop where
  ids : ∀ entry ∈ idSets state, entry.2.2.Nodup
  endpoints : unresolvedEndpoints state = []
  revisions : revisionsMissing state = []
  paths : invalidPaths state = []
  conflicts : blockingConflicts state = []
  evidence : unresolvedEvidence state = []
  backed : missingRequiredEvidence state = []
  inference : badInference state = []
  diagnosed : payload.diagnostics = []
  diagnostics : preservedDiagnosticCount state = 0
  evidenced : sortedDifference (inputAssertionIds [validatedBundle payload] [])
    (evidencedAssertionIds state) = []
  claimed : sortedDifference (inputAssertionIds [validatedBundle payload] [])
    (claimedAssertionIds state) = []
  stated : sortedDifference (claimedAssertionIds state)
    (inputAssertionIds [validatedBundle payload] []) = []

theorem sameEntries_self (entries : List (String × String)) : sameEntries entries entries = true := by
  simp [sameEntries]

/-- The packet of such a state passes. -/
theorem Passable.passed {payload : RepositoryModelPayload} {state : TopologyState}
    (h : Passable payload state) (c : Codec) :
    (validateTopology (statePacket c state) state [validatedBundle payload] [] c quietEngine
      ⟨"1970-01-01T00:00:00Z"⟩).status = .passed := by
  refine validateTopology_passed_iff.2 ⟨?_, ?_, ?_, ?_⟩
  · exact schemaChecks_passed_iff.2 ⟨rfl, recordErrors_quiet _⟩
  · exact invariantChecks_passed_iff.2 ⟨rfl, rfl, sameEntries_self _,
      fun entry hentry => duplicates_eq_nil_iff.2 (h.ids entry hentry), h.endpoints, h.revisions,
      h.paths, h.conflicts⟩
  · exact evidenceChecks_passed_iff.2 ⟨h.evidence, h.backed, h.inference⟩
  · have hinputs : (statePacket c state).inputs = validatedInputs := rfl
    have hdiagnosed : (validatedBundle payload).diagnostics = [] := h.diagnosed
    have hcount : inputDiagnosticCount [validatedBundle payload] = 0 := by
      simp [inputDiagnosticCount, hdiagnosed]
    have hsources : expectedDiagnosticSources [validatedBundle payload] = [] := by
      simp [expectedDiagnosticSources, hdiagnosed]
    refine crossReferenceChecks_passed_iff.2 ⟨⟨hcount.trans h.diagnostics.symm, ?_⟩,
      ⟨h.evidenced, h.claimed, h.stated⟩, ?_, rfl, ?_⟩
    · rw [hsources]
      exact List.forall_mem_nil _
    · rw [inputMismatch, packetRefs, hinputs]
      rfl
    · rw [referenceMismatches, packetRefs, hinputs]
      rfl

/-! ## What a measurement cites -/

/-- The evidence of both repositories. -/
def linkEvidence : EvidenceRecord where
  evidenceId := "evidence:1"
  subjectId := "repo:a"
  field := none
  stage := "observe"
  evidenceClass := .observed
  sourceType := .file
  sourceRef :=
    { packetId := some "packet:in"
      sourcePath_portable := noPath_portable
      lineNumber_positive := noLine_positive
      locator_valid := noLocator_valid
      lineNumber_agrees := noLocator_agrees }
  value := .null
  confidence := .deterministic
  producer := "repo-model"
  producerVersion := "1.0.0"
  createdAt := ⟨"1970-01-01T00:00:00Z"⟩

/-- A repository and what it depends on. -/
def linkedRepository (repositoryId : String) (upstream : List String) : RepositoryRecord where
  repositoryId := repositoryId
  name := "repository"
  sourceRevision := "r1"
  packetRef := "packet:in"
  upstreamRepositoryIds := upstream
  evidenceRefs := ["evidence:1"]

/-- One depends on the other. -/
def linkedRepositories : List RepositoryRecord :=
  [linkedRepository "repo:a" ["repo:b"], linkedRepository "repo:b" []]

/-- Two repositories, one of which depends on the other, and a measurement citing `refs`. -/
def measuredState (refs : List String) : TopologyState where
  repositoryRecords := linkedRepositories
  edgeRecords :=
    [{ edgeId := "edge:1"
       sourceId := "repo:a"
       targetId := "repo:b"
       edgeType := .dependsOn
       evidenceRefs := ["evidence:1"] }]
  graphRecords :=
    [{ recordType := .node, label := "Repository", entityId := "repo:a",
       evidenceRefs := ["evidence:1"] },
      { recordType := .node, label := "Repository", entityId := "repo:b",
        evidenceRefs := ["evidence:1"] },
      { recordType := .edge, label := "DEPENDS_ON", entityId := "edge:1",
        evidenceRefs := ["evidence:1"] }]
  evidence := [linkEvidence]
  readinessEvidence :=
    [{ readinessId := "readiness:1"
       subjectId := "candidate:1"
       profileId := "readiness"
       profileVersion := "1.0.0"
       evidenceRefs := refs
       confidence := { ConfidenceAssessment.unknown with authority := .derived }
       authority_not_source := by decide }]

/-- The payload that states them. -/
def measuredPayload : RepositoryModelPayload where
  repositories := linkedRepositories
  evidence := [linkEvidence]

/-- Validation passes whatever the measurement cites. -/
theorem measured_passed (c : Codec) (refs : List String) :
    (validateTopology (statePacket c (measuredState refs)) (measuredState refs)
      [validatedBundle measuredPayload] [] c quietEngine ⟨"1970-01-01T00:00:00Z"⟩).status =
        .passed := by
  have hpassable : Passable measuredPayload (measuredState refs) :=
    { ids := by simp [idSets, measuredState, linkedRepositories, linkedRepository]
      endpoints := by rfl
      revisions := by rfl
      paths := by rfl
      conflicts := by rfl
      evidence := by rfl
      backed := by rfl
      inference := by rfl
      diagnosed := rfl
      diagnostics := rfl
      evidenced := rfl
      claimed := rfl
      stated := rfl }
  exact hpassable.passed c

/-- A state whose every reference is to the evidence it holds passes, and is closed. -/
theorem validated_references_closed_measured :
    (validateTopology (statePacket textCodec (measuredState ["evidence:1"]))
        (measuredState ["evidence:1"]) [validatedBundle measuredPayload] [] textCodec quietEngine
        ⟨"1970-01-01T00:00:00Z"⟩).status = .passed ∧
      ReferencesClosed (measuredState ["evidence:1"]) := by
  have hunwalked : UnwalkedResolve (measuredState ["evidence:1"]) :=
    { corpora := List.forall_mem_nil _
      roots := List.forall_mem_nil _
      candidateRelations := List.forall_mem_nil _
      candidateClusters := List.forall_mem_nil _
      readiness := List.forall_mem_singleton.2 (List.forall_mem_singleton.2 List.mem_cons_self)
      reasoning := List.forall_mem_nil _ }
  exact ⟨measured_passed textCodec _,
    (validated_references_closed_iff textCodec quietEngine _ _ _ _ _
      (measured_passed textCodec _)).2 hunwalked⟩

/-- A measurement that cites a record no one made passes validation. -/
theorem validated_reference_dangles :
    (validateTopology (statePacket textCodec (measuredState ["evidence:missing"]))
        (measuredState ["evidence:missing"]) [validatedBundle measuredPayload] [] textCodec
        quietEngine ⟨"1970-01-01T00:00:00Z"⟩).status = .passed ∧
      ¬ ReferencesClosed (measuredState ["evidence:missing"]) := by
  refine ⟨measured_passed textCodec _, fun hclosed => ?_⟩
  have hresolves := hclosed.readiness _ List.mem_cons_self
  exact absurd (hresolves "evidence:missing" List.mem_cons_self)
    (by simp [evidenceIds, measuredState, linkEvidence])

end ConstellationTopology
