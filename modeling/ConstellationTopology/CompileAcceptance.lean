import ConstellationTopology.CompileResult
import ConstellationTopology.Packets.CorpusSoundness
import ConstellationTopology.Topology.GraphMirror

set_option autoImplicit false

/-! # What a compile can be refused for

`validate_topology` checks much that the stages settle by construction: the hashes of the packet,
the input references, the conservation of diagnostics and claims, the portability of paths and the
identities of repositories, capabilities, claims and edges. What is left, with the soundness of the
corpora and the receipts of the inputs, is exactly when `compile_topology` returns a result. -/

namespace ConstellationTopology

/-! ## The compiled state -/

section State

variable {env : CompileEnvironment} {configuration : ResolvedConfiguration}
  {inputs : List RepositoryInput} {corpora : List CorpusAnalysisPacket} {state : TopologyState}

/-- What the stages are given. -/
def stageInputs (inputs : List RepositoryInput) (corpora : List CorpusAnalysisPacket)
    (taxonomy : List (String × List String)) : CompileInputs where
  packets := inputs.map fun input => input.packet
  corpusPackets := corpusPackets corpora
  roleTaxonomy := taxonomy

/-- A compiled state is that of its stages, with what is derived from them. -/
theorem compileState_eq_ok :
    compileState env configuration inputs corpora = .ok state ↔
      ∃ taxonomy, roleTaxonomyOf env configuration = .ok taxonomy ∧
        ∃ stages, compileStages env.codec env.text (stageInputs inputs corpora taxonomy) =
            .ok stages ∧
          ∃ canonical, canonicalDomains env configuration stages = .ok canonical ∧
            stages.state (withAnalysis env stages corpora canonical) = state := by
  simp only [compileState, bind_eq_ok, pure_eq_ok]
  rfl

end State

/-! ## What the stages settle -/

section Settled

variable {c : Codec} {text : PythonText} {inputs : CompileInputs} {stages : CompiledStages}

/-- An artifact has a normalized path, and such a path is portable. -/
theorem invalidPaths_eq_nil (state : TopologyState) : invalidPaths state = [] := by
  have hportable : ∀ path ∈ state.artifactRecords.map ArtifactRecord.sourcePath,
      ¬ (path.toList.head? = some '/' ∨ path = ".." ∨ "../".toList <+: path.toList) := by
    intro path hpath
    obtain ⟨artifact, -, rfl⟩ := List.mem_map.1 hpath
    obtain ⟨raw, hraw⟩ := artifact.sourcePath_portable
    obtain ⟨-, -, hpure, hup, hclimbs⟩ := normalizeSourcePath_ok_iff.1 hraw
    rintro (habsolute | hdots | hprefix)
    · exact relative_purePosixPath _ (hpure ▸ habsolute)
    · exact hup hdots
    · exact hclimbs hprefix
  have hnone : (state.artifactRecords.map ArtifactRecord.sourcePath).filter (fun path =>
      decide (path.toList.head? = some '/' ∨ path = ".." ∨ "../".toList <+: path.toList)) = [] :=
    List.filter_eq_nil_iff.2 fun path hpath => by simpa using hportable path hpath
  rw [invalidPaths, hnone]
  rfl

theorem compiled_edgeIds (h : compileStages c text inputs = .ok stages) :
    (stages.graph.edges.map EdgeRecord.edgeId).Nodup := by
  obtain ⟨normalized, -, signals, -, rfl⟩ := (compileStages_eq_ok c text).1 h
  exact edges_ids_nodup

theorem aggregatedCapabilities_ids (c : Codec) (records : List CapabilityRecord) :
    ((AggregateCapabilities.run c records).1.map CapabilityRecord.capabilityId).Nodup := by
  have hsublist : ((AggregateCapabilities.run c records).1.map CapabilityRecord.capabilityId).Sublist
      ((sortedSet (records.map CapabilityRecord.capabilityId)).map id) := by
    refine map_filterMap_sublist id _ fun capabilityId record h => ?_
    obtain ⟨first, hfirst, rfl⟩ := Option.map_eq_some_iff.1 h
    exact (mem_groupOf.1 (List.mem_of_head? hfirst)).2
  rw [List.map_id] at hsublist
  exact hsublist.nodup (sortedSet_nodup _)

theorem compiled_capabilityIds (h : compileStages c text inputs = .ok stages) :
    (stages.capabilities.map CapabilityRecord.capabilityId).Nodup := by
  obtain ⟨normalized, -, signals, -, rfl⟩ := (compileStages_eq_ok c text).1 h
  exact aggregatedCapabilities_ids c _

/-- The claims are the reconciled ones, under the stamps of the projectors. -/
theorem compiled_claims (h : compileStages c text inputs = .ok stages) :
    ∃ evidence entities, stages.reconciliation = ReconcileAssertions.run c text.repr
        (compiledInputs inputs.packets inputs.corpusPackets) evidence ∧
      stages.claims = applyProjection entities stages.reconciliation.claims := by
  obtain ⟨normalized, -, signals, -, rfl⟩ := (compileStages_eq_ok c text).1 h
  exact ⟨_, _, rfl, rfl⟩

theorem compiled_claimIds (hc : c.Faithful) (h : compileStages c text inputs = .ok stages) :
    (stages.claims.map SemanticClaimRecord.claimId).Nodup := by
  obtain ⟨evidence, entities, hrun, hclaims⟩ := compiled_claims h
  have hids : stages.claims.map SemanticClaimRecord.claimId =
      (stages.reconciliation.claims.map SemanticClaimRecord.triple).map fun triple =>
        claimId c triple.1 triple.2.1 triple.2.2 := by
    rw [hclaims, applyProjection, List.map_map, List.map_map]
    refine List.map_congr_left fun claim hclaim => ?_
    rw [hrun] at hclaim
    obtain ⟨statement, -, rfl⟩ := (ReconcileAssertions.mem_claims c).1 hclaim
    rfl
  rw [hids, hrun]
  refine (ReconcileAssertions.claims_nodup c).map fun triple triple' heq => ?_
  have hsemantic := (hc.stableId_inj "claim").1 heq
  have hsubject := Json.str.inj (Json.field_of_semantic_eq hsemantic "subject_id" rfl rfl)
  have hpredicate := Json.str.inj (Json.field_of_semantic_eq hsemantic "predicate" rfl rfl)
  have hobject := Json.str.inj (Json.field_of_semantic_eq hsemantic "object" rfl rfl)
  exact Prod.ext hsubject (Prod.ext hpredicate hobject)

/-- The claims name the statements of the inputs, and no others. -/
theorem compiled_sources (h : compileStages c text inputs = .ok stages) (id : String) :
    id ∈ stages.claims.flatMap SemanticClaimRecord.sourceAssertionIds ↔
      id ∈ (compiledInputs inputs.packets inputs.corpusPackets).map SemanticInput.inputId := by
  obtain ⟨evidence, entities, hrun, hclaims⟩ := compiled_claims h
  have hsame : stages.claims.flatMap SemanticClaimRecord.sourceAssertionIds =
      stages.reconciliation.claims.flatMap SemanticClaimRecord.sourceAssertionIds := by
    rw [hclaims, applyProjection, List.flatMap_map]
    rfl
  rw [hsame, hrun, List.mem_flatMap, List.mem_map]
  constructor
  · rintro ⟨claim, hclaim, hid⟩
    obtain ⟨statement, hstatement, -, heq⟩ := (ReconcileAssertions.sources c hclaim id).1 hid
    exact ⟨statement, hstatement, heq⟩
  · rintro ⟨statement, hstatement, heq⟩
    have hclaims : statement.triple ∈ (ReconcileAssertions.run c text.repr
        (compiledInputs inputs.packets inputs.corpusPackets) evidence).claims.map
          SemanticClaimRecord.triple :=
      (ReconcileAssertions.claims_exact c _).2 (List.mem_map_of_mem hstatement)
    obtain ⟨claim, hclaim, htriple⟩ := List.mem_map.1 hclaims
    exact ⟨claim, hclaim,
      (ReconcileAssertions.sources c hclaim id).2 ⟨statement, hstatement, htriple.symm, heq⟩⟩

/-- A packet the stages were run on was accepted by its adapter. -/
theorem compileStages_accepts (h : compileStages c text inputs = .ok stages) :
    ∀ packet ∈ inputs.packets, RepositoryModelV1Adapter.Accepts c packet := by
  obtain ⟨normalized, hnormalized, -⟩ := (compileStages_eq_ok c text).1 h
  exact (normalizeModels_eq_ok.1 hnormalized).1

/-- The diagnostics of the inputs, each under the packet that made it. -/
theorem compiled_diagnostics (h : compileStages c text inputs = .ok stages) :
    stages.normalized.diagnostics = inputs.packets.flatMap (adaptedDiagnostics c text) := by
  obtain ⟨normalized, hnormalized, signals, -, rfl⟩ := (compileStages_eq_ok c text).1 h
  obtain ⟨-, evidence, -, rfl⟩ := normalizeModels_eq_ok.1 hnormalized
  rfl

/-- The compiler's own diagnostics are not counted as preserved. -/
theorem compiled_translated (h : compileStages c text inputs = .ok stages) :
    ∀ diagnostic ∈ stages.reconciliation.diagnostics, diagnostic.disposition ≠ .preserved := by
  obtain ⟨evidence, entities, hrun, -⟩ := compiled_claims h
  intro diagnostic hdiagnostic
  rw [hrun] at hdiagnostic
  obtain ⟨statement, -, -, rfl⟩ := (ReconcileAssertions.mem_diagnostics c).1 hdiagnostic
  exact Disposition.noConfusion

end Settled

/-! ## The checks that cannot fail -/

section Checks

variable {c : Codec} {text : PythonText} {inputs : CompileInputs} {stages : CompiledStages}
  {derived : DerivedDomains} {bundles : List RepositoryModelBundle}

theorem adaptedDiagnostics_count (bundle : RepositoryModelBundle) :
    (adaptedDiagnostics c text bundle.packet).countP
      (fun diagnostic => diagnostic.disposition = .preserved) = bundle.diagnostics.length := by
  have hall : ∀ diagnostic ∈ adaptedDiagnostics c text bundle.packet,
      decide (diagnostic.disposition = .preserved) = true := by
    intro diagnostic hdiagnostic
    obtain ⟨entry, -, rfl⟩ := List.mem_map.1 hdiagnostic
    rfl
  rw [List.countP_eq_length.2 hall, adaptedDiagnostics, normalizeDiagnostics, List.length_map,
    List.length_zipIdx]
  rfl

theorem adaptedDiagnostics_source (c : Codec) (text : PythonText) {bundle : RepositoryModelBundle}
    (h : bundle.diagnostics ≠ []) : ∃ diagnostic ∈ adaptedDiagnostics c text bundle.packet,
      diagnostic.sourcePacketId = bundle.packet.packetId := by
  obtain ⟨raw, rest, hraws⟩ := List.exists_cons_of_ne_nil h
  refine ⟨normalizeDiagnostic c text.str raw bundle.packet.packetId 0, ?_, rfl⟩
  show _ ∈ normalizeDiagnostics c text.str bundle.diagnostics bundle.packet.packetId
  rw [hraws]
  exact List.mem_map.2 ⟨(raw, 0), by simp [List.zipIdx_cons], rfl⟩

/-- Every diagnostic of the inputs is preserved under its packet. -/
theorem diagnostics_conserved (derived : DerivedDomains)
    (h : compileStages c text inputs = .ok stages)
    (hpackets : inputs.packets = bundles.map fun bundle => bundle.packet) :
    inputDiagnosticCount bundles = preservedDiagnosticCount (stages.state derived) ∧
      ∀ source ∈ expectedDiagnosticSources bundles,
        source ∈ diagnosticSourcePackets (stages.state derived) := by
  have hperm : (stages.state derived).diagnostics.Perm
      (stages.normalized.diagnostics ++ stages.reconciliation.diagnostics) := sortedBy_perm _ _
  have hnormalized : stages.normalized.diagnostics =
      bundles.flatMap fun bundle => adaptedDiagnostics c text bundle.packet := by
    rw [compiled_diagnostics h, hpackets, List.flatMap_map]
  constructor
  · have hnone : stages.reconciliation.diagnostics.countP
        (fun diagnostic => diagnostic.disposition = .preserved) = 0 := by
      rw [List.countP_eq_zero]
      intro diagnostic hdiagnostic
      simpa using compiled_translated h diagnostic hdiagnostic
    rw [preservedDiagnosticCount, hperm.countP_eq, List.countP_append, hnone, Nat.add_zero,
      hnormalized, List.countP_flatMap, inputDiagnosticCount]
    congr 1
    exact List.map_congr_left fun bundle _ => (adaptedDiagnostics_count bundle).symm
  · intro source hsource
    obtain ⟨bundle, hbundle, rfl⟩ := List.mem_map.1 hsource
    obtain ⟨hmem, hdiagnostics⟩ := List.mem_filter.1 hbundle
    obtain ⟨diagnostic, hdiagnostic, hfrom⟩ := adaptedDiagnostics_source c text
      (of_decide_eq_true hdiagnostics)
    refine List.mem_map.2 ⟨diagnostic, hperm.mem_iff.2 (List.mem_append_left _ ?_), hfrom⟩
    rw [hnormalized]
    exact List.mem_flatMap.2 ⟨bundle, hmem, hdiagnostic⟩

end Checks

/-! ## Acceptance -/

/-- What validation still asks of a compiled state, whose inputs made `statements`. -/
structure Publishable (engine : SchemaEngine) (statements : List String) (state : TopologyState) :
    Prop where
  schemas : recordErrors engine state = []
  artifactIds : (state.artifactRecords.map ArtifactRecord.artifactId).Nodup
  flowIds : (state.flowRecords.map FlowRecord.flowId).Nodup
  graphIds : (state.graphRecords.map GraphRecord.entityId).Nodup
  riskIds : (state.risks.map RiskRecord.riskId).Nodup
  unknownIds : (state.unknowns.map UnknownRecord.unknownId).Nodup
  conflictIds : (state.conflicts.map ConflictRecord.conflictId).Nodup
  endpoints : ∀ edge ∈ state.edgeRecords,
    edge.sourceId ∈ nodeIds state ∧ edge.targetId ∈ nodeIds state
  revisions : ∀ record ∈ state.repositoryRecords, record.sourceRevision ≠ ""
  settled : ∀ record ∈ state.conflicts, record.blocking = true → record.resolution.getD "" ≠ ""
  resolved : ∀ entry ∈ recordEvidenceRefs state, Resolves state entry.2.1
  backed : ∀ entry ∈ recordEvidenceRefs state, ∀ authority ∈ entry.2.2,
    authority ∈ backedAuthorities → entry.2.1 ≠ []
  labelled : ∀ record ∈ state.evidence,
    record.sourceType = .inference → record.evidenceClass ≠ .declared
  evidenced : ∀ statement ∈ statements, statement ∈ evidencedAssertionIds state

section Acceptance

variable {env : CompileEnvironment} {configuration : ResolvedConfiguration}
  {inputs : List RepositoryInput} {corpora : List CorpusAnalysisPacket} {state : TopologyState}
  {engine : SchemaEngine}

theorem sortedBy_id_eq_nil_iff {values : List String} : sortedBy id values = [] ↔ values = [] := by
  rw [← List.length_eq_zero_iff, (sortedBy_perm id values).length_eq, List.length_eq_zero_iff]

theorem revisionsMissing_eq_nil_iff : revisionsMissing state = [] ↔
    ∀ record ∈ state.repositoryRecords, record.sourceRevision ≠ "" := by
  rw [revisionsMissing, sortedBy_id_eq_nil_iff, List.map_eq_nil_iff, List.filter_eq_nil_iff]
  simp only [decide_eq_true_eq, ne_eq]

theorem blockingConflicts_eq_nil_iff : blockingConflicts state = [] ↔
    ∀ record ∈ state.conflicts, record.blocking = true → record.resolution.getD "" ≠ "" := by
  rw [blockingConflicts, sortedBy_id_eq_nil_iff, List.map_eq_nil_iff, List.filter_eq_nil_iff]
  simp only [decide_eq_true_eq, not_and, ne_eq]

theorem missingRequiredEvidence_eq_nil_iff : missingRequiredEvidence state = [] ↔
    ∀ entry ∈ recordEvidenceRefs state, ∀ authority ∈ entry.2.2,
      authority ∈ backedAuthorities → entry.2.1 ≠ [] := by
  rw [missingRequiredEvidence, List.map_eq_nil_iff, List.filter_eq_nil_iff]
  simp only [decide_eq_true_eq, not_and, forall_exists_index, and_imp, ne_eq]

theorem badInference_eq_nil_iff : badInference state = [] ↔
    ∀ record ∈ state.evidence,
      record.sourceType = .inference → record.evidenceClass ≠ .declared := by
  rw [badInference, sortedBy_id_eq_nil_iff, List.map_eq_nil_iff, List.filter_eq_nil_iff]
  simp only [decide_eq_true_eq, not_and, ne_eq]

theorem sortedDifference_eq_nil_iff {left right : List String} :
    sortedDifference left right = [] ↔ ∀ value ∈ left, value ∈ right := by
  simp [sortedDifference, List.filter_eq_nil_iff]

/-- The statements of the inputs are those the stages reconcile. -/
theorem inputAssertionIds_eq (inputs : List RepositoryInput)
    (corpora : List CorpusIntelligencePacket) :
    inputAssertionIds (inputs.map RepositoryInput.toRepositoryModelBundle)
        (corpora.map CorpusIntelligenceBundle.mk) =
      (compiledInputs (inputs.map fun input => input.packet) corpora).map
        SemanticInput.inputId := by
  simp only [inputAssertionIds, compiledInputs, signalSemanticInputs, List.map_append,
    List.map_flatMap, List.map_map, List.flatMap_map]
  rfl

/-- The receipts of the inputs, and the evidence of their statements, are all that the comparison
with the inputs can refuse. -/
theorem crossReferences_passed_iff {taxonomy : List (String × List String)}
    {stages : CompiledStages} (derived : DerivedDomains) {packet : TopologyPacket}
    (h : compileStages env.codec env.text (stageInputs inputs corpora taxonomy) = .ok stages)
    (hinputs : packet.inputs = topologyInputs inputs corpora) :
    NoneFailed (crossReferenceChecks packet (stages.state derived)
        (inputs.map RepositoryInput.toRepositoryModelBundle)
        ((corpusPackets corpora).map CorpusIntelligenceBundle.mk)) ↔
      (∀ input ∈ inputs, input.packet.validation.status = .passed ∧
        input.receipt.status = .passed) ∧
      ∀ statement ∈ inputAssertionIds (inputs.map RepositoryInput.toRepositoryModelBundle)
          ((corpusPackets corpora).map CorpusIntelligenceBundle.mk),
        statement ∈ evidencedAssertionIds (stages.state derived) := by
  have hpackets : (stageInputs inputs corpora taxonomy).packets =
      (inputs.map RepositoryInput.toRepositoryModelBundle).map fun bundle => bundle.packet := by
    rw [List.map_map]
    rfl
  have hdiagnostics := diagnostics_conserved derived h hpackets
  have hclaimed : ∀ id, id ∈ claimedAssertionIds (stages.state derived) ↔
      id ∈ inputAssertionIds (inputs.map RepositoryInput.toRepositoryModelBundle)
        ((corpusPackets corpora).map CorpusIntelligenceBundle.mk) := by
    intro id
    rw [inputAssertionIds_eq]
    refine Iff.trans ?_ (compiled_sources h id)
    exact ((sortedBy_perm SemanticClaimRecord.claimId stages.claims).flatMap_right _).mem_iff
  simp only [crossReferenceChecks_passed_iff, sortedDifference_eq_nil_iff, failedParents_eq_nil_iff,
    inputMismatch_eq_nil hinputs, hclaimed]
  constructor
  · rintro ⟨-, ⟨hevidenced, -⟩, -, hpassed, -⟩
    exact ⟨hpassed, hevidenced⟩
  · rintro ⟨hpassed, hevidenced⟩
    exact ⟨hdiagnostics, ⟨hevidenced, fun _ hid => hid, fun _ hid => hid⟩, trivial, hpassed,
      referenceMismatches_eq_nil hinputs fun input hinput => (hpassed input hinput).1⟩

/-- The identities that the stages do not settle, and the rest of the invariants. -/
theorem invariants_passed_iff (hc : env.codec.Faithful) {taxonomy : List (String × List String)}
    {stages : CompiledStages} (derived : DerivedDomains)
    (h : compileStages env.codec env.text (stageInputs inputs corpora taxonomy) = .ok stages)
    (configuration : ResolvedConfiguration) (profile : ProfileRef) (createdAt : Timestamp) :
    NoneFailed (invariantChecks env.codec (validateState env configuration profile inputs corpora
        createdAt (stages.state derived)).1 (stages.state derived)) ↔
      (((stages.state derived).artifactRecords.map ArtifactRecord.artifactId).Nodup ∧
        ((stages.state derived).flowRecords.map FlowRecord.flowId).Nodup ∧
        ((stages.state derived).graphRecords.map GraphRecord.entityId).Nodup ∧
        ((stages.state derived).risks.map RiskRecord.riskId).Nodup ∧
        ((stages.state derived).unknowns.map UnknownRecord.unknownId).Nodup ∧
        ((stages.state derived).conflicts.map ConflictRecord.conflictId).Nodup) ∧
      unresolvedEndpoints (stages.state derived) = [] ∧
      revisionsMissing (stages.state derived) = [] ∧
      blockingConflicts (stages.state derived) = [] := by
  have hsorted : ∀ {α : Type} (id : α → String) (records : List α),
      ((sortedBy id records).map id).Nodup ↔ (records.map id).Nodup :=
    fun id records => ((sortedBy_perm id records).map id).nodup_iff
  have hrepositories : ((stages.state derived).repositoryRecords.map
      RepositoryRecord.repositoryId).Nodup := (hsorted _ _).2 (compiled_distinct h).ids
  have hcapabilities : ((stages.state derived).capabilityRecords.map
      CapabilityRecord.capabilityId).Nodup := (hsorted _ _).2 (compiled_capabilityIds h)
  have hclaims : ((stages.state derived).semanticClaims.map SemanticClaimRecord.claimId).Nodup :=
    (hsorted _ _).2 (compiled_claimIds hc h)
  have hedges : ((stages.state derived).edgeRecords.map EdgeRecord.edgeId).Nodup :=
    (hsorted _ _).2 (compiled_edgeIds h)
  have hids : (∀ entry ∈ idSets (stages.state derived), duplicates entry.2.2 = []) ↔
      ((stages.state derived).artifactRecords.map ArtifactRecord.artifactId).Nodup ∧
        ((stages.state derived).flowRecords.map FlowRecord.flowId).Nodup ∧
        ((stages.state derived).graphRecords.map GraphRecord.entityId).Nodup ∧
        ((stages.state derived).risks.map RiskRecord.riskId).Nodup ∧
        ((stages.state derived).unknowns.map UnknownRecord.unknownId).Nodup ∧
        ((stages.state derived).conflicts.map ConflictRecord.conflictId).Nodup := by
    simp only [idSets, duplicates_eq_nil_iff, List.forall_mem_cons, List.not_mem_nil,
      false_implies, implies_true, and_true, hrepositories, hcapabilities, hclaims, hedges,
      true_and]
  rw [invariantChecks_passed_iff, hids, invalidPaths_eq_nil]
  constructor
  · rintro ⟨-, -, -, hunique, hendpoints, hrevisions, -, hsettled⟩
    exact ⟨hunique, hendpoints, hrevisions, hsettled⟩
  · rintro ⟨hunique, hendpoints, hrevisions, hsettled⟩
    exact ⟨identified_semanticHash _ _, identified_packetId _ _, sameEntries_self _, hunique,
      hendpoints, hrevisions, rfl, hsettled⟩

theorem validateState_receipt (profile : ProfileRef) (createdAt : Timestamp) :
    (validateState env configuration profile inputs corpora createdAt state).2 =
      validateTopology (validateState env configuration profile inputs corpora createdAt state).1
        state (inputs.map RepositoryInput.toRepositoryModelBundle)
        ((corpusPackets corpora).map CorpusIntelligenceBundle.mk) env.codec env.engine
        createdAt := rfl

/-- A state of the stages passes validation if its packet has the schema, the inputs were passed, and
it is publishable. -/
theorem validateStages_passed_iff (hc : env.codec.Faithful) {taxonomy : List (String × List String)}
    {stages : CompiledStages} (derived : DerivedDomains)
    (h : compileStages env.codec env.text (stageInputs inputs corpora taxonomy) = .ok stages)
    (configuration : ResolvedConfiguration) (profile : ProfileRef) (createdAt : Timestamp) :
    (validateState env configuration profile inputs corpora createdAt
        (stages.state derived)).2.status = .passed ↔
      env.engine.packetErrors (validateState env configuration profile inputs corpora createdAt
          (stages.state derived)).1 = [] ∧
        (∀ input ∈ inputs, input.packet.validation.status = .passed ∧
          input.receipt.status = .passed) ∧
        Publishable env.engine (inputAssertionIds
          (inputs.map RepositoryInput.toRepositoryModelBundle)
          ((corpusPackets corpora).map CorpusIntelligenceBundle.mk)) (stages.state derived) := by
  have hinputs : (validateState env configuration profile inputs corpora createdAt
      (stages.state derived)).1.inputs = topologyInputs inputs corpora := rfl
  have hcross := crossReferences_passed_iff derived h hinputs
  have hinvariant := invariants_passed_iff hc derived h configuration profile createdAt
  rw [validateState_receipt, validateTopology_passed_iff, hcross, hinvariant,
    schemaChecks_passed_iff, evidenceChecks_passed_iff, unresolvedEndpoints_eq_nil_iff,
    revisionsMissing_eq_nil_iff, blockingConflicts_eq_nil_iff, unresolvedEvidence_eq_nil_iff,
    missingRequiredEvidence_eq_nil_iff, badInference_eq_nil_iff]
  constructor
  · rintro ⟨⟨hpacket, hrecords⟩, ⟨⟨hartifacts, hflows, hgraph, hrisks, hunknowns, hconflicts⟩,
      hendpoints, hrevisions, hsettled⟩, ⟨hresolved, hbacked, hlabelled⟩, hpassed, hevidenced⟩
    exact ⟨hpacket, hpassed, hrecords, hartifacts, hflows, hgraph, hrisks, hunknowns, hconflicts,
      hendpoints, hrevisions, hsettled, hresolved, hbacked, hlabelled, hevidenced⟩
  · rintro ⟨hpacket, hpassed, h⟩
    exact ⟨⟨hpacket, h.schemas⟩, ⟨⟨h.artifactIds, h.flowIds, h.graphIds, h.riskIds, h.unknownIds,
      h.conflictIds⟩, h.endpoints, h.revisions, h.settled⟩, ⟨h.resolved, h.backed, h.labelled⟩,
      hpassed, h.evidenced⟩

/-- So does a compiled state. -/
theorem validateState_passed_iff (hc : env.codec.Faithful)
    (h : compileState env configuration inputs corpora = .ok state) (profile : ProfileRef)
    (createdAt : Timestamp) :
    (validateState env configuration profile inputs corpora createdAt state).2.status = .passed ↔
      env.engine.packetErrors
          (validateState env configuration profile inputs corpora createdAt state).1 = [] ∧
        (∀ input ∈ inputs, input.packet.validation.status = .passed ∧
          input.receipt.status = .passed) ∧
        Publishable env.engine (inputAssertionIds
          (inputs.map RepositoryInput.toRepositoryModelBundle)
          ((corpusPackets corpora).map CorpusIntelligenceBundle.mk)) state := by
  obtain ⟨taxonomy, -, stages, hstages, canonical, -, rfl⟩ := compileState_eq_ok.1 h
  exact validateStages_passed_iff hc _ hstages configuration profile createdAt

theorem mem_declaredModels {corpus : CorpusAnalysisPacket} {packets : List RepositoryModelPacket}
    {packetId : String} (h : packetId ∈ loadedPackets (declaredModels corpus packets)) :
    packetId ∈ loadedPackets packets := by
  obtain ⟨packet, hpacket, rfl⟩ := List.mem_map.1 h
  exact List.mem_map_of_mem (List.mem_of_mem_filter hpacket)

/-- A sound corpus declares loaded packets only, so what is looked up first cannot be missing. -/
theorem checkCorpusInput_eq_ok_iff {packets : List RepositoryModelPacket}
    {corpus : CorpusAnalysisPacket} {u : Unit} :
    checkCorpusInput env packets corpus = .ok u ↔ ∃ payload, corpus.payload = some payload ∧
      CorpusSound corpus (declaredModels corpus packets) payload := by
  simp only [checkCorpusInput, bind_eq_ok, demand_eq_ok, mapError_eq_ok, validateCorpus_eq_ok_iff,
    absentFrom_eq_nil_iff]
  constructor
  · rintro ⟨_, -, hsound⟩
    exact hsound
  · rintro ⟨payload, hpayload, hsound⟩
    exact ⟨(), fun packetId hid => mem_declaredModels ((hsound.roots.loaded packetId).1 hid),
      payload, hpayload, hsound⟩

theorem checkCorpusInputs_eq_ok_iff {packets : List RepositoryModelPacket} :
    checkCorpusInputs env corpora packets = .ok () ↔ ∀ corpus ∈ corpora,
      ∃ payload, corpus.payload = some payload ∧
        CorpusSound corpus (declaredModels corpus packets) payload := by
  simp only [checkCorpusInputs, bind_eq_ok, pure_eq_ok]
  constructor
  · rintro ⟨units, hunits, -⟩ corpus hcorpus
    obtain ⟨u, hu⟩ := exists_of_mem_mapM hunits hcorpus
    exact checkCorpusInput_eq_ok_iff.1 hu
  · intro h
    obtain ⟨units, hunits⟩ := exists_mapM_eq_ok fun corpus hcorpus =>
      ⟨(), checkCorpusInput_eq_ok_iff.2 (h corpus hcorpus)⟩
    exact ⟨units, hunits, trivial⟩

end Acceptance

/-! ## A compile over a corpus

The notes are one file, observed as a root that no repository holds. Their corpus may propose the
file as a topic. -/

theorem plan_portable : ∃ raw, normalizeSourcePath raw = .ok "PLAN" :=
  ⟨"PLAN", normalizeSourcePath_name (by simp) (by simp) (by simp) (by decide) (by decide) (by decide)⟩

/-- A file of the root, which no repository holds. -/
def planArtifact : ArtifactRecord where
  artifactId := "artifact:plan"
  repositoryId := "root:notes"
  sourcePath := "PLAN"
  artifactType := "document"
  contentHash := "sha256:11"
  evidenceRefs := ["observed:plan"]
  packetRef := "packet:notes"
  sourcePath_portable := plan_portable

/-- What was observed of it. -/
def planEvidence : EvidenceRecord where
  evidenceId := "observed:plan"
  subjectId := "artifact:plan"
  field := none
  stage := "observe"
  evidenceClass := .observed
  sourceType := .file
  sourceRef := packetSourceRef "packet:notes" none none
  value := .null
  confidence := .unknown
  producer := "observer"
  producerVersion := "1.0.0"
  createdAt := canonicalCreatedAt

/-- The packet of the file, before it has a hash. -/
def planPacket : RepositoryModelPacket where
  packetId := "packet:notes"
  repositoryId := "root:notes"
  revision := "r1"
  snapshotHash := "sha256:snapshot"
  producer := ⟨"observer", "1.0.0"⟩
  profile := ⟨"repo-model", "1.0.0", "sha256:profile"⟩
  schemaHash := "sha256:schema"
  semanticHash := "sha256:pending"
  payload := some { artifacts := [planArtifact], evidence := [planEvidence] }

/-- The packet under its own hash, with the receipt about it. -/
def planInput (c : Codec) : RepositoryInput where
  packet := planPacket.identified c
  receipt :=
    { receiptId := "receipt:notes"
      subjectPacketId := "packet:notes"
      subjectSemanticHash := (planPacket.identified c).semanticHash
      validator := ⟨"observer", "1.0.0"⟩
      status := .passed
      createdAt := canonicalCreatedAt
      semanticHash := "sha256:receipt" }

/-- The root of the files, as the corpus binds the packet. -/
def notesRoot (c : Codec) : CorpusRootRef where
  rootId := "root:notes"
  identityClass := .declared
  sourceRevision := "r1"
  repositoryModelPacket := packetRef (planInput c)

theorem notesRoot_nodup (c : Codec) : ([notesRoot c].map CorpusRootRef.rootId).Nodup :=
  List.nodup_singleton _

/-- The corpus of the one root. -/
def notesCorpus (c : Codec) : CorpusDescriptor where
  corpusId := "corpus:notes"
  corpusSourceSnapshotId := "snapshot:notes"
  corpusAnalysisId := "analysis:notes"
  rootRefs := [notesRoot c]
  coverage := ⟨1, 1, 0, 1, 0, 0, 1, 1, 1, 0, 0⟩
  rootIds_nodup := notesRoot_nodup c

/-- The topic the file may be proposed for. -/
def planTopic : CandidateCluster where
  candidateId := "candidate:topic"
  candidateType := .topicCandidate
  memberArtifactIds := ["artifact:plan"]
  confidenceClass := .strong
  analysisProfile := ⟨"topics", "1.0.0", "sha256:topics"⟩
  members_nonempty := List.cons_ne_nil _ _

section Notes

variable (c : Codec) (topics : List CandidateCluster) (h : topics.Sublist [planTopic])

theorem notesTopics_type (h : topics.Sublist [planTopic]) :
    ∀ candidate ∈ topics, candidate.candidateType = .topicCandidate := by
  intro candidate hcandidate
  rw [List.mem_singleton.1 (h.subset hcandidate)]
  rfl

theorem noProjects_type : ∀ candidate ∈ ([] : List CandidateCluster),
    candidate.candidateType = .projectCandidate := List.forall_mem_nil _

theorem noConsolidations_type : ∀ candidate ∈ ([] : List CandidateCluster),
    candidate.candidateType = .consolidationCandidate := List.forall_mem_nil _

/-- The topics that are proposed, beside nothing else. -/
def notesPayload : CorpusIntelligencePayload where
  topicCandidates := topics
  topicCandidates_type := notesTopics_type topics h
  projectCandidates_type := noProjects_type
  consolidationCandidates_type := noConsolidations_type

theorem notes_stated : DomainsStated "1.0.0" none := .inl ⟨rfl, rfl⟩

theorem notes_domains : ∀ statements ∈ (none : Option (List CorpusDomainNotRun)),
    (statements.map CorpusDomainNotRun.domain).Nodup := by
  simp

theorem notes_inputs : ∀ ref ∈ [packetRef (planInput c)],
    ref.packetType = "l9.repository-model" := by
  simp [packetRef]

theorem notes_roots : ∀ root ∈ (notesCorpus c).rootRefs,
    root.repositoryModelPacket.packetType = "l9.repository-model" ∧
      root.repositoryModelPacket.packetId ∈ [packetRef (planInput c)].map PacketRef.packetId := by
  simp [notesCorpus, notesRoot, packetRef]

/-- The packet of the analysis. -/
def notesPacket : CorpusAnalysisPacket where
  packetId := "packet:analysis"
  producer := ⟨"analyzer", "1.0.0"⟩
  corpus := notesCorpus c
  payload := some (notesPayload topics h)
  domains_nodup := notes_domains
  inputs := [packetRef (planInput c)]
  validation := ⟨.passed, none⟩
  semanticHash := "sha256:analysis"
  version_stated := notes_stated
  inputs_type := notes_inputs c
  roots_type := fun root hroot => (notes_roots c root hroot).1
  roots_declared := fun root hroot => (notes_roots c root hroot).2

theorem notes_declared : declaredModels (notesPacket c topics h) [(planInput c).packet] =
    [(planInput c).packet] := by
  have hid : (planInput c).packet.packetId ∈ (notesPacket c topics h).inputIds :=
    List.mem_cons_self
  exact List.filter_eq_self.2 (List.forall_mem_singleton.2 (decide_eq_true hid))

theorem notes_sound : CorpusSound (notesPacket c topics h)
    (declaredModels (notesPacket c topics h) [(planInput c).packet]) (notesPayload topics h) := by
  rw [notes_declared]
  have hpayload : payloadCandidates (notesPayload topics h) = topics := by
    simp [payloadCandidates, notesPayload]
  constructor
  · refine ⟨fun packetId => Iff.rfl, List.forall_mem_singleton.2 ?_, ?_⟩
    · exact ⟨(planInput c).packet, rfl, rfl, fun revision hrevision =>
        (Option.some.inj hrevision).symm⟩
    · exact fun packetId hpacket => hpacket
  · exact fun _ hsignal => absurd hsignal List.not_mem_nil
  · exact ⟨fun _ hrelation => absurd hrelation List.not_mem_nil,
      fun _ hleft => absurd hleft List.not_mem_nil⟩
  · exact fun _ hrelation => absurd hrelation List.not_mem_nil
  · intro candidate hcandidate
    rw [hpayload] at hcandidate
    obtain rfl := List.mem_singleton.1 (h.subset hcandidate)
    exact ⟨fun member hmember => hmember, fun _ hrelation => absurd hrelation List.not_mem_nil⟩
  · exact fun _ hevidence => absurd hevidence List.not_mem_nil
  · exact fun _ hrequest => absurd hrequest List.not_mem_nil
  · exact fun _ hstatement => absurd hstatement List.not_mem_nil

/-- What the packet of the notes hands on. -/
def notesNormalized : NormalizedInputs where
  artifacts := [planArtifact]
  evidence := [planEvidence]

/-- The packet of the analysis as the stages read it. -/
def notesScope : CorpusIntelligencePacket :=
  (notesPacket c topics h).toCorpusIntelligencePacket

/-- The pool: what was observed, and the scope of the corpus. -/
def notesPool : List EvidenceRecord :=
  planEvidence :: corpusScopeEvidenceRecords c (notesScope c topics h)

/-- The corpus, with the evidence about it. -/
def notesCorpusRecord : CorpusRecord :=
  { corpusRecord (notesScope c topics h) with
    evidenceRefs := corpusEvidenceBySubject c [notesScope c topics h] "corpus:notes" }

/-- The root, with the evidence about it. -/
def notesRootRecord : RootRecord :=
  { rootRecord (notesRoot c) with
    evidenceRefs := corpusEvidenceBySubject c [notesScope c topics h] "root:notes" }

/-- The stages over the notes. -/
def notesStages : CompiledStages where
  normalized := notesNormalized
  signalEvidence := corpusScopeEvidenceRecords c (notesScope c topics h)
  statements := []
  evidence := ReconcileEvidence.run c plainText.str (notesPool c topics h)
  declaredUnknowns := []
  repositories := []
  repositoryConflicts := []
  repositoryUnknowns := []
  reconciliation := ⟨[], [], [], []⟩
  projection := ⟨[], [], [], Table.empty⟩
  work := ⟨[], [], [], Table.empty⟩
  claims := []
  capabilities := []
  capabilityConflicts := []
  corpusRecords := [notesCorpusRecord c topics h]
  rootRecords := [notesRootRecord c topics h]
  corpusUnknowns := []
  duplicateEdges := []
  corpusGraph := corpusScopeGraph c [notesCorpusRecord c topics h] [notesRootRecord c topics h]
  graph := buildTopologyGraph c [] [planArtifact] []
    (corpusScopeGraph c [notesCorpusRecord c topics h] [notesRootRecord c topics h]).2
    (corpusScopeGraph c [notesCorpusRecord c topics h] [notesRootRecord c topics h]).1

theorem notes_stages : compileStages c plainText
    (stageInputs [planInput c] [notesPacket c topics h] []) = .ok (notesStages c topics h) := by
  have haccepted : RepositoryModelV1Adapter.Accepts c (planPacket.identified c) :=
    RepositoryModelPacket.accepts_identified c (by decide) rfl (by decide) rfl
  have hstatements : compiledInputs (stageInputs [planInput c] [notesPacket c topics h] []).packets
      (stageInputs [planInput c] [notesPacket c topics h] []).corpusPackets = [] := rfl
  have hrepositories : AggregateRepositories.run c plainText.lower plainText.repr [] =
    ([], [], []) := rfl
  have hroles : classifyRoles plainText.lower [] [] = [] := rfl
  have hreconciled : ∀ evidence, ReconcileAssertions.run c plainText.repr [] evidence =
    ⟨[], [], [], []⟩ := fun _ => rfl
  have hprojection : projectClaims c plainText.repr [] = ⟨[], [], [], Table.empty⟩ := rfl
  have hwork : projectWorkRelations c [] [planArtifact] = ⟨[], [], [], Table.empty⟩ := rfl
  have hcapabilities : AggregateCapabilities.run c (buildCapabilities [] [planArtifact] [] ++ []) =
    ([], []) := rfl
  have hscope : stampedScope c (stageInputs [planInput c] [notesPacket c topics h] []).corpusPackets =
    ([notesCorpusRecord c topics h], [notesRootRecord c topics h]) := rfl
  have hunknowns : corpusDomainsNotRunUnknowns c plainText.repr
    (stageInputs [planInput c] [notesPacket c topics h] []).corpusPackets = [] := rfl
  have hduplicates : buildDuplicateEdges c (compiledDuplicateRelations
      (stageInputs [planInput c] [notesPacket c topics h] []).corpusPackets)
    (duplicateEvidenceIndex c
      (stageInputs [planInput c] [notesPacket c topics h] []).corpusPackets) = [] := rfl
  refine (compileStages_eq_ok _ _).2 ⟨notesNormalized, normalizeModels_eq_ok.2
    ⟨List.forall_mem_singleton.2 haccepted, [[planEvidence]], rfl, rfl⟩,
    [corpusScopeEvidenceRecords c (notesScope c topics h)], rfl, ?_⟩
  unfold runStages
  rw [List.flatten_cons, List.flatten_nil, List.append_nil, hstatements, hscope, hunknowns,
    hduplicates]
  simp only [notesNormalized, hrepositories, stageInputs, hroles, hreconciled, hprojection, hwork,
    hcapabilities]
  rfl

theorem mem_notesPool {record : EvidenceRecord} : record ∈ notesPool c topics h ↔
    record = planEvidence ∨ record = corpusEvidenceRecord c (notesScope c topics h) ∨
      record = rootEvidenceRecord c (notesScope c topics h) (notesRoot c) := by
  rw [notesPool, List.mem_cons, corpusScopeEvidenceRecords, mem_sortedBy, List.mem_cons]
  simp [notesScope, notesPacket, notesCorpus]

/-- The records are about three subjects, so none contradicts another. -/
theorem notes_undivided (cardinality : Cardinality) : ReconcileEvidence.divergentSlots c cardinality
    (notesPool c topics h) = [] := by
  refine ReconcileEvidence.divergentSlots_eq_nil fun record hrecord other hother hslot hne => ?_
  rcases (mem_notesPool c topics h).1 hrecord with rfl | rfl | rfl <;>
    rcases (mem_notesPool c topics h).1 hother with rfl | rfl | rfl
  · rfl
  · exact absurd rfl hne
  · exact absurd rfl hne
  · exact absurd hslot.symm (Option.some_ne_none _).symm
  · rfl
  · have hsubject : "corpus:notes" = "root:notes" :=
      congrArg (fun key : String ×ₗ String => (ofLex key).1) (Option.some.inj hslot)
    exact absurd hsubject (by decide)
  · exact absurd hslot.symm (Option.some_ne_none _).symm
  · have hsubject : "root:notes" = "corpus:notes" :=
      congrArg (fun key : String ×ₗ String => (ofLex key).1) (Option.some.inj hslot)
    exact absurd hsubject (by decide)
  · rfl

theorem notes_conflicts : (notesStages c topics h).conflicts = [] := by
  show List.map _ (ReconcileEvidence.divergentSlots c .single (notesPool c topics h)) ++ [] ++ []
    ++ [] = []
  rw [notes_undivided]
  rfl

theorem notes_unknowns : (notesStages c topics h).unknowns = [] := by
  show [] ++ List.map _ (ReconcileEvidence.divergentSlots c .unknown (notesPool c topics h)) ++ []
    ++ [] ++ [] ++ [] = []
  rw [notes_undivided]
  rfl

/-- Every record of the pool is kept under its id. -/
theorem notes_evidenceIds {evidenceId : String} :
    evidenceId ∈ (notesStages c topics h).evidence.evidence.map EvidenceRecord.evidenceId ↔
      evidenceId ∈ (notesPool c topics h).map EvidenceRecord.evidenceId := by
  show _ ∈ List.map _ (sortedBy _ _) ↔ _
  rw [((sortedBy_perm _ _).map _).mem_iff]
  exact Table.mem_keys_ofRows

/-- The corpus contains its root, and the root its file. -/
def notesEdges : List EdgeRecord :=
  [containmentEdge c "corpus:notes" "root:notes" corpusConfidence
      (notesCorpusRecord c topics h).evidenceRefs,
    builtEdge c "root:notes" "artifact:plan" .contains ["observed:plan"] planArtifact.confidence]

/-- The corpus, its root and the file. -/
def notesNodes : List GraphRecord :=
  [corpusNode (notesCorpusRecord c topics h), rootNode (notesRootRecord c topics h),
    artifactNode planArtifact]

theorem notes_statedEdges : statedEdges c [] [planArtifact] []
    (corpusScopeGraph c [notesCorpusRecord c topics h] [notesRootRecord c topics h]).2 =
      notesEdges c topics h := rfl

theorem notes_statedNodes : (statedNodes [] [planArtifact] []
    (corpusScopeGraph c [notesCorpusRecord c topics h] [notesRootRecord c topics h]).1).Perm
      (notesNodes c topics h) := by
  have hscope : (corpusScopeGraph c [notesCorpusRecord c topics h]
      [notesRootRecord c topics h]).1.Perm
        [corpusNode (notesCorpusRecord c topics h), rootNode (notesRootRecord c topics h)] :=
    sortedBy_perm _ _
  simpa [statedNodes, notesNodes] using hscope.append_right [artifactNode planArtifact]

theorem mem_notes_edges {edge : EdgeRecord} (hedge : edge ∈ (notesStages c topics h).graph.edges) :
    edge ∈ notesEdges c topics h := by
  rw [← notes_statedEdges]
  exact Table.mem_of_mem_ofRows (mem_sortedBy.1 hedge)

theorem mem_notes_nodes {node : GraphRecord} (hnode : node ∈ (notesStages c topics h).graph.nodes) :
    node ∈ notesNodes c topics h :=
  (notes_statedNodes c topics h).mem_iff.1 (Table.mem_of_mem_ofRows (mem_sortedBy.1 hnode))

theorem notes_nodeIds {entityId : String}
    (hid : entityId ∈ ["corpus:notes", "root:notes", "artifact:plan"]) :
    entityId ∈ (notesStages c topics h).graph.nodes.map GraphRecord.entityId := by
  refine mem_nodes_ids.2 ?_
  exact ((notes_statedNodes c topics h).map _).mem_iff.2 hid

/-- A compiler whose schemas refuse nothing. -/
def plainEnvironment : CompileEnvironment where
  codec := textCodec
  text := plainText
  int := plainInt
  engine := quietEngine
  policies := ⟨"sha256:reconciliation", "sha256:taxonomy", "sha256:predicates"⟩

/-- Profiles without rules. -/
def plainConfiguration : ResolvedConfiguration where
  topologyProfile := .obj [("id", .str "constellation"), ("version", .str "1.0.0")]
  riskProfile := .obj []
  maturityProfile := .obj []
  reportProfile := .obj []
  packetProfile := .obj []
  outputPolicy := .obj []
  profileHash := "sha256:profiles"
  schemaContractHash := "sha256:schemas"

section State

variable (policies : CompilerPolicies)

/-- The environment of the notes. -/
def notesEnvironment : CompileEnvironment :=
  { plainEnvironment with codec := c, policies }

/-- The state that is compiled. -/
def notesState : TopologyState :=
  (notesStages c topics h).state (withAnalysis (notesEnvironment c policies)
    (notesStages c topics h) [notesPacket c topics h] {})

theorem notesState_unknowns : (notesState c topics h policies).unknowns = [] := by
  rw [notesState, CompiledStages.state_unknowns, notes_unknowns, sortedBy_nil]

theorem notesState_conflicts : (notesState c topics h policies).conflicts = [] := by
  rw [notesState, CompiledStages.state_conflicts, notes_conflicts, sortedBy_nil]

theorem notes_flows : buildFlows c (notesStages c topics h).graph.edges = [] := by
  have hnone : dependencyEdges (notesStages c topics h).graph.edges = [] := by
    refine List.filter_eq_nil_iff.2 fun edge hedge => ?_
    have htype : edge.edgeType = .contains := by
      rcases List.mem_cons.1 (mem_notes_edges c topics h hedge) with rfl | hedge
      · rfl
      · rw [List.mem_singleton.1 hedge]
        rfl
    rw [htype]
    decide
  rw [buildFlows, hnone]
  rfl

theorem notes_compileState : compileState (notesEnvironment c policies) plainConfiguration
    [planInput c] [notesPacket c topics h] = .ok (notesState c topics h policies) := by
  refine compileState_eq_ok.2
    ⟨[], rfl, notesStages c topics h, notes_stages c topics h, {}, ?_, rfl⟩
  have hflows := notes_flows c topics h
  simp only [canonicalDomains]
  rw [show (notesEnvironment c policies).codec = c from rfl, hflows]
  rfl

theorem notes_cites {subjectId : String} {record : EvidenceRecord}
    (hrecord : record ∈ corpusScopeEvidenceRecords c (notesScope c topics h))
    (hsubject : record.subjectId = subjectId) :
    corpusEvidenceBySubject c [notesScope c topics h] subjectId ≠ [] ∧
      Resolves (notesState c topics h policies)
        (corpusEvidenceBySubject c [notesScope c topics h] subjectId) := by
  have hflat : [notesScope c topics h].flatMap (corpusScopeEvidenceRecords c) =
      corpusScopeEvidenceRecords c (notesScope c topics h) := List.append_nil _
  constructor
  · refine List.ne_nil_of_mem (a := record.evidenceId) (mem_sortedSet.2 (List.mem_map_of_mem ?_))
    exact mem_groupOf.2 ⟨hflat ▸ hrecord, hsubject⟩
  · intro ref href
    obtain ⟨other, hother, rfl⟩ := List.mem_map.1 (mem_sortedSet.1 href)
    rw [mem_groupOf, hflat] at hother
    show _ ∈ List.map _ (sortedBy _ _)
    rw [((sortedBy_perm _ _).map _).mem_iff]
    exact (notes_evidenceIds c topics h).2 (List.mem_map_of_mem (List.mem_cons_of_mem _ hother.1))

/-- Beside the graph stand the nodes of the topics. -/
theorem notes_candidateGraph : ∃ index readiness, (withAnalysis (notesEnvironment c policies)
    (notesStages c topics h) [notesPacket c topics h] {}).candidateGraph.Perm
      (topics.map fun topic =>
        clusterGraphRecord (compileCandidateCluster index readiness topic)) := by
  refine ⟨(notesStages c topics h).structuralIndex [notesScope c topics h], [], ?_⟩
  have hcandidates : (notesScope c topics h).candidates = topics := by
    show topics ++ [] ++ [] = topics
    rw [List.append_nil, List.append_nil]
  have hclusters : ((notesStages c topics h).candidateClusters [notesScope c topics h] []).Perm
      (topics.map (compileCandidateCluster
        ((notesStages c topics h).structuralIndex [notesScope c topics h]) [])) := by
    show (sortedBy _ _ ++ []).Perm _
    rw [List.append_nil, hcandidates]
    exact sortedBy_perm _ _
  have hgraph := hclusters.map clusterGraphRecord
  rw [List.map_map] at hgraph
  refine (sortedBy_perm _ _).trans ?_
  show (((notesStages c topics h).candidateClusters [notesScope c topics h] []).map
    clusterGraphRecord ++ []).Perm _
  rw [List.append_nil]
  exact hgraph

/-- Of the records that are walked, only the nodes of candidates cite nothing. -/
theorem notes_walk : ∀ entry ∈ recordEvidenceRefs (notesState c topics h policies),
    Resolves (notesState c topics h policies) entry.2.1 ∧
      (entry.2.1 = [] → ∀ authority ∈ entry.2.2, authority ∉ backedAuthorities) := by
  have hcorpus := notes_cites c topics h policies (mem_sortedBy.2 List.mem_cons_self)
    (rfl : (corpusEvidenceRecord c (notesScope c topics h)).subjectId = "corpus:notes")
  have hroot := notes_cites c topics h policies
    (mem_sortedBy.2 (List.mem_cons_of_mem _ List.mem_cons_self))
    (rfl : (rootEvidenceRecord c (notesScope c topics h) (notesRoot c)).subjectId = "root:notes")
  have hplan : ["observed:plan"] ≠ [] ∧
      Resolves (notesState c topics h policies) ["observed:plan"] := by
    refine ⟨List.cons_ne_nil _ _, List.forall_mem_singleton.2 ?_⟩
    show _ ∈ List.map _ (sortedBy _ _)
    rw [((sortedBy_perm _ _).map _).mem_iff]
    exact (notes_evidenceIds c topics h).2 List.mem_cons_self
  have hedges : ∀ edge ∈ notesEdges c topics h, edge.evidenceRefs ≠ [] ∧
      Resolves (notesState c topics h policies) edge.evidenceRefs :=
    List.forall_mem_cons.2 ⟨hcorpus, List.forall_mem_singleton.2 hplan⟩
  have hnodes : ∀ node ∈ notesNodes c topics h, node.evidenceRefs ≠ [] ∧
      Resolves (notesState c topics h policies) node.evidenceRefs :=
    List.forall_mem_cons.2
      ⟨hcorpus, List.forall_mem_cons.2 ⟨hroot, List.forall_mem_singleton.2 hplan⟩⟩
  simp only [recordEvidenceRefs, List.forall_mem_append, List.forall_mem_map, and_assoc]
  rw [notesState_unknowns, notesState_conflicts]
  refine ⟨List.forall_mem_nil _, ?_, List.forall_mem_nil _, List.forall_mem_nil _, ?_,
    List.forall_mem_nil _, ?_, List.forall_mem_nil _, List.forall_mem_nil _, List.forall_mem_nil _,
    List.forall_mem_nil _, List.forall_mem_nil _⟩
  · exact List.forall_mem_singleton.2 ⟨hplan.2, fun hnil => absurd hnil hplan.1⟩
  · intro edge hedge
    obtain ⟨hne, hresolves⟩ := hedges edge (mem_notes_edges c topics h (mem_sortedBy.1 hedge))
    exact ⟨hresolves, fun hnil => absurd hnil hne⟩
  · intro record hrecord
    rcases List.mem_append.1 (((notesStages c topics h).state_graphRecords _).mem_iff.1 hrecord) with
      hgraph | hcandidate
    · rcases List.mem_append.1 hgraph with hnode | hedge
      · obtain ⟨hne, hresolves⟩ := hnodes record (mem_notes_nodes c topics h hnode)
        exact ⟨hresolves, fun hnil => absurd hnil hne⟩
      · obtain ⟨edge, hmem, rfl⟩ := List.mem_map.1 hedge
        obtain ⟨hne, hresolves⟩ := hedges edge (mem_notes_edges c topics h hmem)
        exact ⟨hresolves, fun hnil => absurd hnil hne⟩
    · obtain ⟨index, readiness, hperm⟩ := notes_candidateGraph c topics h policies
      obtain ⟨topic, htopic, rfl⟩ := List.mem_map.1 (hperm.mem_iff.1 hcandidate)
      obtain rfl := List.mem_singleton.1 (h.subset htopic)
      refine ⟨fun _ href => absurd href List.not_mem_nil, fun _ authority hauthority => ?_⟩
      obtain rfl : Authority.candidate = authority := Option.some.inj hauthority
      decide

theorem notes_graphIds :
    ((notesState c topics h policies).graphRecords.map GraphRecord.entityId).Nodup := by
  obtain ⟨index, readiness, hperm⟩ := notes_candidateGraph c topics h policies
  have hcandidates : (((withAnalysis (notesEnvironment c policies) (notesStages c topics h)
      [notesPacket c topics h] {}).candidateGraph).map GraphRecord.entityId).Perm
        (topics.map CandidateCluster.candidateId) := by
    have hids := hperm.map GraphRecord.entityId
    rw [List.map_map] at hids
    exact hids
  have hedges : ∀ edgeId ∈ (notesStages c topics h).graph.edges.map EdgeRecord.edgeId,
      edgeId.toList.head? = some 'e' := by
    intro edgeId hid
    obtain ⟨edge, hedge, rfl⟩ := List.mem_map.1 hid
    rcases List.mem_cons.1 (mem_notes_edges c topics h hedge) with rfl | hedge
    · exact stableEdgeId_head ..
    · rw [List.mem_singleton.1 hedge]
      exact stableEdgeId_head ..
  have hnodes : ∀ nodeId ∈ ["corpus:notes", "root:notes", "artifact:plan"],
      nodeId.toList.head? ≠ some 'e' ∧ nodeId ≠ "candidate:topic" := by decide
  refine (((notesStages c topics h).state_graphRecords _).map GraphRecord.entityId).nodup_iff.2 ?_
  rw [TopologyGraph.graphRecords, List.map_append, List.map_append, List.map_map]
  refine ((hcandidates.append_left _).nodup_iff).2 ?_
  refine List.nodup_append.2 ⟨List.nodup_append.2 ⟨nodes_ids_nodup, edges_ids_nodup, ?_⟩,
    (h.map CandidateCluster.candidateId).nodup (List.nodup_singleton _), ?_⟩
  · intro nodeId hnode edgeId hedge heq
    have hnode := ((notes_statedNodes c topics h).map _).mem_iff.1 (mem_nodes_ids.1 hnode)
    have hhead := hedges edgeId hedge
    rw [← heq] at hhead
    exact absurd hhead (hnodes nodeId hnode).1
  · intro id hid topicId htopic heq
    rw [List.mem_singleton.1 ((h.map CandidateCluster.candidateId).subset htopic)] at heq
    subst heq
    rcases List.mem_append.1 hid with hnode | hedge
    · have hnode := ((notes_statedNodes c topics h).map _).mem_iff.1 (mem_nodes_ids.1 hnode)
      exact absurd rfl (hnodes _ hnode).2
    · exact absurd (hedges _ hedge) (by decide)

theorem notes_publishable : Publishable quietEngine [] (notesState c topics h policies) where
  schemas := recordErrors_quiet _
  artifactIds := List.nodup_singleton _
  flowIds := List.nodup_nil
  graphIds := notes_graphIds c topics h policies
  riskIds := List.nodup_nil
  unknownIds := by
    rw [notesState_unknowns]
    exact List.nodup_nil
  conflictIds := by
    rw [notesState_conflicts]
    exact List.nodup_nil
  endpoints := by
    intro edge hedge
    have hnode : ∀ entityId ∈ ["corpus:notes", "root:notes", "artifact:plan"],
        entityId ∈ nodeIds (notesState c topics h policies) := by
      intro entityId hid
      obtain ⟨node, hnode, rfl⟩ := List.mem_map.1 (notes_nodeIds c topics h hid)
      refine List.mem_map_of_mem (List.mem_filter.2 ⟨?_, ?_⟩)
      · exact ((notesStages c topics h).state_graphRecords _).mem_iff.2
          (List.mem_append_left _ (List.mem_append_left _ hnode))
      · rcases List.mem_cons.1 (mem_notes_nodes c topics h hnode) with rfl | hother
        · rfl
        · rcases List.mem_cons.1 hother with rfl | hother
          · rfl
          · rw [List.mem_singleton.1 hother]
            rfl
    rcases List.mem_cons.1 (mem_notes_edges c topics h (mem_sortedBy.1 hedge)) with rfl | hedge
    · exact ⟨hnode "corpus:notes" (by decide), hnode "root:notes" (by decide)⟩
    · rw [List.mem_singleton.1 hedge]
      exact ⟨hnode "root:notes" (by decide), hnode "artifact:plan" (by decide)⟩
  revisions := List.forall_mem_nil _
  settled := by
    rw [notesState_conflicts]
    exact List.forall_mem_nil _
  resolved := fun entry hentry => (notes_walk c topics h policies entry hentry).1
  backed := fun entry hentry authority hauthority hbacked hnil =>
    (notes_walk c topics h policies entry hentry).2 hnil authority hauthority hbacked
  labelled := by
    intro record hrecord hinference
    have hpool := Table.mem_of_mem_ofRows (mem_sortedBy.1 (mem_sortedBy.1 hrecord))
    rcases (mem_notesPool c topics h).1 hpool with rfl | rfl | rfl <;> cases hinference
  evidenced := List.forall_mem_nil _

theorem notes_passed (hc : c.Faithful) (profile : ProfileRef) (createdAt : Timestamp) :
    (validateState (notesEnvironment c policies) plainConfiguration profile [planInput c]
      [notesPacket c topics h] createdAt (notesState c topics h policies)).2.status = .passed :=
  (validateState_passed_iff hc (notes_compileState c topics h policies) profile createdAt).2
    ⟨rfl, List.forall_mem_singleton.2 ⟨rfl, rfl⟩, notes_publishable c topics h policies⟩

/-- The compile returns a result, whether the topic is proposed or not. -/
theorem notes_compiled (hc : c.Faithful) (createdAt : Option Timestamp) :
    ∃ result, compileTopology (notesEnvironment c policies) plainConfiguration [planInput c]
      [notesPacket c topics h] createdAt = .ok result := by
  refine exists_result_iff.2 ⟨List.cons_ne_nil _ _, checkCorpusInputs_eq_ok_iff.2
    (List.forall_mem_singleton.2 ⟨_, rfl, notes_sound c topics h⟩), _,
    notes_compileState c topics h policies, _, rfl, ?_⟩
  exact notes_passed c topics h policies hc _ _

end State

end Notes

/-! ## Exactly the compiles that return a result -/

section Accepted

variable {env : CompileEnvironment} {configuration : ResolvedConfiguration}
  {inputs : List RepositoryInput} {corpora : List CorpusAnalysisPacket}

/-- **What a compile is refused for.** It returns a result exactly if it was given a packet, every
corpus is sound over the packets it declares, every packet is accepted by its adapter and its
receipt passed, the stages and the profile do not raise, the state is publishable and the packet has
its schema. The rest of what is checked (the hashes, the references to the inputs, the conservation
of diagnostics and claims, the portability of paths, and the identities of repositories,
capabilities, claims and edges) holds of what the stages make. -/
theorem compile_accepted_iff (hc : env.codec.Faithful) (createdAt : Option Timestamp) :
    (∃ result, compileTopology env configuration inputs corpora createdAt = .ok result) ↔
      inputs ≠ [] ∧
        (∀ corpus ∈ corpora, ∃ payload, corpus.payload = some payload ∧
          CorpusSound corpus
            (declaredModels corpus (inputs.map fun input => input.packet)) payload) ∧
        (∀ input ∈ inputs, RepositoryModelV1Adapter.Accepts env.codec input.packet ∧
          input.receipt.status = .passed) ∧
        ∃ state, compileState env configuration inputs corpora = .ok state ∧
          Publishable env.engine (inputAssertionIds
            (inputs.map RepositoryInput.toRepositoryModelBundle)
            ((corpusPackets corpora).map CorpusIntelligenceBundle.mk)) state ∧
          ∃ profile, profileRef env configuration = .ok profile ∧
            env.engine.packetErrors (validateState env configuration profile inputs corpora
              (createdAt.getD canonicalCreatedAt) state).1 = [] := by
  rw [exists_result_iff, checkCorpusInputs_eq_ok_iff]
  constructor
  · rintro ⟨hinputs, hcorpora, state, hstate, profile, hprofile, hpassed⟩
    obtain ⟨hpacket, hreceipts, hpublishable⟩ := (validateState_passed_iff hc hstate _ _).1 hpassed
    obtain ⟨taxonomy, -, stages, hstages, -⟩ := compileState_eq_ok.1 hstate
    refine ⟨hinputs, hcorpora, fun input hinput => ⟨?_, (hreceipts input hinput).2⟩, state, hstate,
      hpublishable, profile, hprofile, hpacket⟩
    exact compileStages_accepts hstages _ (List.mem_map_of_mem hinput)
  · rintro ⟨hinputs, hcorpora, haccepted, state, hstate, hpublishable, profile, hprofile, hpacket⟩
    exact ⟨hinputs, hcorpora, state, hstate, profile, hprofile,
      (validateState_passed_iff hc hstate _ _).2 ⟨hpacket, fun input hinput =>
        ⟨(haccepted input hinput).1.passed, (haccepted input hinput).2⟩, hpublishable⟩⟩

end Accepted

/-! An input whose own validation was not run is refused, and it is the only thing wrong. -/

/-- The packet of the notes, before it was validated. -/
def unvalidatedInput : RepositoryInput :=
  { planInput textCodec with
    packet := { planPacket.identified textCodec with validation := ⟨.notRun, none⟩ } }

/-- The notes whose corpus proposes the topic. -/
def proposedNotes (c : Codec) : CorpusAnalysisPacket := notesPacket c [planTopic] (.refl _)

theorem compile_accepted_iff_unvalidated :
    (∃ result, compileTopology plainEnvironment plainConfiguration [planInput textCodec]
        [proposedNotes textCodec] none = .ok result) ∧
      ¬ ∃ result, compileTopology plainEnvironment plainConfiguration [unvalidatedInput]
        [proposedNotes textCodec] none = .ok result := by
  refine ⟨notes_compiled textCodec _ _ plainEnvironment.policies textCodec_faithful none,
    fun h => ?_⟩
  obtain ⟨-, -, haccepted, -⟩ := (compile_accepted_iff textCodec_faithful none).1 h
  obtain ⟨haccepts, -⟩ := haccepted _ List.mem_cons_self
  exact absurd haccepts.passed (by decide)

end ConstellationTopology
