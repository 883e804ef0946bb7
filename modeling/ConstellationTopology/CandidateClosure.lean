import ConstellationTopology.CompileAcceptance

set_option autoImplicit false

/-! # What candidates refer to

The validator does not walk the candidate domains, and still nothing in them dangles: the corpora
were checked against the packets they analyse before the compile, and what is routed is looked up in
the state. Only their evidence references are not looked at (`validated_references_closed_iff`). -/

namespace ConstellationTopology

/-! ## Resolving -/

/-- The artifacts of a state. -/
def artifactIds (state : TopologyState) : List String :=
  state.artifactRecords.map ArtifactRecord.artifactId

/-- The clusters of a state. -/
def clusterIds (state : TopologyState) : List String :=
  state.candidateClusters.map CandidateClusterRecord.candidateId

/-- A relation that a candidate cites: one of the state, or byte identity in a corpus. -/
def CitedRelation (corpora : List CorpusAnalysisPacket) (state : TopologyState) (ref : String) :
    Prop :=
  ref ∈ state.candidateRelations.map CandidateRelationRecord.relationId ∨
    ∃ corpus ∈ corpora, ∃ relation ∈ duplicateRelations corpus.toCorpusIntelligencePacket,
      relation.relationId = ref ∨ relation.duplicateClusterId = ref

/-- Everything that a request refers to is in the state, and about its candidate. -/
structure RequestResolves (state : TopologyState) (request : TopologyReasoningCandidate) : Prop where
  candidate : ∃ cluster ∈ state.candidateClusters, cluster.candidateId = request.candidateId ∧
    request.readinessRef = cluster.readinessEvidenceRef ∧
    (∀ ref ∈ request.conflictRefs, ∃ conflict ∈ state.conflicts,
      conflict.conflictId = ref ∧ conflict.subjectId ∈ cluster.memberEntityIds) ∧
    ∀ ref ∈ request.unknownRefs, ∃ unknown ∈ state.unknowns,
      unknown.unknownId = ref ∧ unknown.subjectId ∈ cluster.memberEntityIds
  neighbours : ∀ ref ∈ request.boundedNeighborhoodRefs, ref ∈ nodeIds state

/-- What the candidate domains refer to, beside evidence. -/
structure CandidatesResolve (corpora : List CorpusAnalysisPacket) (identities : List String)
    (state : TopologyState) : Prop where
  endpoints : ∀ relation ∈ state.candidateRelations,
    relation.sourceArtifactId ∈ artifactIds state ∧ relation.targetArtifactId ∈ artifactIds state
  members : ∀ cluster ∈ state.candidateClusters, ∀ member ∈ cluster.memberEntityIds,
    member ∈ artifactIds state
  supported : ∀ cluster ∈ state.candidateClusters, ∀ ref ∈ cluster.supportingRelationIds,
    CitedRelation corpora state ref
  measured : ∀ cluster ∈ state.candidateClusters, ∀ ref ∈ cluster.readinessEvidenceRef,
    ∃ record ∈ state.readinessEvidence,
      record.readinessId = ref ∧ record.subjectId = cluster.candidateId
  subjects : ∀ record ∈ state.readinessEvidence,
    record.subjectId ∈ clusterIds state ∨ record.subjectId ∈ identities
  routed : (state.topologyReasoningCandidates.map TopologyReasoningCandidate.candidateId).Perm
    (clusterIds state)
  requests : ∀ request ∈ state.topologyReasoningCandidates, RequestResolves state request

/-! ## Where the candidate records come from -/

section Records

variable {corpora : List CorpusAnalysisPacket} {stages : CompiledStages}

theorem mem_compiledCandidateRelations {record : CandidateRelationRecord} :
    record ∈ compiledCandidateRelations (corpusPackets corpora) ↔
      ∃ corpus ∈ corpora, ∃ payload, corpus.payload = some payload ∧
        ∃ relation ∈ payload.semanticPairRelations, compileCandidateRelation relation = record := by
  simp only [compiledCandidateRelations, corpusPackets, List.mem_flatMap, List.mem_map,
    exists_exists_and_eq_and]
  refine exists_congr fun corpus => and_congr_right fun _ => ?_
  unfold compileCandidateRelations
  cases hpayload : corpus.payload with
  | none => simp
  | some payload => simp

theorem mem_candidateClusters {readiness : List ReadinessEvidenceRecord}
    {record : CandidateClusterRecord} :
    record ∈ stages.candidateClusters (corpusPackets corpora) readiness ↔
      ∃ corpus ∈ corpora, ∃ payload, corpus.payload = some payload ∧
        ∃ candidate ∈ payloadCandidates payload,
          compileCandidateCluster (stages.structuralIndex (corpusPackets corpora))
            (readinessBySubject readiness) candidate = record := by
  simp only [CompiledStages.candidateClusters, List.mem_flatMap]
  constructor
  · rintro ⟨packet, hpacket, hrecord⟩
    obtain ⟨corpus, hcorpus, rfl⟩ := List.mem_map.1 hpacket
    rw [compileCandidateClusters, mem_sortedBy] at hrecord
    obtain ⟨candidate, hcandidate, rfl⟩ := List.mem_map.1 hrecord
    cases hpayload : corpus.payload with
    | none => simp [CorpusIntelligencePacket.candidates, hpayload] at hcandidate
    | some payload =>
        rw [CorpusIntelligencePacket.candidates, hpayload] at hcandidate
        exact ⟨corpus, hcorpus, payload, hpayload, candidate, hcandidate, rfl⟩
  · rintro ⟨corpus, hcorpus, payload, hpayload, candidate, hcandidate, rfl⟩
    refine ⟨_, List.mem_map_of_mem hcorpus, ?_⟩
    rw [compileCandidateClusters, mem_sortedBy]
    refine List.mem_map_of_mem ?_
    rw [CorpusIntelligencePacket.candidates, hpayload]
    exact hcandidate

theorem mem_compiledReadiness {record : ReadinessEvidenceRecord} :
    record ∈ corpora.flatMap compileReadinessEvidence ↔
      ∃ corpus ∈ corpora, ∃ payload, corpus.payload = some payload ∧
        ∃ evidence ∈ corpus.analysis.readinessEvidence, readinessRecord evidence = record := by
  simp only [List.mem_flatMap, compileReadinessEvidence, mem_sortedBy]
  refine exists_congr fun corpus => and_congr_right fun _ => ?_
  unfold CorpusAnalysisPacket.readinessEvidence
  cases hpayload : corpus.payload with
  | none => simp
  | some payload => simp

end Records

/-! ## The candidate domains of a state -/

section State

variable {env : CompileEnvironment} {stages : CompiledStages} {canonical : DerivedDomains}
  {corpora : List CorpusAnalysisPacket} {packets : List RepositoryModelPacket}

/-- The state the compiler makes of its stages. -/
def analysedState (env : CompileEnvironment) (stages : CompiledStages) (canonical : DerivedDomains)
    (corpora : List CorpusAnalysisPacket) : TopologyState :=
  stages.state (withAnalysis env stages corpora canonical)

theorem mem_analysed_candidateRelations {record : CandidateRelationRecord} :
    record ∈ (analysedState env stages canonical corpora).candidateRelations ↔
      record ∈ compiledCandidateRelations (corpusPackets corpora) := mem_sortedBy

theorem mem_analysed_readiness {record : ReadinessEvidenceRecord} :
    record ∈ (analysedState env stages canonical corpora).readinessEvidence ↔
      record ∈ corpora.flatMap compileReadinessEvidence := mem_sortedBy

theorem mem_analysed_candidateClusters {record : CandidateClusterRecord} :
    record ∈ (analysedState env stages canonical corpora).candidateClusters ↔
      record ∈ stages.candidateClusters (corpusPackets corpora)
        (corpora.flatMap compileReadinessEvidence) := mem_sortedBy

/-- Each candidate is routed once. -/
theorem analysed_requests :
    (analysedState env stages canonical corpora).topologyReasoningCandidates.Perm
      ((analysedState env stages canonical corpora).candidateClusters.map fun cluster =>
        routeCandidate cluster stages.graph.edges stages.conflicts stages.unknowns env.codec
          (upstreamRequest corpora cluster.candidateId)) := by
  have hrouted : (analysedState env stages canonical corpora).topologyReasoningCandidates.Perm
      (routeReasoningCandidates env corpora stages.graph.edges stages.conflicts stages.unknowns
        (stages.candidateClusters (corpusPackets corpora)
          (corpora.flatMap compileReadinessEvidence))) := sortedBy_perm _ _
  refine hrouted.trans ((sortedBy_perm _ _).trans (List.Perm.map _ ?_))
  exact (sortedBy_perm CandidateClusterRecord.candidateId _).symm

theorem conflictRefs_resolve {cluster : CandidateClusterRecord} {ref : String}
    (h : ref ∈ conflictRefs cluster stages.conflicts) :
    ∃ conflict ∈ (analysedState env stages canonical corpora).conflicts,
      conflict.conflictId = ref ∧ conflict.subjectId ∈ cluster.memberEntityIds := by
  rw [conflictRefs, mem_sortedBy] at h
  obtain ⟨conflict, hconflict, rfl⟩ := List.mem_map.1 h
  obtain ⟨hmem, hsubject⟩ := List.mem_filter.1 hconflict
  exact ⟨conflict, mem_sortedBy.2 hmem, rfl, of_decide_eq_true hsubject⟩

theorem unknownRefs_resolve {cluster : CandidateClusterRecord} {ref : String}
    (h : ref ∈ unknownRefs cluster stages.unknowns) :
    ∃ unknown ∈ (analysedState env stages canonical corpora).unknowns,
      unknown.unknownId = ref ∧ unknown.subjectId ∈ cluster.memberEntityIds := by
  rw [unknownRefs, mem_sortedBy] at h
  obtain ⟨unknown, hunknown, rfl⟩ := List.mem_map.1 h
  obtain ⟨hmem, hsubject⟩ := List.mem_filter.1 hunknown
  exact ⟨unknown, mem_sortedBy.2 hmem, rfl, of_decide_eq_true hsubject⟩

/-- A neighbour is an end of an edge. -/
theorem boundedNeighborhood_resolves {members : List String} {ref : String}
    (hendpoints : ∀ edge ∈ (analysedState env stages canonical corpora).edgeRecords,
      edge.sourceId ∈ nodeIds (analysedState env stages canonical corpora) ∧
        edge.targetId ∈ nodeIds (analysedState env stages canonical corpora))
    (h : ref ∈ boundedNeighborhood members stages.graph.edges) :
    ref ∈ nodeIds (analysedState env stages canonical corpora) := by
  rw [boundedNeighborhood, mem_sortedSet] at h
  obtain ⟨edge, hedge, hend⟩ := List.mem_filterMap.1 h
  obtain ⟨hsource, htarget⟩ := hendpoints edge (mem_sortedBy.2 hedge)
  split at hend
  · rwa [← Option.some.inj hend]
  · split at hend
    · rwa [← Option.some.inj hend]
    · cases hend

/-- The files of the inputs are records of the state. -/
theorem artifactIds_of_inputs {text : PythonText} {taxonomy : List (String × List String)}
    (h : compileStages env.codec text
      { packets, corpusPackets := corpusPackets corpora, roleTaxonomy := taxonomy } = .ok stages)
    {artifactId : String} (hid : artifactId ∈ artifactOnlyIdentities packets) :
    artifactId ∈ artifactIds (analysedState env stages canonical corpora) := by
  obtain ⟨normalized, hnormalized, signals, -, rfl⟩ := (compileStages_eq_ok _ _).1 h
  obtain ⟨-, evidence, -, rfl⟩ := normalizeModels_eq_ok.1 hnormalized
  obtain ⟨packet, hpacket, hartifact⟩ := List.mem_flatMap.1 hid
  cases hpayload : packet.payload with
  | none => simp [hpayload] at hartifact
  | some payload =>
      simp only [hpayload] at hartifact
      obtain ⟨artifact, hmem, rfl⟩ := List.mem_map.1 hartifact
      exact List.mem_map_of_mem (mem_sortedBy.2 (List.mem_flatMap.2
        ⟨packet, hpacket, mem_adaptedRecords.2 ⟨payload, hpayload, hmem⟩⟩))

/-- A measurement a candidate refers to is one of the state, and about it. -/
theorem readinessBySubject_resolves {records : List ReadinessEvidenceRecord}
    {candidateId ref : String} (h : (readinessBySubject records).lookup candidateId = some ref) :
    ∃ record ∈ records, record.readinessId = ref ∧ record.subjectId = candidateId := by
  obtain ⟨record, hrecord, heq⟩ := List.mem_map.1 (mem_of_lookup h)
  obtain ⟨rfl, rfl⟩ := Prod.mk.inj heq
  exact ⟨record, hrecord, rfl, rfl⟩

end State

/-! ## Every result -/

section Result

variable {env : CompileEnvironment} {stages : CompiledStages} {canonical : DerivedDomains}
  {corpora : List CorpusAnalysisPacket} {packets : List RepositoryModelPacket}

theorem mem_identities_of_declared {corpus : CorpusAnalysisPacket} {id : String}
    (h : id ∈ artifactIdentities (declaredModels corpus packets)) :
    id ∈ artifactIdentities packets := by
  obtain ⟨packet, hpacket, hid⟩ := List.mem_flatMap.1 h
  exact List.mem_flatMap.2 ⟨packet, List.mem_of_mem_filter hpacket, hid⟩

theorem mem_artifacts_of_declared {corpus : CorpusAnalysisPacket} {id : String}
    (h : id ∈ artifactOnlyIdentities (declaredModels corpus packets)) :
    id ∈ artifactOnlyIdentities packets := by
  obtain ⟨packet, hpacket, hid⟩ := List.mem_flatMap.1 h
  exact List.mem_flatMap.2 ⟨packet, List.mem_of_mem_filter hpacket, hid⟩

/-- Where the corpora are sound over the packets and the edges end at nodes, candidates resolve. -/
theorem analysedState_resolves
    (hsound : ∀ corpus ∈ corpora, ∃ payload, corpus.payload = some payload ∧
      CorpusSound corpus (declaredModels corpus packets) payload)
    (hartifacts : ∀ artifactId ∈ artifactOnlyIdentities packets,
      artifactId ∈ artifactIds (analysedState env stages canonical corpora))
    (hendpoints : ∀ edge ∈ (analysedState env stages canonical corpora).edgeRecords,
      edge.sourceId ∈ nodeIds (analysedState env stages canonical corpora) ∧
        edge.targetId ∈ nodeIds (analysedState env stages canonical corpora)) :
    CandidatesResolve corpora (artifactIdentities packets)
      (analysedState env stages canonical corpora) where
  endpoints := by
    intro record hrecord
    obtain ⟨corpus, hcorpus, payload, hpayload, relation, hrelation, rfl⟩ :=
      mem_compiledCandidateRelations.1 (mem_analysed_candidateRelations.1 hrecord)
    obtain ⟨payload', hpayload', hsound⟩ := hsound corpus hcorpus
    obtain rfl : payload = payload' := Option.some.inj (hpayload.symm.trans hpayload')
    obtain ⟨hsource, htarget⟩ := hsound.pairs relation hrelation
    exact ⟨hartifacts _ (mem_artifacts_of_declared hsource),
      hartifacts _ (mem_artifacts_of_declared htarget)⟩
  members := by
    intro record hrecord member hmember
    obtain ⟨corpus, hcorpus, payload, hpayload, candidate, hcandidate, rfl⟩ :=
      mem_candidateClusters.1 (mem_analysed_candidateClusters.1 hrecord)
    obtain ⟨payload', hpayload', hsound⟩ := hsound corpus hcorpus
    obtain rfl : payload = payload' := Option.some.inj (hpayload.symm.trans hpayload')
    have hmember : member ∈ candidate.memberArtifactIds := mem_sortedSet.1 hmember
    exact hartifacts _ (mem_artifacts_of_declared
      ((hsound.candidates candidate hcandidate).members member hmember))
  supported := by
    intro record hrecord ref href
    obtain ⟨corpus, hcorpus, payload, hpayload, candidate, hcandidate, rfl⟩ :=
      mem_candidateClusters.1 (mem_analysed_candidateClusters.1 hrecord)
    obtain ⟨payload', hpayload', hsound⟩ := hsound corpus hcorpus
    obtain rfl : payload = payload' := Option.some.inj (hpayload.symm.trans hpayload')
    have href : ref ∈ candidate.supportingRelationIds := mem_sortedSet.1 href
    have hduplicates : duplicateRelations corpus.toCorpusIntelligencePacket =
        payload.exactDuplicateRelations := by
      rw [duplicateRelations, hpayload]
      rfl
    rcases List.mem_append.1 ((hsound.candidates candidate hcandidate).supporting ref href) with
      hcited | hcluster
    · rcases List.mem_append.1 hcited with hpair | hduplicate
      · obtain ⟨relation, hrelation, rfl⟩ := List.mem_map.1 hpair
        exact .inl (List.mem_map.2 ⟨compileCandidateRelation relation,
          mem_analysed_candidateRelations.2 (mem_compiledCandidateRelations.2
            ⟨corpus, hcorpus, payload, hpayload, relation, hrelation, rfl⟩), rfl⟩)
      · obtain ⟨relation, hrelation, rfl⟩ := List.mem_map.1 hduplicate
        exact .inr ⟨corpus, hcorpus, relation, hduplicates ▸ hrelation, .inl rfl⟩
    · obtain ⟨relation, hrelation, rfl⟩ := List.mem_map.1 hcluster
      exact .inr ⟨corpus, hcorpus, relation, hduplicates ▸ hrelation, .inr rfl⟩
  measured := by
    intro record hrecord ref href
    obtain ⟨corpus, hcorpus, payload, hpayload, candidate, hcandidate, rfl⟩ :=
      mem_candidateClusters.1 (mem_analysed_candidateClusters.1 hrecord)
    obtain ⟨measurement, hmeasurement, hid⟩ := readinessBySubject_resolves href
    exact ⟨measurement, mem_analysed_readiness.2 hmeasurement, hid⟩
  subjects := by
    intro record hrecord
    obtain ⟨corpus, hcorpus, payload, hpayload, evidence, hevidence, rfl⟩ :=
      mem_compiledReadiness.1 (mem_analysed_readiness.1 hrecord)
    obtain ⟨payload', hpayload', hsound⟩ := hsound corpus hcorpus
    obtain rfl : payload = payload' := Option.some.inj (hpayload.symm.trans hpayload')
    rcases hsound.readiness evidence hevidence with hcandidate | hidentity
    · obtain ⟨candidate, hcandidate, hid⟩ := List.mem_map.1 hcandidate
      exact .inl (List.mem_map.2 ⟨_, mem_analysed_candidateClusters.2 (mem_candidateClusters.2
        ⟨corpus, hcorpus, payload, hpayload, candidate, hcandidate, rfl⟩), hid⟩)
    · exact .inr (mem_identities_of_declared hidentity)
  routed := by
    refine (analysed_requests.map _).trans ?_
    rw [List.map_map]
    exact .refl _
  requests := by
    intro request hrequest
    obtain ⟨cluster, hcluster, rfl⟩ := List.mem_map.1 (analysed_requests.mem_iff.1 hrequest)
    constructor
    · exact ⟨cluster, hcluster, rfl, rfl, fun _ href => conflictRefs_resolve href,
        fun _ href => unknownRefs_resolve href⟩
    · exact fun _ href => boundedNeighborhood_resolves hendpoints href

/-- The edges of a result end at nodes. -/
theorem Compiled.endpoints {configuration : ResolvedConfiguration} {inputs : List RepositoryInput}
    {timestamp : Timestamp} {profile : ProfileRef} {result : CompilationResult env.codec}
    (h : Compiled env configuration inputs corpora timestamp profile result) :
    ∀ edge ∈ result.state.edgeRecords,
      edge.sourceId ∈ nodeIds result.state ∧ edge.targetId ∈ nodeIds result.state := by
  have hpassed := h.passed
  rw [h.receipt_eq, validateState_receipt, validateTopology_passed_iff] at hpassed
  obtain ⟨-, hinvariant, -⟩ := hpassed
  obtain ⟨-, -, -, -, hendpoints, -⟩ := invariantChecks_passed_iff.1 hinvariant
  exact unresolvedEndpoints_eq_nil_iff.1 hendpoints

/-- **No candidate dangles.** In every result of a compile, the candidates group and relate artifacts
of the state, cite relations of the corpora, and point at measurements of themselves; each is routed
once, and its request names conflicts and unknowns of its members and neighbours in the graph. -/
theorem compiled_candidates_resolve {configuration : ResolvedConfiguration}
    {inputs : List RepositoryInput} {createdAt : Option Timestamp}
    {result : CompilationResult env.codec}
    (h : compileTopology env configuration inputs corpora createdAt = .ok result) :
    CandidatesResolve corpora (artifactIdentities (inputs.map fun input => input.packet))
      result.state := by
  obtain ⟨profile, h⟩ := compileTopology_eq_ok.1 h
  have hendpoints := h.endpoints
  obtain ⟨taxonomy, -, stages, hstages, canonical, -, hstate⟩ := compileState_eq_ok.1 h.state_eq
  rw [← hstate] at hendpoints ⊢
  exact analysedState_resolves (checkCorpusInputs_eq_ok_iff.1 h.checked)
    (fun _ hid => artifactIds_of_inputs hstages hid) hendpoints

end Result

theorem compiled_candidates_resolve_notes :
    ∃ result, compileTopology plainEnvironment plainConfiguration [planInput textCodec]
        [proposedNotes textCodec] none = .ok result ∧
      CandidatesResolve [proposedNotes textCodec] ["root:notes", "artifact:plan"] result.state ∧
      result.state.candidateClusters.map CandidateClusterRecord.candidateId =
        ["candidate:topic"] := by
  obtain ⟨result, hresult⟩ := notes_compiled textCodec _ (.refl _) plainEnvironment.policies
    textCodec_faithful none
  obtain ⟨profile, hcompiled⟩ := compileTopology_eq_ok.1 hresult
  have hstate : result.state = notesState textCodec [planTopic] (.refl _) plainEnvironment.policies :=
    Except.ok.inj (hcompiled.state_eq.symm.trans (notes_compileState textCodec _ _ _))
  refine ⟨result, hresult, compiled_candidates_resolve hresult, ?_⟩
  rw [hstate]
  rfl

end ConstellationTopology
