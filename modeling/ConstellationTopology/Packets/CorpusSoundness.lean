import ConstellationTopology.Packets.CorpusValidator

set_option autoImplicit false

/-! # What the corpus validator accepts

A corpus packet is sound over some packets if every identity it mentions is one of theirs or its own
(`CorpusSound`). The validator finds no error exactly in the sound packets, and what it reports does
not depend on the order in which the records of a domain are written. -/

namespace ConstellationTopology

/-! ## Soundness, domain by domain -/

section Sound

variable (packet : CorpusAnalysisPacket) (models : List RepositoryModelPacket)
  (payload : CorpusIntelligencePayload) (artifacts identities : List String)

/-- The root binds a packet as it was loaded. -/
structure RootBinds (root : CorpusRootRef) (model : RepositoryModelPacket) : Prop where
  loaded : modelById models root.repositoryModelPacket.packetId = some model
  semanticHash : root.repositoryModelPacket.semanticHash = model.semanticHash
  revision : ∀ revision ∈ root.repositoryModelPacket.sourceRevision, revision = model.revision

/-- The declared inputs are the loaded packets, and each is observed by a root that binds it. -/
structure RootsSound : Prop where
  loaded : ∀ packetId, packetId ∈ packet.inputIds ↔ packetId ∈ loadedPackets models
  binds : ∀ root ∈ packet.corpus.rootRefs, ∃ model, RootBinds models root model
  observed : ∀ packetId ∈ packet.inputIds, packetId ∈ observedPackets packet

/-- A signal was read from an input, is about one, and cites lines only where there are lines. -/
structure SignalSound (signal : DocumentWorkSignal) : Prop where
  artifact : signal.artifactId ∈ artifacts
  subject : signal.subjectId ∈ identities
  locator : signal.locator.kind ∈ lineLocatorKinds → signal.documentFormat ∈ lineBearingFormats

/-- The duplicates are files of the inputs, with one content hash for each cluster. -/
structure DuplicatesSound : Prop where
  endpoints : ∀ relation ∈ payload.exactDuplicateRelations,
    relation.artifactAId ∈ artifacts ∧ relation.artifactBId ∈ artifacts
  contentHash : ∀ left ∈ payload.exactDuplicateRelations,
    ∀ right ∈ payload.exactDuplicateRelations,
      left.duplicateClusterId = right.duplicateClusterId → left.contentHash = right.contentHash

/-- A candidate groups files of the inputs and cites relations of the packet. -/
structure CandidateSound (candidate : CandidateCluster) : Prop where
  members : ∀ member ∈ candidate.memberArtifactIds, member ∈ artifacts
  supporting : ∀ relation ∈ candidate.supportingRelationIds, relation ∈ citableRelations payload

/-- A request names a candidate of the packet, files of the inputs, and a declared pack. -/
structure RequestSound (packs : List String) (request : ReasoningRequest) : Prop where
  candidate : request.candidateId ∈ candidateIds payload
  members : ∀ member ∈ request.memberArtifactIds, member ∈ artifacts
  pack : ∀ pack ∈ request.evidencePackRef, pack ∈ packs

/-- Every identity the packet mentions resolves. -/
structure CorpusSound : Prop where
  roots : RootsSound packet models
  signals : ∀ signal ∈ payload.documentWorkSignals,
    SignalSound (artifactOnlyIdentities models) (artifactIdentities models) signal
  duplicates : DuplicatesSound payload (artifactOnlyIdentities models)
  pairs : ∀ relation ∈ payload.semanticPairRelations,
    relation.sourceArtifactId ∈ artifactOnlyIdentities models ∧
      relation.targetArtifactId ∈ artifactOnlyIdentities models
  candidates : ∀ candidate ∈ payloadCandidates payload,
    CandidateSound payload (artifactOnlyIdentities models) candidate
  readiness : ∀ evidence ∈ packet.analysis.readinessEvidence,
    evidence.subjectId ∈ candidateIds payload ∨ evidence.subjectId ∈ artifactIdentities models
  reasoning : ∀ request ∈ packet.analysis.reasoningCandidates,
    RequestSound payload (artifactOnlyIdentities models)
      packet.analysis.reasoningEvidencePackRefs request
  notRun : ∀ statement ∈ packet.domainsNotRun.getD [],
    carriesRecords payload packet.analysis statement.domain = false

end Sound

/-! ## Each check -/

section Checks

variable {repr : String → String} {packet : CorpusAnalysisPacket}
  {models : List RepositoryModelPacket} {payload : CorpusIntelligencePayload}
  {artifacts identities : List String}

theorem bindingErrors_eq_nil_iff {root : CorpusRootRef} {model : RepositoryModelPacket} :
    bindingErrors root model = [] ↔
      root.repositoryModelPacket.semanticHash = model.semanticHash ∧
        ∀ revision ∈ root.repositoryModelPacket.sourceRevision, revision = model.revision := by
  unfold bindingErrors
  cases root.repositoryModelPacket.sourceRevision with
  | none => simp
  | some revision => simp

theorem rootErrors_eq_nil_iff {root : CorpusRootRef} :
    rootErrors models root = [] ↔ ∃ model, RootBinds models root model := by
  unfold rootErrors
  split
  · next hnone =>
      refine ⟨fun h => absurd h (List.cons_ne_nil _ _), ?_⟩
      rintro ⟨model, hbinds⟩
      exact absurd (hnone.symm.trans hbinds.loaded) (Option.some_ne_none model).symm
  · next model hmodel =>
      rw [bindingErrors_eq_nil_iff]
      constructor
      · rintro ⟨hhash, hrevision⟩
        exact ⟨model, hmodel, hhash, hrevision⟩
      · rintro ⟨found, hbinds⟩
        obtain rfl : model = found := Option.some.inj (hmodel.symm.trans hbinds.loaded)
        exact ⟨hbinds.semanticHash, hbinds.revision⟩

theorem checkRoots_eq_nil_iff : checkRoots packet models = [] ↔ RootsSound packet models := by
  simp only [checkRoots, List.append_eq_nil_iff, List.map_eq_nil_iff, absentFrom_eq_nil_iff,
    List.flatMap_eq_nil_iff, rootErrors_eq_nil_iff]
  constructor
  · rintro ⟨⟨⟨hloaded, hdeclared⟩, hbinds⟩, hobserved⟩
    exact ⟨fun packetId => ⟨hloaded packetId, hdeclared packetId⟩, hbinds, hobserved⟩
  · intro h
    exact ⟨⟨⟨fun packetId => (h.loaded packetId).1, fun packetId => (h.loaded packetId).2⟩,
      h.binds⟩, h.observed⟩

theorem signalErrors_eq_nil_iff {signal : DocumentWorkSignal} :
    signalErrors repr artifacts identities signal = [] ↔
      SignalSound artifacts identities signal := by
  simp only [signalErrors, List.append_eq_nil_iff, unresolved_eq_nil_iff, List.forall_mem_singleton,
    ite_eq_right_iff, List.cons_ne_nil, imp_false, not_and, not_not]
  constructor
  · rintro ⟨⟨hartifact, hsubject⟩, hlocator⟩
    exact ⟨hartifact, hsubject, hlocator⟩
  · intro h
    exact ⟨⟨h.artifact, h.subject⟩, h.locator⟩

theorem checkWorkSignals_eq_nil_iff :
    checkWorkSignals repr payload artifacts identities = [] ↔
      ∀ signal ∈ payload.documentWorkSignals, SignalSound artifacts identities signal := by
  simp only [checkWorkSignals, List.flatMap_eq_nil_iff, signalErrors_eq_nil_iff]

/-- No cluster has two hashes exactly if the hash of a cluster is one. -/
theorem clusterHashes_le_one_iff :
    (∀ clusterId ∈ sortedSet (payload.exactDuplicateRelations.map
        ExactDuplicateRelation.duplicateClusterId), ¬ 1 < (clusterHashes payload clusterId).length) ↔
      ∀ left ∈ payload.exactDuplicateRelations, ∀ right ∈ payload.exactDuplicateRelations,
        left.duplicateClusterId = right.duplicateClusterId →
          left.contentHash = right.contentHash := by
  constructor
  · intro h left hleft right hright hcluster
    by_contra hne
    refine h left.duplicateClusterId (mem_sortedSet.2 (List.mem_map_of_mem hleft)) ?_
    rw [clusterHashes, one_lt_length_sortedSet_iff]
    refine ⟨left.contentHash, ?_, right.contentHash, ?_, hne⟩
    · exact List.mem_map_of_mem (mem_groupOf.2 ⟨hleft, rfl⟩)
    · exact List.mem_map_of_mem (mem_groupOf.2 ⟨hright, hcluster.symm⟩)
  · intro h clusterId _ hlt
    rw [clusterHashes, one_lt_length_sortedSet_iff] at hlt
    obtain ⟨_, hx, _, hy, hne⟩ := hlt
    obtain ⟨left, hleft, rfl⟩ := List.mem_map.1 hx
    obtain ⟨right, hright, rfl⟩ := List.mem_map.1 hy
    rw [mem_groupOf] at hleft hright
    exact hne (h left hleft.1 right hright.1 (hleft.2.trans hright.2.symm))

theorem checkDuplicates_eq_nil_iff :
    checkDuplicates repr payload artifacts = [] ↔ DuplicatesSound payload artifacts := by
  simp only [checkDuplicates, List.append_eq_nil_iff, List.flatMap_eq_nil_iff,
    unresolved_eq_nil_iff, List.forall_mem_cons, List.not_mem_nil, false_implies, implies_true,
    and_true, ite_eq_right_iff, List.cons_ne_nil, imp_false]
  rw [clusterHashes_le_one_iff]
  exact ⟨fun h => ⟨h.1, h.2⟩, fun h => ⟨h.endpoints, h.contentHash⟩⟩

theorem checkPairs_eq_nil_iff :
    checkPairs payload artifacts = [] ↔ ∀ relation ∈ payload.semanticPairRelations,
      relation.sourceArtifactId ∈ artifacts ∧ relation.targetArtifactId ∈ artifacts := by
  simp only [checkPairs, List.flatMap_eq_nil_iff, unresolved_eq_nil_iff, List.forall_mem_cons,
    List.not_mem_nil, false_implies, implies_true, and_true]

theorem checkCandidates_eq_nil_iff :
    checkCandidates payload artifacts = [] ↔
      ∀ candidate ∈ payloadCandidates payload, CandidateSound payload artifacts candidate := by
  simp only [checkCandidates, checkCandidate, List.flatMap_eq_nil_iff, List.append_eq_nil_iff,
    unresolved_eq_nil_iff]
  refine forall₂_congr fun candidate _ => ?_
  exact ⟨fun h => ⟨h.1, h.2⟩, fun h => ⟨h.members, h.supporting⟩⟩

theorem checkReadiness_eq_nil_iff {readiness : List ReadinessEvidence} :
    checkReadiness payload identities readiness = [] ↔ ∀ evidence ∈ readiness,
      evidence.subjectId ∈ candidateIds payload ∨ evidence.subjectId ∈ identities := by
  simp only [checkReadiness, List.flatMap_eq_nil_iff, unresolved_eq_nil_iff,
    List.forall_mem_singleton, List.mem_append]

theorem checkReasoning_eq_nil_iff {analysis : AnalysisDomains} :
    checkReasoning payload artifacts analysis = [] ↔ ∀ request ∈ analysis.reasoningCandidates,
      RequestSound payload artifacts analysis.reasoningEvidencePackRefs request := by
  simp only [checkReasoning, requestErrors, List.flatMap_eq_nil_iff, List.append_eq_nil_iff,
    unresolved_eq_nil_iff, List.forall_mem_singleton, Option.mem_toList]
  refine forall₂_congr fun request _ => ?_
  exact ⟨fun h => ⟨h.1.1, h.1.2, h.2⟩, fun h => ⟨⟨h.candidate, h.members⟩, h.pack⟩⟩

theorem checkDomainsNotRun_eq_nil_iff :
    checkDomainsNotRun packet payload = [] ↔ ∀ statement ∈ packet.domainsNotRun.getD [],
      carriesRecords payload packet.analysis statement.domain = false := by
  simp [checkDomainsNotRun, List.filter_eq_nil_iff]

theorem corpusErrors_eq_nil_iff :
    corpusErrors repr packet models payload = [] ↔ CorpusSound packet models payload := by
  simp only [corpusErrors, List.append_eq_nil_iff, checkRoots_eq_nil_iff,
    checkWorkSignals_eq_nil_iff, checkDuplicates_eq_nil_iff, checkPairs_eq_nil_iff,
    checkCandidates_eq_nil_iff, checkReadiness_eq_nil_iff, checkReasoning_eq_nil_iff,
    checkDomainsNotRun_eq_nil_iff]
  constructor
  · rintro ⟨⟨⟨⟨⟨⟨⟨hroots, hsignals⟩, hduplicates⟩, hpairs⟩, hcandidates⟩, hreadiness⟩, hreasoning⟩,
      hnotRun⟩
    exact ⟨hroots, hsignals, hduplicates, hpairs, hcandidates, hreadiness, hreasoning, hnotRun⟩
  · intro h
    exact ⟨⟨⟨⟨⟨⟨⟨h.roots, h.signals⟩, h.duplicates⟩, h.pairs⟩, h.candidates⟩, h.readiness⟩,
      h.reasoning⟩, h.notRun⟩

theorem validateCorpus_eq_ok_iff {u : Unit} :
    validateCorpusIntelligencePacket repr packet models = .ok u ↔
      ∃ payload, packet.payload = some payload ∧ CorpusSound packet models payload := by
  simp only [validateCorpusIntelligencePacket, bind_eq_ok, expect_eq_ok, demand_eq_ok,
    corpusErrors_eq_nil_iff]

end Checks

/-! ## The order of the records -/

/-- The packet with the records of each domain in another order. -/
structure ReordersCorpus (packet packet' : CorpusAnalysisPacket)
    (payload payload' : CorpusIntelligencePayload) : Prop where
  inputs : packet.inputs.Perm packet'.inputs
  roots : packet.corpus.rootRefs.Perm packet'.corpus.rootRefs
  signals : payload.documentWorkSignals.Perm payload'.documentWorkSignals
  duplicates : payload.exactDuplicateRelations.Perm payload'.exactDuplicateRelations
  pairs : payload.semanticPairRelations.Perm payload'.semanticPairRelations
  topics : payload.topicCandidates.Perm payload'.topicCandidates
  projects : payload.projectCandidates.Perm payload'.projectCandidates
  consolidations : payload.consolidationCandidates.Perm payload'.consolidationCandidates
  readiness : packet.analysis.readinessEvidence.Perm packet'.analysis.readinessEvidence
  reasoning : packet.analysis.reasoningCandidates.Perm packet'.analysis.reasoningCandidates
  packs : packet.analysis.reasoningEvidencePackRefs.Perm
    packet'.analysis.reasoningEvidencePackRefs
  notRun : (packet.domainsNotRun.getD []).Perm (packet'.domainsNotRun.getD [])

theorem absentFrom_congr {left left' right right' : List String} (hleft : left.Perm left')
    (hright : right.Perm right') : absentFrom left right = absentFrom left' right' := by
  refine sortedSet_congr fun value => ?_
  simp only [List.mem_filter, hleft.mem_iff, hright.mem_iff]

theorem unresolved_congr {known known' : List String} (message : String → String)
    (values : List String) (h : known.Perm known') :
    unresolved known message values = unresolved known' message values := by
  simp only [unresolved, h.mem_iff]

namespace ReordersCorpus

variable {repr : String → String} {packet packet' : CorpusAnalysisPacket}
  {models : List RepositoryModelPacket} {payload payload' : CorpusIntelligencePayload}
  {artifacts identities : List String}

theorem inputIds (h : ReordersCorpus packet packet' payload payload') :
    packet.inputIds.Perm packet'.inputIds :=
  h.inputs.map _

theorem checkRoots (h : ReordersCorpus packet packet' payload payload') :
    (checkRoots packet models).Perm (checkRoots packet' models) := by
  have hobserved : (observedPackets packet).Perm (observedPackets packet') := h.roots.map _
  unfold ConstellationTopology.checkRoots
  rw [absentFrom_congr h.inputIds (.refl (loadedPackets models)),
    absentFrom_congr (.refl (loadedPackets models)) h.inputIds,
    absentFrom_congr h.inputIds hobserved]
  exact ((h.roots.flatMap_right _).append_left _).append_right _

theorem checkDuplicates (h : ReordersCorpus packet packet' payload payload') :
    (checkDuplicates repr payload artifacts).Perm (checkDuplicates repr payload' artifacts) := by
  have hhashes : clusterHashes payload = clusterHashes payload' := by
    funext clusterId
    exact sortedSet_perm ((groupOf_perm clusterId h.duplicates).map _)
  unfold ConstellationTopology.checkDuplicates
  rw [sortedSet_perm (h.duplicates.map ExactDuplicateRelation.duplicateClusterId), hhashes]
  exact (h.duplicates.flatMap_right _).append_right _

theorem payloadCandidates (h : ReordersCorpus packet packet' payload payload') :
    (payloadCandidates payload).Perm (payloadCandidates payload') :=
  (h.topics.append h.projects).append h.consolidations

theorem candidateIds (h : ReordersCorpus packet packet' payload payload') :
    (candidateIds payload).Perm (candidateIds payload') :=
  h.payloadCandidates.map _

theorem checkCandidates (h : ReordersCorpus packet packet' payload payload') :
    (checkCandidates payload artifacts).Perm (checkCandidates payload' artifacts) := by
  have hcitable : (citableRelations payload).Perm (citableRelations payload') :=
    ((h.pairs.map _).append (h.duplicates.map _)).append (h.duplicates.map _)
  have hcheck : checkCandidate artifacts (citableRelations payload) =
      checkCandidate artifacts (citableRelations payload') := by
    funext candidate
    simp only [checkCandidate, unresolved_congr _ _ hcitable]
  unfold ConstellationTopology.checkCandidates
  rw [hcheck]
  exact h.payloadCandidates.flatMap_right _

theorem checkReadiness (h : ReordersCorpus packet packet' payload payload') :
    (checkReadiness payload identities packet.analysis.readinessEvidence).Perm
      (checkReadiness payload' identities packet'.analysis.readinessEvidence) := by
  unfold ConstellationTopology.checkReadiness
  simp only [unresolved_congr _ _ (h.candidateIds.append_right identities)]
  exact h.readiness.flatMap_right _

theorem checkReasoning (h : ReordersCorpus packet packet' payload payload') :
    (checkReasoning payload artifacts packet.analysis).Perm
      (checkReasoning payload' artifacts packet'.analysis) := by
  have hrequest : requestErrors payload artifacts packet.analysis.reasoningEvidencePackRefs =
      requestErrors payload' artifacts packet'.analysis.reasoningEvidencePackRefs := by
    funext request
    simp only [requestErrors, unresolved_congr _ _ h.candidateIds, unresolved_congr _ _ h.packs]
  unfold ConstellationTopology.checkReasoning
  rw [hrequest]
  exact h.reasoning.flatMap_right _

theorem carriesRecords (h : ReordersCorpus packet packet' payload payload') :
    carriesRecords payload packet.analysis = carriesRecords payload' packet'.analysis := by
  funext domain
  cases domain <;> simp only [ConstellationTopology.carriesRecords, h.signals.isEmpty_eq,
    h.duplicates.isEmpty_eq, h.pairs.isEmpty_eq, h.topics.isEmpty_eq, h.projects.isEmpty_eq,
    h.consolidations.isEmpty_eq, h.readiness.isEmpty_eq, h.reasoning.isEmpty_eq,
    h.packs.isEmpty_eq]

theorem checkDomainsNotRun (h : ReordersCorpus packet packet' payload payload') :
    (checkDomainsNotRun packet payload).Perm (checkDomainsNotRun packet' payload') := by
  unfold ConstellationTopology.checkDomainsNotRun
  rw [h.carriesRecords]
  exact (h.notRun.filter _).map _

/-- The errors are the same, in another order. -/
theorem corpusErrors (h : ReordersCorpus packet packet' payload payload') :
    (corpusErrors repr packet models payload).Perm (corpusErrors repr packet' models payload') :=
  ((((((h.checkRoots.append (h.signals.flatMap_right _)).append h.checkDuplicates).append
    (h.pairs.flatMap_right _)).append h.checkCandidates).append h.checkReadiness).append
      h.checkReasoning).append h.checkDomainsNotRun

/-- The validator says the same about the reordered packet. -/
theorem validate (hpayload : packet.payload = some payload)
    (hpayload' : packet'.payload = some payload')
    (h : ReordersCorpus packet packet' payload payload') :
    validateCorpusIntelligencePacket repr packet models =
      validateCorpusIntelligencePacket repr packet' models := by
  have herrors : (ConstellationTopology.corpusErrors repr packet models payload).Perm
      (ConstellationTopology.corpusErrors repr packet' models payload') := h.corpusErrors
  have hnil : ConstellationTopology.corpusErrors repr packet models payload = [] ↔
      ConstellationTopology.corpusErrors repr packet' models payload' = [] := by
    rw [← List.perm_nil, ← List.perm_nil]
    exact ⟨herrors.symm.trans, herrors.trans⟩
  simp only [validateCorpusIntelligencePacket, hpayload, hpayload', expect, demand, hnil,
    sortedSet_perm herrors, bind, Except.bind]

end ReordersCorpus

/-- **A corpus packet is accepted exactly if it is sound.** Nothing that does not resolve is let
through, nothing that does is refused, and the report does not depend on the order of the records. -/
theorem corpus_accepted_iff_sound (repr : String → String) (packet : CorpusAnalysisPacket)
    (models : List RepositoryModelPacket) :
    (validateCorpusIntelligencePacket repr packet models = .ok () ↔
      ∃ payload, packet.payload = some payload ∧ CorpusSound packet models payload) ∧
    ∀ packet' payload payload', packet.payload = some payload → packet'.payload = some payload' →
      ReordersCorpus packet packet' payload payload' →
        validateCorpusIntelligencePacket repr packet models =
          validateCorpusIntelligencePacket repr packet' models := by
  refine ⟨validateCorpus_eq_ok_iff, ?_⟩
  intro packet' payload payload' hpayload hpayload' h
  exact h.validate hpayload hpayload'

end ConstellationTopology
