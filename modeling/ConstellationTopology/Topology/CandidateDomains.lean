import ConstellationTopology.Compiler
import ConstellationTopology.Topology.Candidates
import Mathlib.Data.List.Perm.Basic

set_option autoImplicit false

/-! # Compiling the candidate domains

`topology/candidates.py` over whole packets, and its place in `compiler.py`: the candidates of a
packet are compiled against the finished graph and shown in it as nodes. What the structure says
against a candidate weakens its class and nothing strengthens it; no candidate becomes an edge
(`candidates_never_promoted`). -/

namespace ConstellationTopology

/-! ## The domains of a packet -/

/-- The `_relation` of `compile_candidate_relations`. -/
def compileCandidateRelation (relation : SemanticPairRelation) : CandidateRelationRecord where
  relationId := relation.relationId
  sourceArtifactId := relation.sourceArtifactId
  targetArtifactId := relation.targetArtifactId
  methods := sortedSet relation.methods
  methodScores := sortedBy CandidateMethodScore.method
    (relation.methodScores.map fun score => ⟨score.method, score.score, score.score_bounds⟩)
  evidenceRefs := sortedSet relation.evidenceRefs
  confidenceClass := relation.confidenceClass
  analysisProfile :=
    relation.analysisProfile.profileId ++ "/" ++ relation.analysisProfile.profileVersion
  upstreamCandidateId := relation.upstreamCandidateId
  confidence := candidateConfidence relation.confidenceClass false
  authority_candidate := rfl
  endpoints_distinct := relation.endpoints_distinct

/-- `compile_candidate_relations`. -/
def compileCandidateRelations (packet : CorpusIntelligencePacket) : List CandidateRelationRecord :=
  match packet.payload with
  | none => []
  | some payload => sortedBy CandidateRelationRecord.relationId
      (payload.semanticPairRelations.map compileCandidateRelation)

/-- The candidates of a packet, domain by domain. -/
def CorpusIntelligencePacket.candidates (packet : CorpusIntelligencePacket) :
    List CandidateCluster :=
  match packet.payload with
  | none => []
  | some payload =>
      payload.topicCandidates ++ payload.projectCandidates ++ payload.consolidationCandidates

/-- `compile_candidate_clusters`. -/
def compileCandidateClusters (packet : CorpusIntelligencePacket) (index : StructuralIndex)
    (readiness : List (String × String)) : List CandidateClusterRecord :=
  sortedBy CandidateClusterRecord.candidateId
    (packet.candidates.map (compileCandidateCluster index readiness))

/-! ## The graph -/

/-- `CANDIDATE_LABEL_PREFIX`. -/
def candidateLabelPrefix : String := "Candidate"

/-- `CANDIDATE_MARKER`. -/
def candidateMarker : String := "canonical"

/-- The node of a cluster. -/
def clusterGraphRecord (cluster : CandidateClusterRecord) : GraphRecord where
  recordType := .node
  label := candidateLabelPrefix ++ "Cluster"
  entityId := cluster.candidateId
  properties := [(candidateMarker, .bool false),
    ("candidate_type", .str cluster.candidateType.value),
    ("confidence_class", .str cluster.confidenceClass.value),
    ("member_entity_ids", Json.strings cluster.memberEntityIds),
    ("member_count", .int cluster.structuralEvidence.memberCount),
    ("structural_support_count", .int cluster.structuralEvidence.structuralSupportCount),
    ("ambiguity_flags", Json.strings cluster.ambiguityFlags),
    ("cross_root", .bool cluster.crossRoot),
    ("analysis_profile", .str cluster.analysisProfile)]
  evidenceRefs := cluster.evidenceRefs
  confidence := cluster.confidence

/-- The node of a relation. -/
def relationGraphRecord (relation : CandidateRelationRecord) : GraphRecord where
  recordType := .node
  label := candidateLabelPrefix ++ "Relation"
  entityId := relation.relationId
  properties := [(candidateMarker, .bool false),
    ("source_artifact_id", .str relation.sourceArtifactId),
    ("target_artifact_id", .str relation.targetArtifactId),
    ("confidence_class", .str relation.confidenceClass.value),
    ("methods", Json.strings relation.methods),
    ("analysis_profile", .str relation.analysisProfile)]
  evidenceRefs := relation.evidenceRefs
  confidence := relation.confidence

/-- `candidate_graph_records`. -/
def candidateGraphRecords (relations : List CandidateRelationRecord)
    (clusters : List CandidateClusterRecord) : List GraphRecord :=
  sortedBy GraphRecord.entityId
    (clusters.map clusterGraphRecord ++ relations.map relationGraphRecord)

/-! ## The compiler -/

/-- `root_by_artifact`; the first root of a repository and the last record of an artifact stand. -/
def rootByArtifact (packets : List CorpusIntelligencePacket) (artifacts : List ArtifactRecord) :
    List (String × String) :=
  let roots := packets.flatMap fun packet => packet.corpus.rootRefs.filterMap fun root =>
    root.repositoryId.map fun repositoryId => (repositoryId, root.rootId)
  (Table.ofRows ArtifactRecord.artifactId artifacts).rows.filterMap fun record =>
    (roots.lookup record.repositoryId).map fun rootId => (record.artifactId, rootId)

/-- `readiness_by_subject`; the first record of a subject stands. -/
def readinessBySubject (records : List ReadinessEvidenceRecord) : List (String × String) :=
  records.map fun record => (record.subjectId, record.readinessId)

/-- The candidate relations of all packets. -/
def compiledCandidateRelations (packets : List CorpusIntelligencePacket) :
    List CandidateRelationRecord :=
  packets.flatMap compileCandidateRelations

namespace CompiledStages

variable (stages : CompiledStages) (packets : List CorpusIntelligencePacket)

/-- The structure candidates are measured against. -/
def structuralIndex : StructuralIndex where
  artifacts := stages.normalized.artifacts
  edges := stages.graph.edges
  claims := stages.claims
  conflicts := stages.conflicts
  rootByArtifact := rootByArtifact packets stages.normalized.artifacts

/-- The candidate clusters of all packets. -/
def candidateClusters (readiness : List ReadinessEvidenceRecord) : List CandidateClusterRecord :=
  packets.flatMap fun packet => compileCandidateClusters packet (stages.structuralIndex packets)
    (readinessBySubject readiness)

/-- The derived domains with the candidates of the packets. -/
def withCandidates (derived : DerivedDomains) : DerivedDomains :=
  { derived with
    candidateRelations := compiledCandidateRelations packets
    candidateClusters := stages.candidateClusters packets derived.readiness
    candidateGraph := candidateGraphRecords (compiledCandidateRelations packets)
      (stages.candidateClusters packets derived.readiness) }

end CompiledStages

/-! ## What is measured -/

section Measured

variable {index : StructuralIndex} {members : List String}

/-- The group speaks for a subject: a member, or the repository of one. -/
def StructuralIndex.SpeaksFor (index : StructuralIndex) (members : List String)
    (subject : String) : Prop :=
  subject ∈ members ∨
    ∃ member ∈ members, (index.artifact? member).map ArtifactRecord.repositoryId = some subject

theorem mem_subjectsFor {subject : String} :
    subject ∈ index.subjectsFor members ↔ index.SpeaksFor members subject := by
  rw [StructuralIndex.subjectsFor, mem_sortedSet, List.mem_append, List.mem_filterMap]
  rfl

/-- A claim states the status of the group. -/
structure StructuralIndex.StatesStatus (index : StructuralIndex) (members : List String)
    (claim : SemanticClaimRecord) : Prop where
  claimed : claim ∈ index.claims
  predicate : claim.predicate = "work.status"
  subject : index.SpeaksFor members claim.subjectId

/-- The status of the group is in conflict: a conflict about it was found, or two claims state
different ones. -/
def StructuralIndex.StatusConflicts (index : StructuralIndex) (members : List String) : Prop :=
  (∃ conflict ∈ index.conflicts,
      (conflict.field = "work.status" ∨ conflict.field = "work.kind") ∧
        index.SpeaksFor members conflict.subjectId) ∨
    ∃ claim other, index.StatesStatus members claim ∧ index.StatesStatus members other ∧
      claim.object ≠ other.object

/-- The types of the edges that support a group. -/
def supportingEdgeTypes : List EdgeType := [.duplicateOf, .references, .dependsOn, .supersedes]

/-- Nothing in the structure connects two members of the group, which has two. -/
structure StructuralIndex.Disconnected (index : StructuralIndex) (members : List String) :
    Prop where
  two : ∃ a ∈ members, ∃ b ∈ members, a ≠ b
  unsupported : ∀ edge ∈ index.edges, edge.edgeType ∈ supportingEdgeTypes →
    edge.sourceId ∈ members → edge.targetId ∈ members → edge.sourceId = edge.targetId

theorem conflictingStatusCount_ne_zero_iff {candidate : CandidateCluster} :
    (index.structuralEvidence candidate).conflictingStatusCount ≠ 0 ↔
      ∃ conflict ∈ index.conflicts,
        (conflict.field = "work.status" ∨ conflict.field = "work.kind") ∧
          index.SpeaksFor candidate.memberArtifactIds.dedup conflict.subjectId := by
  show ((index.subjectsFor candidate.memberArtifactIds.dedup).filter fun subject =>
    decide (subject ∈ index.conflictedSubjects)).length ≠ 0 ↔ _
  rw [ne_eq, List.length_eq_zero_iff, List.filter_eq_nil_iff]
  simp only [decide_eq_true_eq, mem_subjectsFor]
  simp only [StructuralIndex.conflictedSubjects, List.mem_map, List.mem_filter, decide_eq_true_eq]
  constructor
  · intro h
    by_contra hnone
    refine h fun subject hsubject hconflict => ?_
    obtain ⟨conflict, ⟨hmem, hfield⟩, rfl⟩ := hconflict
    exact hnone ⟨conflict, hmem, hfield, hsubject⟩
  · intro h hall
    obtain ⟨conflict, hmem, hfield, hsubject⟩ := h
    exact hall _ hsubject ⟨conflict, ⟨hmem, hfield⟩, rfl⟩

theorem one_lt_statuses_iff {candidate : CandidateCluster} :
    1 < (index.structuralEvidence candidate).workStatusDistribution.length ↔
      ∃ claim other, index.StatesStatus candidate.memberArtifactIds.dedup claim ∧
        index.StatesStatus candidate.memberArtifactIds.dedup other ∧
          claim.object ≠ other.object := by
  have hmem : ∀ object, object ∈ ((index.subjectsFor candidate.memberArtifactIds.dedup).flatMap
      fun subject => (index.claims.filter fun claim =>
        claim.subjectId = subject ∧ claim.predicate = "work.status").map
          SemanticClaimRecord.object) ↔
      ∃ claim, index.StatesStatus candidate.memberArtifactIds.dedup claim ∧
        claim.object = object := by
    intro object
    simp only [List.mem_flatMap, mem_subjectsFor, List.mem_map, List.mem_filter,
      decide_eq_true_eq]
    constructor
    · intro h
      obtain ⟨subject, hsubject, claim, ⟨hclaim, rfl, hpredicate⟩, hobject⟩ := h
      exact ⟨claim, ⟨hclaim, hpredicate, hsubject⟩, hobject⟩
    · intro h
      obtain ⟨claim, hstates, hobject⟩ := h
      exact ⟨_, hstates.subject, claim, ⟨hstates.claimed, rfl, hstates.predicate⟩, hobject⟩
  simp only [StructuralIndex.structuralEvidence, StructuralIndex.distribution, List.length_map]
  rw [one_lt_length_sortedSet_iff]
  constructor
  · intro h
    obtain ⟨_, hx, _, hy, hne⟩ := h
    obtain ⟨claim, hclaim, rfl⟩ := (hmem _).1 hx
    obtain ⟨other, hother, rfl⟩ := (hmem _).1 hy
    exact ⟨claim, other, hclaim, hother, hne⟩
  · intro h
    obtain ⟨claim, other, hclaim, hother, hne⟩ := h
    exact ⟨_, (hmem _).2 ⟨claim, hclaim, rfl⟩, _, (hmem _).2 ⟨other, hother, rfl⟩, hne⟩

/-- No pair of a type lies inside the group exactly if every edge that does is a loop. -/
theorem internalPairs_eq_zero_iff {edgeType : EdgeType} :
    index.internalPairs edgeType members = 0 ↔ ∀ edge ∈ index.edges, edge.edgeType = edgeType →
      edge.sourceId ∈ members → edge.targetId ∈ members → edge.sourceId = edge.targetId := by
  rw [StructuralIndex.internalPairs, List.length_eq_zero_iff, List.filter_eq_nil_iff]
  simp only [StructuralIndex.pairsOf, List.mem_dedup, List.mem_map, List.mem_filter,
    decide_eq_true_eq]
  constructor
  · intro h edge hedge htype hsource htarget
    by_contra hne
    refine h _ ⟨edge, ⟨hedge, htype⟩, rfl⟩ ?_
    -- the pair has the two ends in one order or the other
    unfold canonicalPair
    split
    · exact ⟨hne, hsource, htarget⟩
    · exact ⟨Ne.symm hne, htarget, hsource⟩
  · intro h pair hpair hinside
    obtain ⟨edge, ⟨hedge, htype⟩, rfl⟩ := hpair
    unfold canonicalPair at hinside
    split at hinside
    · exact hinside.1 (h edge hedge htype hinside.2.1 hinside.2.2)
    · exact hinside.1 (h edge hedge htype hinside.2.2 hinside.2.1).symm

theorem structuralSupportCount_eq_zero_iff {candidate : CandidateCluster} :
    (index.structuralEvidence candidate).structuralSupportCount = 0 ↔
      ∀ edge ∈ index.edges, edge.edgeType ∈ supportingEdgeTypes →
        edge.sourceId ∈ candidate.memberArtifactIds.dedup →
          edge.targetId ∈ candidate.memberArtifactIds.dedup → edge.sourceId = edge.targetId := by
  simp only [CandidateStructuralEvidence.structuralSupportCount,
    StructuralIndex.structuralEvidence, Nat.add_eq_zero_iff, internalPairs_eq_zero_iff,
    supportingEdgeTypes, List.mem_cons, List.not_mem_nil, or_false]
  constructor
  · intro h edge hedge htype
    obtain ⟨⟨⟨hduplicates, hreferences⟩, hdependencies⟩, hsupersessions⟩ := h
    rcases htype with htype | htype | htype | htype
    · exact hduplicates edge hedge htype
    · exact hreferences edge hedge htype
    · exact hdependencies edge hedge htype
    · exact hsupersessions edge hedge htype
  · intro h
    refine ⟨⟨⟨?_, ?_⟩, ?_⟩, ?_⟩
    · exact fun edge hedge htype => h edge hedge (.inl htype)
    · exact fun edge hedge htype => h edge hedge (.inr (.inl htype))
    · exact fun edge hedge htype => h edge hedge (.inr (.inr (.inl htype)))
    · exact fun edge hedge htype => h edge hedge (.inr (.inr (.inr htype)))

theorem speaksFor_dedup {subject : String} :
    index.SpeaksFor members.dedup subject ↔ index.SpeaksFor members subject := by
  simp [StructuralIndex.SpeaksFor]

theorem statesStatus_dedup {claim : SemanticClaimRecord} :
    index.StatesStatus members.dedup claim ↔ index.StatesStatus members claim := by
  constructor
  · intro h
    exact ⟨h.claimed, h.predicate, speaksFor_dedup.1 h.subject⟩
  · intro h
    exact ⟨h.claimed, h.predicate, speaksFor_dedup.2 h.subject⟩

theorem one_lt_length_dedup_iff :
    1 < members.dedup.length ↔ ∃ a ∈ members, ∃ b ∈ members, a ≠ b := by
  rw [← one_lt_length_sortedSet_iff, sortedSet, List.length_insertionSort]

/-- The flags of a record are those of the producer, and those the structure raises. -/
theorem mem_ambiguityFlags_iff {candidate : CandidateCluster} {flag : String} :
    flag ∈ ambiguityFlags candidate (index.structuralEvidence candidate) ↔
      flag ∈ candidate.ambiguityFlags ∨
        (flag = ambiguityConflictingStatus ∧
          index.StatusConflicts candidate.memberArtifactIds) ∨
        (flag = ambiguityStructurallyDisconnected ∧
          index.Disconnected candidate.memberArtifactIds) ∨
        (flag = ambiguityCrossRoot ∧ 1 < (index.structuralEvidence candidate).rootCount) := by
  have hconflicts : ((index.structuralEvidence candidate).conflictingStatusCount ≠ 0 ∨
      1 < (index.structuralEvidence candidate).workStatusDistribution.length) ↔
        index.StatusConflicts candidate.memberArtifactIds := by
    rw [conflictingStatusCount_ne_zero_iff, one_lt_statuses_iff]
    simp only [speaksFor_dedup, statesStatus_dedup, StructuralIndex.StatusConflicts]
  -- members are counted once, so two of them are two different ones
  have hdisconnected : (1 < (index.structuralEvidence candidate).memberCount ∧
      (index.structuralEvidence candidate).structuralSupportCount = 0) ↔
        index.Disconnected candidate.memberArtifactIds := by
    rw [structuralSupportCount_eq_zero_iff]
    simp only [List.mem_dedup]
    constructor
    · intro h
      exact ⟨one_lt_length_dedup_iff.1 h.1, h.2⟩
    · intro h
      exact ⟨one_lt_length_dedup_iff.2 h.two, h.unsupported⟩
  have hraised : ∀ {p : Prop} [Decidable p] {raised : String},
      flag ∈ (if p then [raised] else []) ↔ flag = raised ∧ p := by
    intro p _ raised
    by_cases hp : p
    · simp [hp]
    · simp [hp]
  simp only [ambiguityFlags, mem_sortedSet, List.mem_append, hraised, hconflicts, hdisconnected,
    or_assoc]

end Measured

/-! ## Nothing is promoted -/

theorem weakenTo_rank (current proposed : ConfidenceClass) :
    (weakenTo current proposed).rank = min current.rank proposed.rank := by
  unfold weakenTo
  split
  · next hlt => exact (min_eq_right (Nat.le_of_lt hlt)).symm
  · next hle => exact (min_eq_left (Nat.le_of_not_lt hle)).symm

theorem weakenedClass_rank_le (confidenceClass : ConfidenceClass) (flags : List String) :
    (weakenedClass confidenceClass flags).rank ≤ confidenceClass.rank := by
  unfold weakenedClass
  split
  · rw [weakenTo_rank]
    exact min_le_left _ _
  · split
    · rw [weakenTo_rank]
      exact min_le_left _ _
    · exact le_refl _

theorem weakenedClass_of_conflicting {confidenceClass : ConfidenceClass} {flags : List String}
    (h : ambiguityConflictingStatus ∈ flags) : weakenedClass confidenceClass flags = .weak := by
  rw [weakenedClass, if_pos h]
  cases confidenceClass with
  | weak => rfl
  | moderate => rfl
  | strong => rfl

theorem weakenedClass_of_disconnected {confidenceClass : ConfidenceClass} {flags : List String}
    (h : ambiguityStructurallyDisconnected ∈ flags) :
    (weakenedClass confidenceClass flags).rank ≤ ConfidenceClass.moderate.rank := by
  by_cases hconflicting : ambiguityConflictingStatus ∈ flags
  · rw [weakenedClass_of_conflicting hconflicting]
    decide
  · rw [weakenedClass, if_neg hconflicting, if_pos h, weakenTo_rank]
    exact min_le_right _ _

/-- The record says no more of the group than its candidate. -/
structure Unpromoted (index : StructuralIndex) (candidate : CandidateCluster)
    (record : CandidateClusterRecord) : Prop where
  candidateId : record.candidateId = candidate.candidateId
  members : ∀ id, id ∈ record.memberEntityIds ↔ id ∈ candidate.memberArtifactIds
  members_nodup : record.memberEntityIds.Nodup
  class_le : record.confidenceClass.rank ≤ candidate.confidenceClass.rank
  flags_kept : ∀ flag ∈ candidate.ambiguityFlags, flag ∈ record.ambiguityFlags
  authority : record.confidence.authority = .candidate
  weak_of_conflict : ambiguityConflictingStatus ∈ candidate.ambiguityFlags ∨
    index.StatusConflicts candidate.memberArtifactIds → record.confidenceClass = .weak
  moderate_of_disconnected : ambiguityStructurallyDisconnected ∈ candidate.ambiguityFlags ∨
    index.Disconnected candidate.memberArtifactIds →
      record.confidenceClass.rank ≤ ConfidenceClass.moderate.rank

theorem compileCandidateCluster_unpromoted (index : StructuralIndex)
    (readiness : List (String × String)) (candidate : CandidateCluster) :
    Unpromoted index candidate (compileCandidateCluster index readiness candidate) where
  candidateId := rfl
  members := fun _ => mem_sortedSet
  members_nodup := sortedSet_nodup _
  class_le := weakenedClass_rank_le _ _
  flags_kept := fun _ hflag => mem_ambiguityFlags_iff.2 (.inl hflag)
  authority := rfl
  weak_of_conflict := by
    intro h
    refine weakenedClass_of_conflicting (mem_ambiguityFlags_iff.2 ?_)
    exact h.imp_right fun hconflicts => .inl ⟨rfl, hconflicts⟩
  moderate_of_disconnected := by
    intro h
    refine weakenedClass_of_disconnected (mem_ambiguityFlags_iff.2 ?_)
    exact h.imp_right fun hdisconnected => .inr (.inl ⟨rfl, hdisconnected⟩)

/-! ## The order of edges and claims -/

/-- Two indexes differ in the order of their edges and claims only. -/
structure StructuralIndex.Reorders (index index' : StructuralIndex) : Prop where
  artifacts : index.artifacts = index'.artifacts
  edges : index.edges.Perm index'.edges
  claims : index.claims.Perm index'.claims
  conflicts : index.conflicts = index'.conflicts
  roots : index.rootByArtifact = index'.rootByArtifact

section Reorders

variable {index index' : StructuralIndex}

theorem pairsOf_perm (h : index.Reorders index') (edgeType : EdgeType) :
    (index.pairsOf edgeType).Perm (index'.pairsOf edgeType) :=
  ((h.edges.filter _).map _).dedup

theorem internalPairs_reorders (h : index.Reorders index') (edgeType : EdgeType)
    (members : List String) :
    index.internalPairs edgeType members = index'.internalPairs edgeType members :=
  ((pairsOf_perm h edgeType).filter _).length_eq

theorem artifact?_reorders (h : index.Reorders index') : index.artifact? = index'.artifact? := by
  funext artifactId
  rw [StructuralIndex.artifact?, StructuralIndex.artifact?, h.artifacts]

theorem subjectsFor_reorders (h : index.Reorders index') :
    index.subjectsFor = index'.subjectsFor := by
  funext members
  rw [StructuralIndex.subjectsFor, StructuralIndex.subjectsFor, artifact?_reorders h]

theorem distribution_reorders (h : index.Reorders index') :
    index.distribution = index'.distribution := by
  funext subjects predicate
  have hobjects : (subjects.flatMap fun subject => (index.claims.filter fun claim =>
      claim.subjectId = subject ∧ claim.predicate = predicate).map SemanticClaimRecord.object).Perm
        (subjects.flatMap fun subject => (index'.claims.filter fun claim =>
          claim.subjectId = subject ∧ claim.predicate = predicate).map
            SemanticClaimRecord.object) :=
    .flatMap_left _ fun _ _ => (h.claims.filter _).map _
  simp only [StructuralIndex.distribution, sortedSet_perm hobjects, hobjects.count_eq]

theorem externalDependencyTargets_perm (h : index.Reorders index') :
    index.externalDependencyTargets.Perm index'.externalDependencyTargets :=
  (h.edges.filter _).map _

theorem externalDependencies_perm (h : index.Reorders index') (members : List String) :
    (index.externalDependencyTargets.filter fun target =>
      (index.pairsOf .dependsOn).any fun pair =>
        (target = pair.1 ∨ target = pair.2) ∧ (pair.1 ∈ members ∨ pair.2 ∈ members)).Perm
    (index'.externalDependencyTargets.filter fun target =>
      (index'.pairsOf .dependsOn).any fun pair =>
        (target = pair.1 ∨ target = pair.2) ∧ (pair.1 ∈ members ∨ pair.2 ∈ members)) := by
  simp only [(pairsOf_perm h .dependsOn).any_eq]
  exact (externalDependencyTargets_perm h).filter _

theorem structuralEvidence_reorders (h : index.Reorders index') :
    index.structuralEvidence = index'.structuralEvidence := by
  funext candidate
  have hdistribution : ∀ members predicate,
      index.distribution (index.subjectsFor members) predicate =
        index'.distribution (index'.subjectsFor members) predicate := by
    intro members predicate
    rw [distribution_reorders h, subjectsFor_reorders h]
  obtain ⟨artifacts, edges, claims, conflicts, roots⟩ := index
  obtain ⟨artifacts', edges', claims', conflicts', roots'⟩ := index'
  obtain rfl : artifacts = artifacts' := h.artifacts
  obtain rfl : conflicts = conflicts' := h.conflicts
  obtain rfl : roots = roots' := h.roots
  -- Only the counts over edges and the distributions over claims read what is reordered.
  refine (CandidateStructuralEvidence.mk.injEq ..).mpr ?_
  exact ⟨rfl, rfl, rfl, rfl, internalPairs_reorders h _ _, internalPairs_reorders h _ _,
    internalPairs_reorders h _ _, internalPairs_reorders h _ _,
    ((pairsOf_perm h .blockedBy).filter _).length_eq, hdistribution _ _, hdistribution _ _, rfl,
    rfl, (externalDependencies_perm h _).dedup.length_eq⟩

theorem compileCandidateClusters_reorders (h : index.Reorders index')
    (packet : CorpusIntelligencePacket) (readiness : List (String × String)) :
    compileCandidateClusters packet index readiness =
      compileCandidateClusters packet index' readiness := by
  have hcompile : compileCandidateCluster index readiness =
      compileCandidateCluster index' readiness := by
    funext candidate
    simp only [compileCandidateCluster, structuralEvidence_reorders h]
  rw [compileCandidateClusters, compileCandidateClusters, hcompile]

end Reorders

/-! ## Whole packets -/

/-- The clusters of a packet: one record for each candidate, which says no more than it, whatever
the order of the edges and claims it was measured against. -/
structure NeverPromotes (packet : CorpusIntelligencePacket) (index : StructuralIndex)
    (readiness : List (String × String)) : Prop where
  records : ∃ candidates, candidates.Perm packet.candidates ∧ List.Forall₂ (Unpromoted index)
    candidates (compileCandidateClusters packet index readiness)
  order_free : ∀ index', index.Reorders index' →
    compileCandidateClusters packet index readiness =
      compileCandidateClusters packet index' readiness

/-- The candidates of the packets are nodes of the compiled graph, marked as not canonical, and the
edges are those of the graph without them. -/
structure CandidatesContained (stages : CompiledStages) (packets : List CorpusIntelligencePacket)
    (derived : DerivedDomains) : Prop where
  nodes : ∀ record ∈ (stages.withCandidates packets derived).candidateGraph,
    record.recordType = .node ∧ record.properties.lookup candidateMarker = some (.bool false)
  edgeRecords : (stages.state (stages.withCandidates packets derived)).edgeRecords =
    sortedBy EdgeRecord.edgeId stages.graph.edges
  edgesOfGraph : ((stages.state (stages.withCandidates packets derived)).graphRecords.filter
      fun record => record.recordType = .edge).Perm
    (stages.graph.graphRecords.filter fun record => record.recordType = .edge)

theorem compileCandidateClusters_records (packet : CorpusIntelligencePacket)
    (index : StructuralIndex) (readiness : List (String × String)) :
    ∃ candidates, candidates.Perm packet.candidates ∧ List.Forall₂ (Unpromoted index) candidates
      (compileCandidateClusters packet index readiness) := by
  refine ⟨sortedBy CandidateCluster.candidateId packet.candidates, sortedBy_perm _ _, ?_⟩
  have hsorted : compileCandidateClusters packet index readiness =
      (sortedBy CandidateCluster.candidateId packet.candidates).map
        (compileCandidateCluster index readiness) :=
    sortedBy_map packet.candidates fun _ _ => rfl
  rw [hsorted, List.forall₂_map_right_iff]
  exact List.forall₂_same.2 fun candidate _ => compileCandidateCluster_unpromoted _ _ _

theorem candidateGraphRecords_nodes {relations : List CandidateRelationRecord}
    {clusters : List CandidateClusterRecord} {record : GraphRecord}
    (h : record ∈ candidateGraphRecords relations clusters) :
    record.recordType = .node ∧ record.properties.lookup candidateMarker = some (.bool false) := by
  rw [candidateGraphRecords, mem_sortedBy, List.mem_append, List.mem_map, List.mem_map] at h
  rcases h with ⟨cluster, _, rfl⟩ | ⟨relation, _, rfl⟩
  · exact ⟨rfl, rfl⟩
  · exact ⟨rfl, rfl⟩

theorem withCandidates_contained (stages : CompiledStages)
    (packets : List CorpusIntelligencePacket) (derived : DerivedDomains) :
    CandidatesContained stages packets derived where
  nodes := fun _ h => candidateGraphRecords_nodes h
  edgeRecords := rfl
  edgesOfGraph := by
    have hnodes : ((stages.withCandidates packets derived).candidateGraph.filter
        fun record => decide (record.recordType = .edge)) = [] := by
      refine List.filter_eq_nil_iff.2 fun record hrecord hedge => ?_
      rw [decide_eq_true_eq, (candidateGraphRecords_nodes hrecord).1] at hedge
      cases hedge
    refine ((stages.state_graphRecords _).filter _).trans ?_
    rw [List.filter_append, hnodes, List.append_nil]

/-- **Candidates are never promoted.** Every candidate of a packet has one record, no stronger than
the producer's and weaker where the structure speaks against it, and none becomes an edge. -/
theorem candidates_never_promoted :
    (∀ packet index readiness, NeverPromotes packet index readiness) ∧
      ∀ stages packets derived, CandidatesContained stages packets derived := by
  constructor
  · intro packet index readiness
    exact ⟨compileCandidateClusters_records _ _ _,
      fun _ h => compileCandidateClusters_reorders h _ _⟩
  · exact withCandidates_contained

end ConstellationTopology
