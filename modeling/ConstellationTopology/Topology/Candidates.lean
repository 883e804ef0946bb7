import ConstellationTopology.Library.Table
import ConstellationTopology.Packets.CorpusIntelligence
import ConstellationTopology.Topology.WorkProjection

set_option autoImplicit false

/-! # Measuring candidates

`topology/candidates.py`: what the canonical structure says about a group that a producer proposed.
The measurement is published beside the candidate; it may weaken its class but never raise it. -/

namespace ConstellationTopology

/-! ## Confidence -/

/-- `_LEVEL_BY_CLASS`. -/
def levelByClass : ConfidenceClass → ConfidenceLevel
  | .weak => .low
  | .moderate => .low
  | .strong => .medium

/-- `candidate_confidence`. -/
def candidateConfidence (confidenceClass : ConfidenceClass) (conflicted : Bool) :
    ConfidenceAssessment where
  level := levelByClass confidenceClass
  evidenceStrength := .weak
  derivationMethod := .heuristic
  authority := .candidate
  completeness := .partly
  conflictStatus := if conflicted then .possible else .none

/-- `CONFIDENCE_CLASS_ORDER.index`. -/
def ConfidenceClass.rank : ConfidenceClass → ℕ
  | weak => 0
  | moderate => 1
  | strong => 2

/-- `weaken_to`. -/
def weakenTo (current proposed : ConfidenceClass) : ConfidenceClass :=
  if proposed.rank < current.rank then proposed else current

/-! ## The index -/

/-- What `_StructuralIndex` is built from; its tables are the functions below. -/
structure StructuralIndex where
  artifacts : List ArtifactRecord
  edges : List EdgeRecord
  claims : List SemanticClaimRecord
  conflicts : List ConflictRecord
  rootByArtifact : List (String × String)

namespace StructuralIndex

variable (index : StructuralIndex)

/-- The artifact of one id; the last record of an id stands. -/
def artifact? (artifactId : String) : Option ArtifactRecord :=
  (Table.ofRows ArtifactRecord.artifactId index.artifacts).lookup artifactId

/-- `edges_by_type`, for one type: the endpoints of each edge without their direction. -/
def pairsOf (edgeType : EdgeType) : List (String × String) :=
  ((index.edges.filter fun edge => edge.edgeType = edgeType).map fun edge =>
    canonicalPair edge.sourceId edge.targetId).dedup

/-- `internal_pairs`. -/
def internalPairs (edgeType : EdgeType) (members : List String) : ℕ :=
  ((index.pairsOf edgeType).filter fun pair =>
    pair.1 ≠ pair.2 ∧ pair.1 ∈ members ∧ pair.2 ∈ members).length

/-- `subjects_for`. -/
def subjectsFor (members : List String) : List String :=
  sortedSet (members ++ members.filterMap fun member =>
    (index.artifact? member).map ArtifactRecord.repositoryId)

/-- `_distribution`. -/
def distribution (subjects : List String) (predicate : String) : List (String × ℤ) :=
  let objects := subjects.flatMap fun subject =>
    (index.claims.filter fun claim =>
      claim.subjectId = subject ∧ claim.predicate = predicate).map SemanticClaimRecord.object
  (sortedSet objects).map fun object => (object, (objects.count object : ℤ))

/-- `conflicted_subjects`. -/
def conflictedSubjects : List String :=
  (index.conflicts.filter fun conflict =>
    conflict.field = "work.status" ∨ conflict.field = "work.kind").map ConflictRecord.subjectId

/-- `external_dependency_targets`. -/
def externalDependencyTargets : List String :=
  (index.edges.filter fun edge =>
    edge.edgeType = .dependsOn ∧ "package:".toList.isPrefixOf edge.targetId.toList).map
      EdgeRecord.targetId

/-- How many different values there are. -/
def distinctCount {α : Type} [DecidableEq α] (values : List α) : ℕ := values.dedup.length

/-- `_structural_evidence`. -/
def structuralEvidence (candidate : CandidateCluster) : CandidateStructuralEvidence :=
  let members := candidate.memberArtifactIds.dedup
  let subjects := index.subjectsFor members
  { memberCount := members.length
    repositoryCount := distinctCount (members.filterMap fun member =>
      (index.artifact? member).map ArtifactRecord.repositoryId)
    rootCount := distinctCount (members.filterMap fun member =>
      index.rootByArtifact.lookup member)
    archiveMemberCount := (members.filter fun member =>
      member ∈ (index.artifacts.filter fun record => isArchiveMember record.sourcePath).map
        ArtifactRecord.artifactId).length
    internalExactDuplicateCount := index.internalPairs .duplicateOf members
    internalExplicitReferenceCount := index.internalPairs .references members
    internalDependencyCount := index.internalPairs .dependsOn members
    internalSupersessionCount := index.internalPairs .supersedes members
    blockerCount := ((index.pairsOf .blockedBy).filter fun pair =>
      pair.1 ∈ members ∨ pair.2 ∈ members).length
    workStatusDistribution := index.distribution subjects "work.status"
    workKindDistribution := index.distribution subjects "work.kind"
    conflictingStatusCount := (subjects.filter fun subject =>
      subject ∈ index.conflictedSubjects).length
    capabilityCount := distinctCount (members.flatMap fun member =>
      ((index.artifact? member).map ArtifactRecord.capabilities).getD [])
    externalDependencyCount := distinctCount (index.externalDependencyTargets.filter fun target =>
      (index.pairsOf .dependsOn).any fun pair =>
        (target = pair.1 ∨ target = pair.2) ∧ (pair.1 ∈ members ∨ pair.2 ∈ members)) }

end StructuralIndex

/-- `structural_support_count`. -/
def CandidateStructuralEvidence.structuralSupportCount (evidence : CandidateStructuralEvidence) :
    ℕ :=
  evidence.internalExactDuplicateCount + evidence.internalExplicitReferenceCount +
    evidence.internalDependencyCount + evidence.internalSupersessionCount

/-! ## The record -/

/-- `AMBIGUITY_CONFLICTING_STATUS`. -/
def ambiguityConflictingStatus : String := "conflicting_status"

/-- `AMBIGUITY_STRUCTURALLY_DISCONNECTED`. -/
def ambiguityStructurallyDisconnected : String := "structurally_disconnected_members"

/-- `AMBIGUITY_CROSS_ROOT`. -/
def ambiguityCrossRoot : String := "spans_multiple_roots"

/-- `_ambiguity_flags`. -/
def ambiguityFlags (candidate : CandidateCluster) (evidence : CandidateStructuralEvidence) :
    List String :=
  sortedSet (candidate.ambiguityFlags ++
    (if evidence.conflictingStatusCount ≠ 0 ∨ 1 < evidence.workStatusDistribution.length then
      [ambiguityConflictingStatus] else []) ++
    (if 1 < evidence.memberCount ∧ evidence.structuralSupportCount = 0 then
      [ambiguityStructurallyDisconnected] else []) ++
    (if 1 < evidence.rootCount then [ambiguityCrossRoot] else []))

/-- The class of a candidate, weakened by what the structure says against it. -/
def weakenedClass (confidenceClass : ConfidenceClass) (flags : List String) : ConfidenceClass :=
  if ambiguityConflictingStatus ∈ flags then weakenTo confidenceClass .weak
  else if ambiguityStructurallyDisconnected ∈ flags then weakenTo confidenceClass .moderate
  else confidenceClass

/-- The record that `compile_candidate_clusters` makes of one candidate. -/
def compileCandidateCluster (index : StructuralIndex) (readiness : List (String × String))
    (candidate : CandidateCluster) : CandidateClusterRecord :=
  let evidence := index.structuralEvidence candidate
  let flags := ambiguityFlags candidate evidence
  let confidenceClass := weakenedClass candidate.confidenceClass flags
  { candidateId := candidate.candidateId
    candidateType := candidate.candidateType
    memberEntityIds := sortedSet candidate.memberArtifactIds
    supportingRelationIds := sortedSet candidate.supportingRelationIds
    evidenceRefs := sortedSet candidate.evidenceRefs
    confidenceClass := confidenceClass
    ambiguityFlags := flags
    crossRoot := 1 < evidence.rootCount || candidate.crossRoot
    crossArchive := candidate.crossArchive
    analysisProfile :=
      candidate.analysisProfile.profileId ++ "/" ++ candidate.analysisProfile.profileVersion
    upstreamCandidateId := some (match candidate.upstreamCandidateId with
      | some upstream => if upstream = "" then candidate.candidateId else upstream
      | none => candidate.candidateId)
    structuralEvidence := evidence
    readinessEvidenceRef := readiness.lookup candidate.candidateId
    confidence := candidateConfidence confidenceClass (ambiguityConflictingStatus ∈ flags)
    authority_candidate := rfl
    members_nonempty := fun hnil =>
      candidate.members_nonempty (sortedSet_eq_nil_iff.1 hnil) }

end ConstellationTopology
