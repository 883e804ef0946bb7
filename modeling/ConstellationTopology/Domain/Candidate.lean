import ConstellationTopology.Domain.Confidence

set_option autoImplicit false

/-! # The domains that are never canonical

`domain/candidate.py`, `domain/readiness.py` and `domain/reasoning.py`: proposed relations and
clusters, the counts measured over them, and the requests to reason about them. The authority a
record may carry is a field of it. -/

namespace ConstellationTopology

/-- What a candidate proposes its members to be. -/
inductive CandidateType
  | topicCandidate
  | projectCandidate
  | consolidationCandidate
  deriving DecidableEq, Repr

/-- The candidate type as it is serialized. -/
def CandidateType.value : CandidateType → String
  | topicCandidate => "TOPIC_CANDIDATE"
  | projectCandidate => "PROJECT_CANDIDATE"
  | consolidationCandidate => "CONSOLIDATION_CANDIDATE"

/-- How strongly a candidate is proposed. -/
inductive ConfidenceClass
  | weak
  | moderate
  | strong
  deriving DecidableEq, Repr

/-- The class as it is serialized. -/
def ConfidenceClass.value : ConfidenceClass → String
  | weak => "weak"
  | moderate => "moderate"
  | strong => "strong"

/-! ## Candidates -/

/-- The score one method gives. -/
structure CandidateMethodScore where
  method : String
  score : ℚ
  score_bounds : 0 ≤ score ∧ score ≤ 1
  deriving DecidableEq

/-- A proposed relation of two artifacts. -/
structure CandidateRelationRecord where
  relationId : String
  sourceArtifactId : String
  targetArtifactId : String
  methods : List String := []
  methodScores : List CandidateMethodScore := []
  evidenceRefs : List String := []
  confidenceClass : ConfidenceClass
  analysisProfile : String
  upstreamCandidateId : Option String := none
  confidence : ConfidenceAssessment
  authority_candidate : confidence.authority = .candidate
  endpoints_distinct : sourceArtifactId ≠ targetArtifactId
  deriving DecidableEq

/-- Counts over the records the topology already holds. -/
structure CandidateStructuralEvidence where
  memberCount : ℕ := 0
  repositoryCount : ℕ := 0
  rootCount : ℕ := 0
  archiveMemberCount : ℕ := 0
  internalExactDuplicateCount : ℕ := 0
  internalExplicitReferenceCount : ℕ := 0
  internalDependencyCount : ℕ := 0
  internalSupersessionCount : ℕ := 0
  blockerCount : ℕ := 0
  workStatusDistribution : List (String × ℤ) := []
  workKindDistribution : List (String × ℤ) := []
  conflictingStatusCount : ℕ := 0
  capabilityCount : ℕ := 0
  externalDependencyCount : ℕ := 0
  deriving DecidableEq, Repr

/-- A proposed group of artifacts. -/
structure CandidateClusterRecord where
  candidateId : String
  candidateType : CandidateType
  memberEntityIds : List String
  supportingRelationIds : List String := []
  evidenceRefs : List String := []
  confidenceClass : ConfidenceClass
  ambiguityFlags : List String := []
  crossRoot : Bool := false
  crossArchive : Bool := false
  analysisProfile : String
  upstreamCandidateId : Option String := none
  structuralEvidence : CandidateStructuralEvidence := {}
  readinessEvidenceRef : Option String := none
  confidence : ConfidenceAssessment
  authority_candidate : confidence.authority = .candidate
  members_nonempty : memberEntityIds ≠ []
  deriving DecidableEq

/-! ## Readiness -/

/-- Readiness measurements for one subject: counts, under their field names. -/
structure ReadinessEvidenceRecord where
  readinessId : String
  subjectId : String
  profileId : String
  profileVersion : String
  sourceArtifactCount : ℕ := 0
  testArtifactCount : ℕ := 0
  buildManifestCount : ℕ := 0
  ciDefinitionCount : ℕ := 0
  deploymentDefinitionCount : ℕ := 0
  specificationCount : ℕ := 0
  documentationCount : ℕ := 0
  planCount : ℕ := 0
  roadmapCount : ℕ := 0
  wipCount : ℕ := 0
  draftCount : ℕ := 0
  blockedCount : ℕ := 0
  openTaskCount : ℕ := 0
  completedTaskCount : ℕ := 0
  milestoneCount : ℕ := 0
  exactDuplicateCount : ℕ := 0
  nearDuplicateCount : ℕ := 0
  consolidationCandidateCount : ℕ := 0
  coverageGapCount : ℕ := 0
  evidenceRefs : List String := []
  confidence : ConfidenceAssessment
  authority_not_source : confidence.authority ≠ .source
  deriving DecidableEq

/-! ## Reasoning -/

/-- What a reasoner is asked to do. -/
inductive ReasoningType
  | none
  | sameBodyOfWorkAdjudication
  | projectIdentityAdjudication
  | versionEvolutionAnalysis
  | consolidationAnalysis
  | supersessionAnalysis
  | conflictResolutionAnalysis
  deriving DecidableEq, Repr

/-- The reasoning type as it is serialized. -/
def ReasoningType.value : ReasoningType → String
  | none => "NONE"
  | sameBodyOfWorkAdjudication => "SAME_BODY_OF_WORK_ADJUDICATION"
  | projectIdentityAdjudication => "PROJECT_IDENTITY_ADJUDICATION"
  | versionEvolutionAnalysis => "VERSION_EVOLUTION_ANALYSIS"
  | consolidationAnalysis => "CONSOLIDATION_ANALYSIS"
  | supersessionAnalysis => "SUPERSESSION_ANALYSIS"
  | conflictResolutionAnalysis => "CONFLICT_RESOLUTION_ANALYSIS"

/-- One bounded, deterministic reasoning request. -/
structure TopologyReasoningCandidate where
  reasoningCandidateId : String
  candidateId : String
  upstreamRecommendedReasoningType : Option ReasoningType := Option.none
  topologyRecommendedReasoningType : ReasoningType
  reason : String := ""
  triggerSignals : List String := []
  structuralSignals : List String := []
  conflictRefs : List String := []
  unknownRefs : List String := []
  readinessRef : Option String := Option.none
  evidenceRefs : List String := []
  boundedNeighborhoodRefs : List String := []
  deriving DecidableEq, Repr

end ConstellationTopology
