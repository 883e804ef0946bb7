import ConstellationTopology.Domain.Candidate
import ConstellationTopology.Domain.Corpus
import ConstellationTopology.Packets.RepositoryModel

set_option autoImplicit false

/-! # Corpus Intelligence Packets

`packets/corpus_intelligence.py`: what an analysis of several roots adds to the packets it was
computed over. -/

namespace ConstellationTopology

/-- One work statement of a document, with where it stands. -/
structure DocumentWorkSignal where
  signalId : String
  artifactId : String
  subjectId : String
  predicate : String
  object : String
  sourcePath : String
  locator : SourceLocator
  sourceContentHash : String
  documentFormat : String
  evidenceExcerpt : String
  extractorId : String
  decoderId : String
  decoderVersion : String
  evidenceClass : StatementClass
  authority : String
  confidence : String
  locator_valid : locator.Valid

/-! ## Scope -/

/-- A root of the corpus, bound to the packet of its model. -/
structure CorpusRootRef where
  rootId : String
  identityClass : RootIdentityClass
  sourceRevision : String
  repositoryModelPacket : PacketRef
  repositoryId : Option String := none

/-- The denominators of the corpus. -/
structure CorpusCoverage where
  rootCountRequested : ℕ
  rootCountObserved : ℕ
  rootCountFailed : ℕ
  artifactCount : ℕ
  archiveCount : ℕ
  archiveMemberCount : ℕ
  decoderEligibleCount : ℕ
  normalizedDocumentCount : ℕ
  interpretedArtifactCount : ℕ
  unsupportedFormatCount : ℕ
  coverageGapCount : ℕ

/-- What the analysis was of. -/
structure CorpusDescriptor where
  corpusId : String
  corpusSourceSnapshotId : String
  corpusAnalysisId : String
  rootRefs : List CorpusRootRef
  coverage : CorpusCoverage
  rootIds_nodup : (rootRefs.map CorpusRootRef.rootId).Nodup

/-! ## Domains -/

/-- Byte identity between two artifacts. -/
structure ExactDuplicateRelation where
  relationId : String
  duplicateClusterId : String
  artifactAId : String
  artifactBId : String
  contentHash : String
  contentHash_nonempty : contentHash ≠ ""
  endpoints_distinct : artifactAId ≠ artifactBId

/-- The profile an analysis ran under. -/
structure CorpusAnalysisProfileRef where
  profileId : String
  profileVersion : String
  profileHash : String

/-- One scored similarity method behind a candidate relation. -/
structure PairMethodScore where
  method : String
  score : ℚ
  score_bounds : 0 ≤ score ∧ score ≤ 1

/-- A candidate relation between two artifacts. -/
structure SemanticPairRelation where
  relationId : String
  sourceArtifactId : String
  targetArtifactId : String
  methods : List String := []
  methodScores : List PairMethodScore := []
  evidenceRefs : List String := []
  confidenceClass : ConfidenceClass
  analysisProfile : CorpusAnalysisProfileRef
  upstreamCandidateId : Option String := none
  endpoints_distinct : sourceArtifactId ≠ targetArtifactId

/-- A group of artifacts that an analysis profile proposed. -/
structure CandidateCluster where
  candidateId : String
  candidateType : CandidateType
  memberArtifactIds : List String
  supportingRelationIds : List String := []
  evidenceRefs : List String := []
  confidenceClass : ConfidenceClass
  ambiguityFlags : List String := []
  crossRoot : Bool := false
  crossArchive : Bool := false
  analysisProfile : CorpusAnalysisProfileRef
  upstreamCandidateId : Option String := none
  members_nonempty : memberArtifactIds ≠ []

/-- What the producer recommends for a candidate; the fields that routing reads. -/
structure ReasoningCandidateRequest where
  candidateId : String
  recommendedReasoningType : ReasoningType

/-- `CORPUS_PAYLOAD_FIELDS`. -/
inductive CorpusPayloadField
  | documentWorkSignals
  | exactDuplicateRelations
  | semanticPairRelations
  | topicCandidates
  | projectCandidates
  | consolidationCandidates
  | readinessEvidence
  | reasoningCandidates
  | reasoningEvidencePackRefs
  deriving DecidableEq, Repr

/-- The name of the field in the payload. -/
def CorpusPayloadField.value : CorpusPayloadField → String
  | documentWorkSignals => "document_work_signals"
  | exactDuplicateRelations => "exact_duplicate_relations"
  | semanticPairRelations => "semantic_pair_relations"
  | topicCandidates => "topic_candidates"
  | projectCandidates => "project_candidates"
  | consolidationCandidates => "consolidation_candidates"
  | readinessEvidence => "readiness_evidence"
  | reasoningCandidates => "reasoning_candidates"
  | reasoningEvidencePackRefs => "reasoning_evidence_pack_refs"

/-- A domain that no pass of the producer populated. -/
structure CorpusDomainNotRun where
  domain : CorpusPayloadField
  reason : String

/-- The domains that are compiled into canonical records and into candidates. A candidate carries the
type of the domain it is filed under. -/
structure CorpusIntelligencePayload where
  documentWorkSignals : List DocumentWorkSignal := []
  exactDuplicateRelations : List ExactDuplicateRelation := []
  semanticPairRelations : List SemanticPairRelation := []
  topicCandidates : List CandidateCluster := []
  projectCandidates : List CandidateCluster := []
  consolidationCandidates : List CandidateCluster := []
  topicCandidates_type : ∀ candidate ∈ topicCandidates,
    candidate.candidateType = .topicCandidate := by simp
  projectCandidates_type : ∀ candidate ∈ projectCandidates,
    candidate.candidateType = .projectCandidate := by simp
  consolidationCandidates_type : ∀ candidate ∈ consolidationCandidates,
    candidate.candidateType = .consolidationCandidate := by simp

/-- A 1.1.0 packet states each domain it did not run once, a 1.0.0 packet states none. -/
structure CorpusIntelligencePacket where
  packetId : String
  producer : Producer
  corpus : CorpusDescriptor
  domainsNotRun : Option (List CorpusDomainNotRun) := none
  payload : Option CorpusIntelligencePayload := none
  domains_nodup : ∀ statements ∈ domainsNotRun,
    (statements.map CorpusDomainNotRun.domain).Nodup

end ConstellationTopology
