import ConstellationTopology.Packets.CorpusIntelligence

set_option autoImplicit false

/-! # Whole corpus packets

The domains of `packets/corpus_intelligence.py` that are only measured or requested (readiness and
reasoning), and the packet with the inputs it was computed over. The domains that are compiled into
the topology are those of `CorpusIntelligencePacket`. -/

namespace ConstellationTopology

/-! ## Derived domains -/

/-- Counts of things observed for one subject. -/
structure ReadinessEvidence where
  readinessId : String
  subjectId : String
  profileId : String
  profileVersion : String
  sourceArtifactCount : ℕ := 0
  testArtifactCount : ℕ := 0
  buildManifestCount : ℕ := 0
  ciDefinitionCount : ℕ := 0
  deploymentDefinitionCount : ℕ := 0
  specificationCount : ℕ := 0
  documentationCount : ℕ := 0
  planCount : ℕ := 0
  roadmapCount : ℕ := 0
  wipCount : ℕ := 0
  draftCount : ℕ := 0
  blockedCount : ℕ := 0
  openTaskCount : ℕ := 0
  completedTaskCount : ℕ := 0
  milestoneCount : ℕ := 0
  exactDuplicateCount : ℕ := 0
  nearDuplicateCount : ℕ := 0
  consolidationCandidateCount : ℕ := 0
  coverageGapCount : ℕ := 0
  evidenceRefs : List String := []

/-- What the producer recommends for a candidate, with the members and the evidence pack it names. -/
structure ReasoningRequest extends ReasoningCandidateRequest where
  reasoningCandidateId : String
  reason : String := ""
  memberArtifactIds : List String := []
  evidencePackRef : Option String := none

/-- The domains of a payload beside those of `CorpusIntelligencePayload`. -/
structure AnalysisDomains where
  readinessEvidence : List ReadinessEvidence := []
  reasoningCandidates : List ReasoningRequest := []
  reasoningEvidencePackRefs : List String := []

/-! ## The packet -/

/-- What the versions of the contract say about the statements of domains that did not run. -/
def DomainsStated (packetVersion : String) (domainsNotRun : Option (List CorpusDomainNotRun)) :
    Prop :=
  (packetVersion = "1.0.0" ∧ domainsNotRun = none) ∨
    (packetVersion = "1.1.0" ∧ ∃ statements, domainsNotRun = some statements)

/-- A packet with everything that its validators read. The inputs and the packets of the roots are
Repository Model Packets, and every root names an input. -/
structure CorpusAnalysisPacket extends CorpusIntelligencePacket where
  packetVersion : String := "1.0.0"
  inputs : List PacketRef
  validation : PacketValidationRef
  semanticHash : String
  artifactHash : Option String := none
  analysis : AnalysisDomains := {}
  version_stated : DomainsStated packetVersion domainsNotRun
  inputs_type : ∀ ref ∈ inputs, ref.packetType = "l9.repository-model"
  roots_type : ∀ root ∈ corpus.rootRefs,
    root.repositoryModelPacket.packetType = "l9.repository-model"
  roots_declared : ∀ root ∈ corpus.rootRefs,
    root.repositoryModelPacket.packetId ∈ inputs.map PacketRef.packetId

namespace CorpusAnalysisPacket

variable (packet : CorpusAnalysisPacket)

/-- The identities of the declared inputs. -/
def inputIds : List String := packet.inputs.map PacketRef.packetId

/-- The readiness measurements; none without a payload. -/
def readinessEvidence : List ReadinessEvidence :=
  match packet.payload with
  | none => []
  | some _ => packet.analysis.readinessEvidence

/-- The reasoning requests; none without a payload. -/
def reasoningCandidates : List ReasoningRequest :=
  match packet.payload with
  | none => []
  | some _ => packet.analysis.reasoningCandidates

end CorpusAnalysisPacket

end ConstellationTopology
