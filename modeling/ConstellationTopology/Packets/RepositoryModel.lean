import ConstellationTopology.Domain.Edge
import ConstellationTopology.Domain.Entities
import ConstellationTopology.Packets.TopologyPacket
import ConstellationTopology.Run.Evidence

set_option autoImplicit false

/-! # Repository Model Packets

`packets/repository_model.py`: what one repository declares about itself. A 1.0.0 packet has no
assertion domain, a 1.1.0 packet may have an empty one. -/

namespace ConstellationTopology

/-- The two evidence classes a producer may name for a statement. -/
inductive StatementClass
  | declared
  | observed
  deriving DecidableEq, Repr

/-- The class under which the evidence of the statement is recorded. -/
def StatementClass.evidenceClass : StatementClass → EvidenceClass
  | declared => .declared
  | observed => .observed

/-- One statement of a producer, with where it was read. -/
structure RepositoryModelAssertion where
  assertionId : String
  subjectId : String
  predicate : String
  object : String
  sourcePath : String
  startLine : ℕ
  endLine : ℕ
  evidenceExcerpt : String
  sourceContentHash : String
  extractorId : String
  evidenceClass : StatementClass
  authority : String
  confidence : String
  startLine_positive : 1 ≤ startLine
  endLine_positive : 1 ≤ endLine

/-- The domains of a packet; `assertions` is none for one older than that domain. -/
structure RepositoryModelPayload where
  repositories : List RepositoryRecord := []
  artifacts : List ArtifactRecord := []
  capabilities : List CapabilityRecord := []
  relationships : List EdgeRecord := []
  evidence : List EvidenceRecord := []
  diagnostics : List (List (String × Json)) := []
  assertions : Option (List RepositoryModelAssertion) := none

/-- Identity of the producer's interpretation profile, when it ran. -/
structure InterpretationProfileRef where
  profileId : String
  profileVersion : String
  profileHash : String
  extractorVersions : List (String × String) := []

/-- A Repository Model packet; `revision` and `snapshotHash` are its `source_snapshot`. -/
structure RepositoryModelPacket where
  packetVersion : String := "1.1.0"
  packetId : String
  repositoryId : String
  revision : String
  snapshotHash : String
  validation : PacketValidationRef := ⟨.passed, none⟩
  producer : Producer
  profile : ProfileRef
  schemaHash : String
  semanticHash : String
  payloadRefs : List (String × String) := []
  payload : Option RepositoryModelPayload := none
  interpretationProfile : Option InterpretationProfileRef := none

/-- `packet.payload.assertions or ()`. -/
def RepositoryModelPayload.statements (payload : RepositoryModelPayload) :
    List RepositoryModelAssertion :=
  payload.assertions.getD []

end ConstellationTopology
