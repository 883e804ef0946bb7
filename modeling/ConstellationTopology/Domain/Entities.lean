import ConstellationTopology.Domain.Confidence
import ConstellationTopology.Run.SourcePath

set_option autoImplicit false

/-! # Repositories, artifacts and capabilities

The canonical records of what a repository-model packet declares. -/

namespace ConstellationTopology

/-- A repository, with what was observed in it. -/
structure RepositoryRecord where
  repositoryId : String
  name : String
  sourceRevision : String
  packetRef : String
  primaryRole : String := "unknown"
  secondaryRoles : List String := []
  languages : List String := []
  packageManagers : List String := []
  entrypoints : List String := []
  workflows : List String := []
  adrRefs : List String := []
  governanceRefs : List String := []
  capabilityIds : List String := []
  artifactIds : List String := []
  upstreamRepositoryIds : List String := []
  downstreamRepositoryIds : List String := []
  unresolvedDependencies : List String := []
  ownerIds : List String := []
  evidenceRefs : List String := []
  confidence : ConfidenceAssessment := .unknown
  deriving DecidableEq, Repr

/-- The source path is portable. -/
structure ArtifactRecord where
  artifactId : String
  repositoryId : String
  sourcePath : String
  artifactType : String
  family : Option String := none
  contentHash : String
  bodyHash : Option String := none
  capabilities : List String := []
  dependencies : List String := []
  evidenceRefs : List String := []
  packetRef : String
  confidence : ConfidenceAssessment := .unknown
  sourcePath_portable : ∃ raw, normalizeSourcePath raw = .ok sourcePath
  deriving DecidableEq

/-- A capability, with who implements and exposes it. -/
structure CapabilityRecord where
  capabilityId : String
  name : String
  description : String
  implementedBy : List String := []
  exposedBy : List String := []
  validatedBy : List String := []
  governedBy : List String := []
  evidenceRefs : List String := []
  confidence : ConfidenceAssessment := .unknown
  deriving DecidableEq, Repr

end ConstellationTopology
