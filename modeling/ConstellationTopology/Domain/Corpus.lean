import ConstellationTopology.Domain.Confidence

set_option autoImplicit false

/-! # Corpus and roots

`domain/corpus.py`: what a compile over several roots was made of. -/

namespace ConstellationTopology

/-- How a root's identity was established. -/
inductive RootIdentityClass
  | declared
  | inferred
  deriving DecidableEq, Repr

/-- The identity class as it is serialized. -/
def RootIdentityClass.value : RootIdentityClass → String
  | declared => "declared"
  | inferred => "inferred"

/-- A root that was observed, and the packet that observed it. -/
structure RootRecord where
  rootId : String
  identityClass : RootIdentityClass
  sourceRevision : String
  repositoryModelPacketId : String
  repositoryId : Option String := none
  evidenceRefs : List String := []
  confidence : ConfidenceAssessment
  deriving DecidableEq, Repr

/-- A corpus and its roots. -/
structure CorpusRecord where
  corpusId : String
  corpusSourceSnapshotId : String
  corpusAnalysisId : String
  rootIds : List String := []
  coverageRef : Option String := none
  evidenceRefs : List String := []
  confidence : ConfidenceAssessment
  deriving DecidableEq, Repr

/-- `root_confidence`: an inferred root never carries source authority. -/
def rootConfidence : RootIdentityClass → ConfidenceAssessment
  | .declared =>
      { level := .high
        evidenceStrength := .direct
        derivationMethod := .declared
        authority := .source
        completeness := .sufficient
        conflictStatus := .none }
  | .inferred =>
      { level := .medium
        evidenceStrength := .direct
        derivationMethod := .deterministic
        authority := .derived
        completeness := .sufficient
        conflictStatus := .none }

/-- `corpus_confidence`. -/
def corpusConfidence : ConfidenceAssessment where
  level := .medium
  evidenceStrength := .direct
  derivationMethod := .deterministic
  authority := .derived
  completeness := .sufficient
  conflictStatus := .none

end ConstellationTopology
