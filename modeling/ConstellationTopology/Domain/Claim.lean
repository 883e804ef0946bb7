import ConstellationTopology.Domain.Confidence

set_option autoImplicit false

/-! # Semantic claims

`domain/claim.py`: one reconciled statement with the evidence that supports it. -/

namespace ConstellationTopology

/-- The reconciliation arity of a fact. -/
inductive Cardinality
  | single
  | set
  | unknown
  deriving DecidableEq, Repr

/-- The cardinality as it is serialized. -/
def Cardinality.value : Cardinality → String
  | single => "single"
  | set => "set"
  | unknown => "unknown"

/-- How the predicate registry classified a predicate. -/
inductive PredicateSupport
  | set
  | single
  | auxiliary
  | unsupported
  deriving DecidableEq, Repr

/-- The support as it is serialized. -/
def PredicateSupport.value : PredicateSupport → String
  | set => "set"
  | single => "single"
  | auxiliary => "auxiliary"
  | unsupported => "unsupported"

/-- A claim states its authority twice, and names conflicts exactly when its status is confirmed. -/
structure SemanticClaimRecord where
  claimId : String
  subjectId : String
  predicate : String
  object : String
  sourceAssertionIds : List String := []
  evidenceRefs : List String := []
  confidence : ConfidenceAssessment
  authority : Authority
  cardinality : Cardinality
  support : PredicateSupport
  conflictStatus : ConflictStatus := .none
  conflictIds : List String := []
  projected : Bool := false
  projectedEntityIds : List String := []
  authority_agrees : authority = confidence.authority
  conflictIds_confirmed : conflictIds ≠ [] ↔ conflictStatus = .confirmed
  deriving DecidableEq

/-- A claim in no conflict states none. -/
theorem noConflict_confirmed : ([] : List String) ≠ [] ↔ ConflictStatus.none = .confirmed := by
  simp

/-- The logical claim: what the record says, without who said it. -/
def SemanticClaimRecord.triple (claim : SemanticClaimRecord) : String × String × String :=
  (claim.subjectId, claim.predicate, claim.object)

end ConstellationTopology
