import ConstellationTopology.Publication.Contracts
import ConstellationTopology.Reconciliation.Predicates

set_option autoImplicit false

/-! # The publication policy

`publication/policy.py`: which topology facts are published, and how their judgements become the
scores, methods and kinds of the downstream contract. -/

namespace ConstellationTopology

/-- Whether relations have to qualify. -/
inductive RelationQualificationMode
  | legacy
  | strict
  deriving DecidableEq, Repr

/-- Which claims are published. -/
inductive ClaimPublicationMode
  | all
  | selective
  deriving DecidableEq, Repr

/-- The default of `source_trust_by_authority`. -/
def defaultSourceTrust : List (String × ℚ) :=
  [("source", 1), ("validated-machine", 9 / 10), ("derived", 7 / 10), ("candidate", 1 / 2),
    ("unknown", 3 / 10)]

/-- The scores are finite numbers. The last five fields are `claim_selection_is_explicit`. -/
structure PublicationPolicy where
  id : String
  version : String
  namespaceRoot : String
  eligibleEntityKinds : List String
  eligibleEdgeTypes : List String
  entityMemoryClass : MemoryClassName
  relationshipMemoryClass : MemoryClassName
  claimMemoryClass : MemoryClassName := .semantic
  confidenceScoreByLevel : List (String × ℚ)
  confidenceConflictCeiling : List (String × ℚ)
  confidenceMethodByDerivation : List (String × ConfidenceMethodName)
  evidenceKindByClass : List (String × EvidenceKindName)
  sourceTrustByAuthority : List (String × ℚ) := defaultSourceTrust
  requireValidatedTopology : Bool := true
  requireResolvedLineage : Bool := true
  holdOnMaterialConflict : Bool := true
  holdOnMaterialUnknown : Bool := true
  holdOnMissingRequiredEvidence : Bool := true
  holdOnUnsupportedPredicate : Bool := true
  maximumEvidenceRefsPerCandidate : ℕ := 32
  relationQualification : RelationQualificationMode := .legacy
  claimPublication : ClaimPublicationMode := .all
  eligibleClaimPredicates : List String := []
  declarationOnlyClaimPredicates : List String := []
  id_nonempty : id ≠ ""
  version_nonempty : version ≠ ""
  namespaceRoot_length : LengthIn 1 200 namespaceRoot
  maximumEvidenceRefs_pos : 1 ≤ maximumEvidenceRefsPerCandidate
  selection_explicit : claimPublication = .all →
    eligibleClaimPredicates ++ declarationOnlyClaimPredicates = []
  selection_nodup : (eligibleClaimPredicates ++ declarationOnlyClaimPredicates).Nodup
  selection_supported : ∀ p ∈ eligibleClaimPredicates ++ declarationOnlyClaimPredicates,
    p ∈ supportedPredicates
  eligible_not_declarationOnly : ∀ p ∈ eligibleClaimPredicates, p ∉ declarationOnlyPredicates
  declarationOnly_optedIn : ∀ p ∈ declarationOnlyClaimPredicates, p ∈ declarationOnlyPredicates

namespace PublicationPolicy

variable (policy : PublicationPolicy)

/-- The policy under its version. -/
def identity : String := policy.id ++ "/" ++ policy.version

/-- Value recorded as `Confidence.policy_version` downstream. -/
def confidencePolicyVersion : String := "l9-topology-publication/" ++ policy.version

/-- `claim_predicate_selection`; `none` when selection has no rule for the predicate. -/
def claimPredicateSelection (predicate : String) : Option Bool :=
  match policy.claimPublication with
  | .all => some true
  | .selective =>
      if predicate ∉ supportedPredicates then none
      else if predicate ∈ declarationOnlyPredicates then
        some (predicate ∈ policy.declarationOnlyClaimPredicates)
      else some (predicate ∈ policy.eligibleClaimPredicates)

end PublicationPolicy

end ConstellationTopology
