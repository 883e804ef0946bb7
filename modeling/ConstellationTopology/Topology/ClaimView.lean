import ConstellationTopology.Domain.Topology
import ConstellationTopology.Library.Collection
import ConstellationTopology.Packets.StatementEvidence
import ConstellationTopology.Topology.ClaimProjection

set_option autoImplicit false

/-! # Claims as they are read

The views of `topology/claim_view.py`: a reconciled claim, read through the predicate registry, with
the places its evidence was read at. Conflict and projection stand beside the reading. -/

namespace ConstellationTopology

/-! ## The reading of a predicate -/

/-- What a claim under a predicate establishes. -/
inductive PredicateInterpretation
  | declaration
  | auxiliaryObservation
  | unresolvedValue
  | unsupportedField
  | unsupportedPredicate
  deriving DecidableEq, Repr

/-- What the registry says of a predicate. -/
def predicateInterpretation (predicate : String) : PredicateInterpretation :=
  if predicate ∈ unresolvedFieldPredicates then .unresolvedValue
  else if predicate ∈ unsupportedFieldPredicates then .unsupportedField
  else
    match predicateSupport predicate with
    | .unsupported => .unsupportedPredicate
    | .auxiliary => .auxiliaryObservation
    | .set | .single => .declaration

/-- `HEADER_SEMANTICS_LEDGER`. -/
def headerSemanticsLedger : String := "l9.artifact-header-model/global@1"

/-- `MANAGED_HEADER_VOCABULARY`. -/
def managedHeaderVocabulary : String := "l9-meta-injector:managed-header"

/-- The predicate of a field in a namespace. -/
def HeaderField.predicate (field : HeaderField) (headerNamespace : String) : String :=
  "meta." ++ headerNamespace ++ "." ++ field.category ++ "." ++ field.field

/-- The vocabulary and the field that declare a predicate. -/
def predicateDeclaration (predicate : String) : Option (String × HeaderField) :=
  match headerFields.find? fun field =>
      headerSchemaNamespaces.any fun headerNamespace =>
        field.predicate headerNamespace = predicate with
  | some field => some (headerSemanticsLedger, field)
  | none =>
      (managedHeaderFields.find? fun field => field.predicate "managed" = predicate).map
        fun field => (managedHeaderVocabulary, field)

/-- `_value_kind`. -/
def valueKindOf (predicate : String) : Option String :=
  (predicateDeclaration predicate).map fun declared => declared.2.valueKind

/-- Where the registry defines a predicate. -/
def predicateDefinition (predicate : String) : Option String :=
  (predicateDeclaration predicate).map fun declared =>
    declared.1 ++ "#fields." ++ declared.2.field

/-! ## Views -/

/-- Where one piece of evidence was read; the locator as it is dumped. -/
structure SourceLocation where
  evidenceId : String
  sourcePath : Option String := none
  lineNumber : Option ℕ := none
  contentHash : Option String := none
  sourceRevision : Option String := none
  packetId : Option String := none
  locator : Option Json := none

/-- Whether a claim was projected. -/
inductive ProjectionStatus
  | projected
  | notProjected
  | notProjectable
  | withheld
  deriving DecidableEq, Repr

/-- A claim as the view shows it. -/
structure SemanticClaimView where
  claimId : String
  subjectId : String
  subjectKind : String
  predicate : String
  rawValue : String
  valueKind : Option String := none
  interpretation : PredicateInterpretation
  definitionRef : Option String := none
  support : PredicateSupport
  cardinality : Cardinality
  authority : Authority
  confidence : ConfidenceAssessment
  conflictStatus : ConflictStatus
  conflictIds : List String
  sourceAssertionIds : List String
  evidenceRefs : List String
  sourceLocations : List SourceLocation
  missingEvidenceRefs : List String
  projectionStatus : ProjectionStatus
  projectionWithheldReason : Option ProjectionIneligibility := none
  projectedEntityIds : List String
  interpretationPolicyRef : String

/-- `subject_kind`: what stands before the first colon. -/
def subjectKind (subjectId : String) : String :=
  let kind := subjectId.toList.takeWhile (· ≠ ':')
  if ':' ∉ subjectId.toList ∨ kind = [] then "unknown"
  else if kind = "repo".toList then "repository"
  else String.ofList kind

/-- `_location`. -/
def EvidenceRecord.location (evidence : EvidenceRecord) : SourceLocation where
  evidenceId := evidence.evidenceId
  sourcePath := evidence.sourceRef.sourcePath
  lineNumber := evidence.sourceRef.lineNumber
  contentHash := evidence.sourceRef.contentHash
  sourceRevision := evidence.sourceRef.sourceRevision
  packetId := evidence.sourceRef.packetId
  locator := evidence.sourceRef.locator.map SourceLocator.dump

/-- `_projection_status`. -/
def projectionStatusOf (claim : SemanticClaimRecord) : ProjectionStatus :=
  if claim.projected then .projected
  else
    match projectionIneligibility claim with
    | some .predicateNotProjectable => .notProjectable
    | some .conflicted => .withheld
    | none => .notProjected

/-- `_withheld_reason`. -/
def withheldReasonOf (claim : SemanticClaimRecord) : Option ProjectionIneligibility :=
  let reason := projectionIneligibility claim
  if claim.projected ∨ reason = some .predicateNotProjectable then none else reason

/-- `claim_view`; `policyRef` names the registry that this build reads with. -/
def claimView (evidenceById : Table EvidenceRecord.evidenceId) (policyRef : String)
    (claim : SemanticClaimRecord) : SemanticClaimView where
  claimId := claim.claimId
  subjectId := claim.subjectId
  subjectKind := subjectKind claim.subjectId
  predicate := claim.predicate
  rawValue := claim.object
  valueKind := valueKindOf claim.predicate
  interpretation := predicateInterpretation claim.predicate
  definitionRef := predicateDefinition claim.predicate
  support := claim.support
  cardinality := claim.cardinality
  authority := claim.authority
  confidence := claim.confidence
  conflictStatus := claim.conflictStatus
  conflictIds := claim.conflictIds
  sourceAssertionIds := claim.sourceAssertionIds
  evidenceRefs := claim.evidenceRefs
  sourceLocations := sortedBy SourceLocation.evidenceId
    ((claim.evidenceRefs.filterMap evidenceById.lookup).map EvidenceRecord.location)
  missingEvidenceRefs := claim.evidenceRefs.filter fun ref => (evidenceById.lookup ref).isNone
  projectionStatus := projectionStatusOf claim
  projectionWithheldReason := withheldReasonOf claim
  projectedEntityIds := claim.projectedEntityIds
  interpretationPolicyRef := policyRef

/-- A reason is given exactly for what the boundary withheld. -/
theorem withheldReasonOf_isSome (claim : SemanticClaimRecord) :
    (withheldReasonOf claim).isSome ↔ projectionStatusOf claim = .withheld := by
  unfold withheldReasonOf projectionStatusOf
  cases claim.projected with
  | true => simp
  | false =>
      cases projectionIneligibility claim with
      | none => simp
      | some reason => cases reason <;> simp

/-! ## The index -/

/-- The views of one packet in the order of their claims, each claim once. -/
structure SemanticClaimIndex where
  views : List SemanticClaimView
  packetPredicatePolicyHash : Option String := none
  sorted : views.Pairwise fun a b => a.claimId < b.claimId

namespace SemanticClaimIndex

theorem sorted_of_nodup {views : List SemanticClaimView}
    (h : (views.map SemanticClaimView.claimId).Nodup) :
    (sortedBy SemanticClaimView.claimId views).Pairwise fun a b => a.claimId < b.claimId := by
  have hnodup : ((sortedBy SemanticClaimView.claimId views).map SemanticClaimView.claimId).Nodup :=
    ((sortedBy_perm _ _).map _).nodup_iff.2 h
  rw [List.Nodup, List.pairwise_map] at hnodup
  exact ((sortedBy_sorted SemanticClaimView.claimId views).and hnodup).imp
    fun {_ _} hab => lt_of_le_of_ne hab.1 hab.2

/-- `SemanticClaimIndex(views)`. -/
def ofViews (views : List SemanticClaimView) (policyHash : Option String := none) :
    Except String SemanticClaimIndex :=
  if h : (views.map SemanticClaimView.claimId).Nodup then
    .ok { views := sortedBy SemanticClaimView.claimId views
          packetPredicatePolicyHash := policyHash
          sorted := sorted_of_nodup h }
  else .error "a packet carries two claims with one claim_id"

/-- `from_state`. -/
def fromState (state : TopologyState) (policyRef : String) (policyHash : Option String := none) :
    Except String SemanticClaimIndex :=
  ofViews (state.semanticClaims.map
    (claimView (Table.ofRows EvidenceRecord.evidenceId state.evidence) policyRef)) policyHash

variable (index : SemanticClaimIndex)

theorem ids_nodup : (index.views.map SemanticClaimView.claimId).Nodup := by
  rw [List.Nodup, List.pairwise_map]
  exact index.sorted.imp fun {_ _} h => h.ne

/-- A claim has one view. -/
theorem eq_of_claimId {v w : SemanticClaimView} (hv : v ∈ index.views) (hw : w ∈ index.views)
    (h : v.claimId = w.claimId) : v = w :=
  List.inj_on_of_nodup_map index.ids_nodup hv hw h

end SemanticClaimIndex

end ConstellationTopology
