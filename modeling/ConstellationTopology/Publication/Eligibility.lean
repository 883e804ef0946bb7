import ConstellationTopology.Publication.Lowering

set_option autoImplicit false

/-! # Eligibility

`publication/eligibility.py`: a lowered candidate is rejected, held for what is unresolved about it,
or admitted, and the decision says why. A candidate is admitted exactly when nothing rejects it and
nothing holds it (`decide_eligible_iff`). -/

namespace ConstellationTopology

/-- Whether a record is published. -/
inductive EligibilityStatus
  | eligible
  | held
  | rejected
  deriving DecidableEq, Repr

/-- The name of the status. -/
def EligibilityStatus.value : EligibilityStatus → String
  | eligible => "eligible"
  | held => "held"
  | rejected => "rejected"

theorem EligibilityStatus.value_injective : Function.Injective EligibilityStatus.value := by
  intro a b h
  cases a <;> cases b <;> simp_all [value]

/-- The decision on one record, with its reason. -/
structure EligibilityDecision where
  status : EligibilityStatus
  reasons : List String := []
  deriving DecidableEq, Repr

namespace Eligibility

/-! ## Reasons -/

/-- `REASON_MISSING_LINEAGE`. -/
def reasonMissingLineage : String := "lineage.missing_repository_model_packets"

/-- `REASON_UNRESOLVED_ENTITY`. -/
def reasonUnresolvedEntity : String := "lineage.unresolved_topology_entity"

/-- `REASON_MATERIAL_CONFLICT`. -/
def reasonMaterialConflict : String := "conflict.unresolved_material"

/-- `REASON_MATERIAL_UNKNOWN`. -/
def reasonMaterialUnknown : String := "unknown.unresolved_material"

/-- `REASON_MISSING_EVIDENCE`. -/
def reasonMissingEvidence : String := "evidence.required_but_missing"

/-- `REASON_UNSUPPORTED_PREDICATE`. -/
def reasonUnsupportedPredicate : String := "predicate.unsupported_by_registry"

/-- `REASON_ADMITTED`. -/
def reasonAdmitted : String := "policy.admitted"

/-- `SKIP_ENTITY_KIND`. -/
def skipEntityKind : String := "policy.entity_kind_not_selected"

/-- `SKIP_EDGE_TYPE`. -/
def skipEdgeType : String := "policy.edge_type_not_selected"

/-- `SKIP_CANDIDATE_DOMAIN`. -/
def skipCandidateDomain : String := "policy.candidate_domain_not_published"

/-- `SKIP_READINESS_DOMAIN`. -/
def skipReadinessDomain : String := "policy.readiness_evidence_not_published"

/-- `SKIP_REASONING_DOMAIN`. -/
def skipReasoningDomain : String := "policy.reasoning_candidate_not_published"

/-- `SKIP_UNRESOLVED_WORK_TARGET`. -/
def skipUnresolvedWorkTarget : String := "relation.work_target_not_exactly_resolved"

/-- `SKIP_UNSTATEABLE_CLAIM`. -/
def skipUnstateableClaim : String := "claim.not_expressible_as_assertion"

/-- `SKIP_CLAIM_PREDICATE`. -/
def skipClaimPredicate : String := "policy.claim_predicate_not_selected"

/-- `SKIP_DECLARATION_ONLY_CLAIM`. -/
def skipDeclarationOnlyClaim : String := "policy.declaration_only_claim_not_opted_in"

/-! ## The decision -/

/-- `EligibilityContext`. -/
structure Context where
  policy : PublicationPolicy
  packet : TopologyPacket
  index : TopologyIndex
  knownEntityIds : List String

/-- `EligibilityContext.build`. -/
def Context.build (policy : PublicationPolicy) (packet : TopologyPacket) (state : TopologyState)
    (index : TopologyIndex) : Context where
  policy := policy
  packet := packet
  index := index
  knownEntityIds := state.repositoryRecords.map RepositoryRecord.repositoryId
    ++ state.artifactRecords.map ArtifactRecord.artifactId
    ++ state.capabilityRecords.map CapabilityRecord.capabilityId
    ++ state.graphRecords.map GraphRecord.entityId

variable (candidate : LoweredCandidate) (context : Context)

/-- `_material_conflicts`. -/
def materialConflicts : List String :=
  sortedSet (candidate.sourceTopologyEntityIds.flatMap fun entityId =>
    ((context.index.conflictsBySubject entityId).filter fun conflict =>
      conflict.blocking ∨ conflict.field ∈ candidate.receipt.sourceFields).map
        ConflictRecord.conflictId)

/-- `_material_unknowns`: an unknown without a field is material to everything on its subject. -/
def materialUnknowns : List String :=
  sortedSet (candidate.sourceTopologyEntityIds.flatMap fun entityId =>
    ((context.index.unknownsBySubject entityId).filter fun unknown =>
      ∀ field ∈ unknown.field, field ∈ candidate.receipt.sourceFields).map UnknownRecord.unknownId)

/-- A reason that applies under a condition. -/
def reasonIf (condition : Prop) [Decidable condition] (reason : String) : List String :=
  if condition then [reason] else []

/-- `rejections`. -/
def rejections : List String :=
  reasonIf (context.policy.requireResolvedLineage = true ∧
      context.packet.inputs.repositoryModelPackets = []) reasonMissingLineage
    ++ reasonIf (context.policy.requireResolvedLineage = true ∧
      ¬ ∀ entityId ∈ candidate.sourceTopologyEntityIds, entityId ∈ context.knownEntityIds)
        reasonUnresolvedEntity

/-- `holds`. -/
def holds : List String :=
  reasonIf (context.policy.holdOnMaterialConflict = true ∧
      materialConflicts candidate context ≠ []) reasonMaterialConflict
    ++ reasonIf (context.policy.holdOnMaterialUnknown = true ∧
      materialUnknowns candidate context ≠ []) reasonMaterialUnknown
    ++ reasonIf (context.policy.holdOnMissingRequiredEvidence = true ∧
      candidate.requiresEvidence = true ∧ ¬ candidate.hasResolvedEvidence = true)
        reasonMissingEvidence
    ++ reasonIf (context.policy.holdOnUnsupportedPredicate = true ∧
      candidate.receipt.predicateSupport = some "unsupported") reasonUnsupportedPredicate

/-- `decide`. -/
def decide : EligibilityDecision :=
  if rejections candidate context ≠ [] then ⟨.rejected, sortedSet (rejections candidate context)⟩
  else if holds candidate context ≠ [] then ⟨.held, sortedSet (holds candidate context)⟩
  else ⟨.eligible, [reasonAdmitted]⟩

/-! ## What admission says -/

variable {candidate context}

theorem decide_eligible_iff :
    (decide candidate context).status = .eligible ↔
      rejections candidate context = [] ∧ holds candidate context = [] := by
  unfold decide
  by_cases hrejections : rejections candidate context = []
  · by_cases hholds : holds candidate context = []
    · simp [hrejections, hholds]
    · simp [hrejections, hholds]
  · simp [hrejections]

@[simp] theorem reasonIf_eq_nil_iff {condition : Prop} [Decidable condition] {reason : String} :
    reasonIf condition reason = [] ↔ ¬ condition := by
  unfold reasonIf
  split <;> simp_all

/-- No conflict is material to an admitted candidate. -/
theorem materialConflicts_of_eligible (h : (decide candidate context).status = .eligible)
    (hpolicy : context.policy.holdOnMaterialConflict = true) :
    materialConflicts candidate context = [] := by
  have hholds := (decide_eligible_iff.1 h).2
  simp only [holds, List.append_eq_nil_iff, reasonIf_eq_nil_iff] at hholds
  by_contra hne
  exact hholds.1.1.1 ⟨hpolicy, hne⟩

/-- The registry has a rule for the predicate of an admitted candidate. -/
theorem supported_of_eligible (h : (decide candidate context).status = .eligible)
    (hpolicy : context.policy.holdOnUnsupportedPredicate = true) :
    candidate.receipt.predicateSupport ≠ some "unsupported" := by
  have hholds := (decide_eligible_iff.1 h).2
  simp only [holds, List.append_eq_nil_iff, reasonIf_eq_nil_iff] at hholds
  exact fun hsupport => hholds.2 ⟨hpolicy, hsupport⟩

/-- A conflict about a field the candidate was lowered from is material to it. -/
theorem materialConflicts_ne_nil {conflict : ConflictRecord}
    (hsubject : conflict.subjectId ∈ candidate.sourceTopologyEntityIds)
    (hconflict : conflict ∈ context.index.conflictsBySubject conflict.subjectId)
    (hfield : conflict.field ∈ candidate.receipt.sourceFields) :
    materialConflicts candidate context ≠ [] := by
  intro hnil
  rw [materialConflicts, sortedSet_eq_nil_iff, List.flatMap_eq_nil_iff] at hnil
  have hnone := hnil _ hsubject
  rw [List.map_eq_nil_iff, List.filter_eq_nil_iff] at hnone
  exact hnone _ hconflict (by simp [hfield])

end Eligibility

end ConstellationTopology
