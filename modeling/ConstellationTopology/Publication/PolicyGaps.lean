import ConstellationTopology.Library.Checks
import ConstellationTopology.Publication.EffectIdentity
import ConstellationTopology.Publication.Plan

set_option autoImplicit false

/-! # Gaps of the policy

What lowering a fact asks of the policy and of the downstream bounds, in the order it asks
(`factChecks`). A fact fails with a gap of the policy exactly if the first check that is not met
asks for a value of the policy. The plan of `publication/plan.py` fails over such a gap of an entity
or an edge; over one of a claim it skips the claim, as if the claim could not be stated
(`claim_skips_iff`). -/

namespace ConstellationTopology

/-! ## What lowering asks for -/

/-- What a check asks for: a value of the policy, or a bound of the downstream contract. -/
inductive LoweringNeed
  | policyValue
  | bound
  deriving DecidableEq, Repr

/-- What the policy would have had to give. -/
def LoweringFailure.need : LoweringFailure → LoweringNeed
  | .lowering _ => .policyValue
  | .validation _ => .bound

/-- The policy has a value under a key. -/
def mapped {α : Type} (table : List (String × α)) (key : String) : Check LoweringNeed :=
  ⟨.policyValue, (table.lookup key).isSome⟩

/-- A bound holds. -/
def bounded (holds : Prop) [Decidable holds] : Check LoweringNeed := ⟨.bound, holds⟩

section Checks

variable (policy : PublicationPolicy) (packet : TopologyPacket) (index : TopologyIndex)

/-- The locator of a record keeps the bounds of its mirror. -/
def LocatorBounded (record : EvidenceRecord) : Prop :=
  ∀ locator ∈ record.sourceRef.locator, (mirrorLocator locator).Valid

instance (record : EvidenceRecord) : Decidable (LocatorBounded record) :=
  inferInstanceAs (Decidable (∀ locator ∈ record.sourceRef.locator, _))

/-- The kind of a record has a mapping. -/
def kindCheck (record : EvidenceRecord) : Check LoweringNeed :=
  mapped policy.evidenceKindByClass record.evidenceClass.value

/-- What the reference of a record needs. -/
def referenceChecks (record : EvidenceRecord) : List (Check LoweringNeed) :=
  [kindCheck policy record, bounded (LocatorBounded record)]

/-- What a confidence needs. -/
def confidenceChecks (assessment : ConfidenceAssessment) : List (Check LoweringNeed) :=
  [mapped policy.confidenceScoreByLevel assessment.level.value,
    mapped policy.confidenceConflictCeiling assessment.conflictStatus.value,
    bounded (LengthIn 1 100 policy.confidencePolicyVersion)]

/-- What a provenance needs. -/
def provenanceChecks (assessment : ConfidenceAssessment) (owningRepositoryId : Option String) :
    List (Check LoweringNeed) :=
  [mapped policy.sourceTrustByAuthority assessment.authority.value,
    bounded (LengthIn 1 200 (clip 200 packet.producer.name)),
    bounded (∀ id ∈ truthy owningRepositoryId, LengthIn 0 300 id)]

/-- All that the lowering of a fact about a subject asks for. The kinds of the evidence are asked
for again when the key of the write is made. -/
def factChecks (fact : TopologyFact) (subjectId : String) : List (Check LoweringNeed) :=
  let kept := keptEvidence policy index fact.evidenceRefs
  mapped policy.confidenceMethodByDerivation fact.assessment.derivationMethod.value ::
    (kept.flatMap (referenceChecks policy) ++ confidenceChecks policy fact.assessment ++
      provenanceChecks policy packet fact.assessment (index.owner subjectId) ++
      kept.map (kindCheck policy) ++ [bounded (fact.content ≠ "")])

end Checks

/-! ## They decide how the lowering ends -/

section Makes

variable {c : Codec} {policy : PublicationPolicy} {packet : TopologyPacket}
  {index : TopologyIndex} {publishedAt : Timestamp} {assessment : ConfidenceAssessment}

theorem makes_policyValue {α : Type} (table : List (String × α)) (what key : String) :
    Makes LoweringFailure.need [mapped table key] (policyValue table what key) := by
  unfold policyValue mapped
  cases table.lookup key with
  | some value => rfl
  | none => rfl

theorem makes_evidenceKind (record : EvidenceRecord) :
    Makes LoweringFailure.need [kindCheck policy record] (evidenceKind policy record) :=
  makes_policyValue _ _ _

theorem makes_lowerLocator (record : EvidenceRecord) :
    Makes LoweringFailure.need [bounded (LocatorBounded record)] (lowerLocator record) := by
  unfold lowerLocator
  split
  · next hnone =>
      exact makes_of_holds (by simp [LocatorBounded, hnone]) (Makes.pure _)
  · next locator hsome =>
      have hiff : LocatorBounded record ↔ (mirrorLocator locator).Valid := by
        simp [LocatorBounded, hsome]
      by_cases hvalid : (mirrorLocator locator).Valid
      · rw [dif_pos hvalid]
        exact makes_of_holds (hiff.2 hvalid) (Makes.pure _)
      · rw [dif_neg hvalid]
        exact makes_of_fails (mt hiff.1 hvalid) rfl

theorem makes_lowerEvidenceRef (record : EvidenceRecord) :
    Makes LoweringFailure.need (referenceChecks policy record)
      (lowerEvidenceRef policy publishedAt record) :=
  (makes_evidenceKind record).bind fun _ _ => (makes_lowerLocator record).bind_pure _

theorem makes_lowerEvidence (evidenceRefs : List String) (method : ConfidenceMethodName)
    (subjectId : String) :
    Makes LoweringFailure.need
      ((keptEvidence policy index evidenceRefs).flatMap (referenceChecks policy))
      (lowerEvidence policy index evidenceRefs publishedAt method subjectId) :=
  (Makes.mapM _ fun record _ => makes_lowerEvidenceRef record).bind_pure _

theorem makes_makeConfidence (method : ConfidenceMethodName) (count : ℕ) :
    Makes LoweringFailure.need (confidenceChecks policy assessment)
      (makeConfidence policy assessment method count publishedAt) := by
  have hscore : Makes LoweringFailure.need
      [mapped policy.confidenceScoreByLevel assessment.level.value,
        mapped policy.confidenceConflictCeiling assessment.conflictStatus.value]
      (confidenceScore policy assessment) :=
    (makes_policyValue _ _ _).bind fun _ _ => (makes_policyValue _ _ _).bind_pure _
  exact hscore.bind fun score _ => Makes.dite rfl fun _ => Makes.pure _

theorem makes_makeProvenance (owner : Option String) (extractionMethod : String) :
    Makes LoweringFailure.need (provenanceChecks policy packet assessment owner)
      (makeProvenance policy packet assessment owner extractionMethod publishedAt) := by
  have htrust : Makes LoweringFailure.need
      [mapped policy.sourceTrustByAuthority assessment.authority.value]
      (sourceTrust policy assessment) := (makes_policyValue _ _ _).bind_pure _
  exact htrust.bind fun trust _ => Makes.dite rfl fun _ => Makes.dite rfl fun _ => Makes.pure _

theorem makes_localEvidenceSemantics (kept : List EvidenceRecord) :
    Makes LoweringFailure.need (kept.map (kindCheck policy))
      (localEvidenceSemantics policy kept) := by
  rw [← List.flatMap_pure_eq_map]
  exact Makes.mapM kept fun record _ => (makes_evidenceKind record).bind_pure _

/-- The lowering of a fact makes its checks. -/
theorem makes_build {fact : TopologyFact} {subjectId : String} {rest : List String}
    (hids : fact.entityIds = subjectId :: rest) :
    Makes LoweringFailure.need (factChecks policy packet index fact subjectId)
      (build c policy packet index publishedAt fact) := by
  have hparts : Makes LoweringFailure.need
      (mapped policy.confidenceMethodByDerivation fact.assessment.derivationMethod.value ::
        ((keptEvidence policy index fact.evidenceRefs).flatMap (referenceChecks policy) ++
          (confidenceChecks policy fact.assessment ++
            (provenanceChecks policy packet fact.assessment (index.owner subjectId) ++
              (keptEvidence policy index fact.evidenceRefs).map (kindCheck policy)))))
      (lowerParts policy packet index publishedAt fact) := by
    unfold lowerParts
    rw [hids]
    refine Makes.bind (makes_policyValue _ _ _) fun method _ => ?_
    refine (makes_lowerEvidence _ _ _).bind fun evidence hevidence => ?_
    refine (makes_makeConfidence _ _).bind fun _ _ => (makes_makeProvenance _ _).bind fun _ _ => ?_
    -- the kinds are asked for again, of the records that were kept
    obtain ⟨_, _, hkept, _⟩ := lowerEvidence_eq_ok hevidence
    rw [← hkept]
    exact (makes_localEvidenceSemantics _).bind_pure _
  have hbuild := hparts.bind (f := fun parts =>
    if hcontent : fact.content ≠ "" then
      pure (assemble c policy packet index publishedAt fact parts hcontent)
    else .error (.validation "content")) fun parts _ => Makes.dite rfl fun _ => Makes.pure _
  unfold factChecks
  simp only [List.cons_append, List.append_assoc] at hbuild ⊢
  exact hbuild

/-- Lowering a fact meets a gap of the policy exactly if the first check that is not met asks for a
value of the policy. -/
theorem build_gap_iff {fact : TopologyFact} {subjectId : String} {rest : List String}
    (hids : fact.entityIds = subjectId :: rest) :
    (∃ message, build c policy packet index publishedAt fact = .error (.lowering message)) ↔
      firstUnmet (factChecks policy packet index fact subjectId) = some .policyValue := by
  have hmakes : Makes LoweringFailure.need (factChecks policy packet index fact subjectId)
      (build c policy packet index publishedAt fact) := makes_build hids
  rw [← hmakes.error_iff]
  constructor
  · intro h
    obtain ⟨message, h⟩ := h
    exact ⟨_, h, rfl⟩
  · intro h
    obtain ⟨failure, h, hneed⟩ := h
    cases failure with
    | lowering message => exact ⟨message, h⟩
    | validation field => cases hneed

end Makes

/-! ## The entry of a claim -/

section Entry

variable (c : Codec) (policy : PublicationPolicy) (packet : TopologyPacket)
  (index : TopologyIndex) (publishedAt : Timestamp) (record : SemanticClaimRecord)

/-- A part of the triple the claim states is empty. -/
def Unstateable : Prop := record.subjectId = "" ∨ record.predicate = "" ∨ record.object = ""

instance : Decidable (Unstateable record) := by
  unfold Unstateable
  infer_instance

/-- The policy selects the claim. -/
structure SelectsClaim : Prop where
  kind : "semantic_claim" ∈ policy.eligibleEntityKinds
  predicate : policy.claimPredicateSelection record.predicate ≠ some false

/-- The skip of a claim that cannot be stated. -/
def unstateableSkip : PlanEntry :=
  .skipped ⟨.claim, record.claimId, Eligibility.skipUnstateableClaim⟩

/-- The plan skips the claim for want of a triple exactly if the triple is not there, and a claim
that has one is taken as an entity or an edge is: what fails its lowering fails the plan. -/
structure SkipsUnstateable : Prop where
  skipped_iff : claimEntry c policy packet index publishedAt record = .ok (unstateableSkip record) ↔
    Unstateable record
  reported : ¬ Unstateable record → claimEntry c policy packet index publishedAt record =
    lowered (lowerSemanticClaim c policy packet index publishedAt record)

end Entry

section Skips

variable {c : Codec} {policy : PublicationPolicy} {packet : TopologyPacket}
  {index : TopologyIndex} {publishedAt : Timestamp} {record : SemanticClaimRecord}

theorem clip_eq_empty_iff {bound : ℕ} (hbound : 1 ≤ bound) (text : String) :
    clip bound text = "" ↔ text = "" := by
  constructor
  · intro h
    by_contra hne
    have hlength := (lengthIn_clip_of_ne hbound hne).1
    rw [h] at hlength
    exact absurd hlength (by decide)
  · intro h
    rw [h]
    simp [clip]

theorem claimAssertion_isStructured :
    (claimAssertion record).isStructured = true ↔ ¬ Unstateable record := by
  simp [MemoryAssertion.isStructured, claimAssertion, Unstateable, clip_eq_empty_iff, and_assoc]

theorem lowerSemanticClaim_of_unstateable (h : Unstateable record) :
    ∃ message, lowerSemanticClaim c policy packet index publishedAt record =
      .error (.lowering message) :=
  ⟨_, if_neg (mt claimAssertion_isStructured.1 (not_not_intro h))⟩

theorem lowerSemanticClaim_of_stateable (h : ¬ Unstateable record) :
    lowerSemanticClaim c policy packet index publishedAt record =
      build c policy packet index publishedAt (claimFact record) :=
  if_pos (claimAssertion_isStructured.2 h)

/-- A selected claim is skipped exactly if its lowering fails with a lowering error, whatever
raised it. -/
theorem claimEntry_eq_skip_iff (hselected : SelectsClaim policy record) :
    claimEntry c policy packet index publishedAt record = .ok (unstateableSkip record) ↔
      ∃ message, lowerSemanticClaim c policy packet index publishedAt record =
        .error (.lowering message) := by
  unfold claimEntry unstateableSkip
  rw [if_neg (not_not_intro hselected.kind), if_neg hselected.predicate]
  cases lowerSemanticClaim c policy packet index publishedAt record with
  | ok candidate => simp
  | error failure =>
      cases failure with
      -- the handler reads the type of the exception only
      | lowering message => simp
      | validation field => simp

/-- A selected claim whose lowering does not fail so is taken as an entity is. -/
theorem claimEntry_eq_lowered_iff (hselected : SelectsClaim policy record) :
    claimEntry c policy packet index publishedAt record =
        lowered (lowerSemanticClaim c policy packet index publishedAt record) ↔
      ¬ ∃ message, lowerSemanticClaim c policy packet index publishedAt record =
        .error (.lowering message) := by
  unfold claimEntry
  rw [if_neg (not_not_intro hselected.kind), if_neg hselected.predicate]
  cases lowerSemanticClaim c policy packet index publishedAt record with
  | ok candidate => simp [lowered]
  | error failure =>
      cases failure with
      | lowering message => simp [lowered]
      | validation field => simp [lowered]

theorem claim_gap_iff (h : ¬ Unstateable record) :
    (∃ message, lowerSemanticClaim c policy packet index publishedAt record =
        .error (.lowering message)) ↔
      firstUnmet (factChecks policy packet index (claimFact record) record.subjectId) =
        some .policyValue := by
  rw [lowerSemanticClaim_of_stateable h]
  exact build_gap_iff rfl

/-- **Skips do not hide errors, while the policy has no gap.** A selected claim is skipped exactly
if a part of its triple is empty, and every other failure is reported, if and only if a part is
empty or lowering it does not meet a gap of the policy. -/
theorem claim_skips_iff (hselected : SelectsClaim policy record) :
    SkipsUnstateable c policy packet index publishedAt record ↔
      Unstateable record ∨
        firstUnmet (factChecks policy packet index (claimFact record) record.subjectId) ≠
          some .policyValue := by
  by_cases hstate : Unstateable record
  · -- the triple is checked before the policy is asked for anything
    have hskips : SkipsUnstateable c policy packet index publishedAt record := by
      refine ⟨?_, fun hnot => absurd hstate hnot⟩
      rw [claimEntry_eq_skip_iff hselected]
      exact iff_of_true (lowerSemanticClaim_of_unstateable hstate) hstate
    exact iff_of_true hskips (.inl hstate)
  · rw [or_iff_right hstate, ne_eq, ← claim_gap_iff hstate]
    constructor
    · intro hskips
      exact (claimEntry_eq_lowered_iff hselected).1 (hskips.reported hstate)
    · intro hnone
      refine ⟨?_, fun _ => (claimEntry_eq_lowered_iff hselected).2 hnone⟩
      rw [claimEntry_eq_skip_iff hselected]
      exact iff_of_false hnone hstate

end Skips

/-! ## A policy without a method -/

/-- A claim of a manifest that states its triple in full. -/
def statedClaim : SemanticClaimRecord where
  claimId := "claim:1"
  subjectId := "repo:a"
  predicate := "package.dependency"
  object := "numpy"
  sourceAssertionIds := ["assertion:1"]
  confidence := .deterministic
  authority := .validatedMachine
  cardinality := .set
  support := .set
  authority_agrees := rfl
  conflictIds_confirmed := noConflict_confirmed

/-- The policy that maps no derivation to a confidence method. -/
def methodlessPolicy : PublicationPolicy :=
  { publicationPolicy with confidenceMethodByDerivation := [] }

theorem methodlessPolicy_selects : SelectsClaim methodlessPolicy statedClaim :=
  ⟨by decide, by decide⟩

theorem claim_skips_methodless :
    SkipsUnstateable textCodec methodlessPolicy topologyPacket (TopologyIndex.build {})
        ⟨"2026-01-01T00:00:00Z"⟩ statedClaim ↔
      Unstateable statedClaim ∨
        firstUnmet (factChecks methodlessPolicy topologyPacket (TopologyIndex.build {})
          (claimFact statedClaim) statedClaim.subjectId) ≠ some .policyValue :=
  claim_skips_iff methodlessPolicy_selects

/-- A claim with its whole triple is skipped as one that has none. -/
theorem gap_skipped_as_unstateable :
    ¬ ∀ (c : Codec) (policy : PublicationPolicy) (packet : TopologyPacket) (index : TopologyIndex)
      (publishedAt : Timestamp) (record : SemanticClaimRecord), SelectsClaim policy record →
      SkipsUnstateable c policy packet index publishedAt record := by
  intro h
  have hskips := h textCodec methodlessPolicy topologyPacket (TopologyIndex.build {})
    ⟨"2026-01-01T00:00:00Z"⟩ statedClaim methodlessPolicy_selects
  have hstate : ¬ Unstateable statedClaim := by decide
  refine hstate (hskips.skipped_iff.1 ((claimEntry_eq_skip_iff methodlessPolicy_selects).2 ?_))
  exact (claim_gap_iff hstate).2 rfl

end ConstellationTopology
