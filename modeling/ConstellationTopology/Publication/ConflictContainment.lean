import ConstellationTopology.Compiler
import ConstellationTopology.Publication.PlanConservation

set_option autoImplicit false

/-! # Disputed claims stay contained

A claim is disputed when its question has several answers and the registry does not say that it may
have them. Reconciliation marks such a claim, both projectors pass it over, and a policy that holds
what is unresolved holds its candidate: the conflict names the claim's subject and predicate, and
these are among the fields the candidate was lowered from. -/

namespace ConstellationTopology

/-! ## Disputed claims -/

/-- Several answers, to a question of one answer or of unknown arity. -/
def Contested (statements : List SemanticInput) (claim : SemanticClaimRecord) : Prop :=
  predicateCardinality claim.predicate ≠ .set ∧
    ReconcileAssertions.Disagree statements claim.subjectId claim.predicate

section Reconciled

variable {c : Codec} {repr : String → String} {statements : List SemanticInput}
  {evidence : List EvidenceRecord} {claim : SemanticClaimRecord}

/-- A disputed claim is marked. -/
theorem conflictStatus_ne_none
    (hclaim : claim ∈ (ReconcileAssertions.run c repr statements evidence).claims)
    (hcontested : Contested statements claim) : claim.conflictStatus ≠ .none := by
  obtain ⟨hcardinality, hdisagree⟩ := hcontested
  cases hpredicate : predicateCardinality claim.predicate with
  | set => exact absurd hpredicate hcardinality
  | single =>
      obtain ⟨conflict, hconflict, hsubject, hfield⟩ :=
        (ReconcileAssertions.conflict_iff c _ _).2 ⟨hpredicate, hdisagree⟩
      rw [(ReconcileAssertions.conflict_named c hconflict hclaim hsubject.symm hfield.symm).2]
      exact nofun
  | unknown =>
      rw [ReconcileAssertions.possible c hclaim hpredicate hdisagree]
      exact nofun

/-- A claim says how the registry classified its predicate. -/
theorem claim_support
    (hclaim : claim ∈ (ReconcileAssertions.run c repr statements evidence).claims) :
    claim.support = predicateSupport claim.predicate := by
  obtain ⟨statement, -, rfl⟩ := (ReconcileAssertions.mem_claims c).1 hclaim
  rfl

theorem not_eligible_of_contested
    (hclaim : claim ∈ (ReconcileAssertions.run c repr statements evidence).claims)
    (hcontested : Contested statements claim) : ¬ eligibleForCanonicalProjection claim = true :=
  fun heligible => conflictStatus_ne_none hclaim hcontested (eligible_iff.1 heligible).2

end Reconciled

/-! ## Projection -/

/-- What the projectors make of claims comes from undisputed ones, and disputed ones give nothing. -/
structure ProjectionContained (c : Codec) (repr : String → String) (statements : List SemanticInput)
    (claims : List SemanticClaimRecord) (artifacts : List ArtifactRecord) : Prop where
  withheld : ∀ claim ∈ claims, Contested statements claim →
    projectClaim c repr claim = none ∧
      projectWorkClaim c (WorkTargetIndex.build artifacts) claim = none
  edges : ∀ edge ∈ (projectClaims c repr claims).edges, ∃ claim ∈ claims,
    ¬ Contested statements claim ∧
      ∃ projected, projectClaim c repr claim = some projected ∧ edge ∈ projected.edges
  nodes : ∀ node ∈ (projectClaims c repr claims).nodes, ∃ claim ∈ claims,
    ¬ Contested statements claim ∧
      ∃ projected, projectClaim c repr claim = some projected ∧ node ∈ projected.nodes
  capabilities : ∀ capability ∈ (projectClaims c repr claims).capabilities, ∃ claim ∈ claims,
    ¬ Contested statements claim ∧
      ∃ projected, projectClaim c repr claim = some projected ∧ capability ∈ projected.capabilities
  workEdges : ∀ edge ∈ (projectWorkRelations c claims artifacts).edges, ∃ claim ∈ claims,
    ¬ Contested statements claim ∧
      ∃ relation, projectWorkClaim c (WorkTargetIndex.build artifacts) claim = some relation ∧
        edge = relation.edge
  workNodes : ∀ node ∈ (projectWorkRelations c claims artifacts).nodes, ∃ claim ∈ claims,
    ¬ Contested statements claim ∧
      ∃ relation, projectWorkClaim c (WorkTargetIndex.build artifacts) claim = some relation ∧
        relation.node = some node

theorem projection_contained (c : Codec) (repr : String → String) (statements : List SemanticInput)
    (evidence : List EvidenceRecord) (artifacts : List ArtifactRecord) :
    ProjectionContained c repr statements
      (ReconcileAssertions.run c repr statements evidence).claims artifacts where
  withheld := by
    intro claim hclaim hcontested
    have hnot := not_eligible_of_contested hclaim hcontested
    exact ⟨if_neg hnot, if_neg hnot⟩
  edges := by
    intro edge hedge
    obtain ⟨claim, hclaim, projected, hprojected, hmem⟩ := mem_projected_edges hedge
    refine ⟨claim, hclaim, fun hcontested => ?_, projected, hprojected, hmem⟩
    exact not_eligible_of_contested hclaim hcontested (projectClaim_eq_some.1 hprojected).1
  nodes := by
    intro node hnode
    obtain ⟨claim, hclaim, projected, hprojected, hmem⟩ := mem_projected_nodes hnode
    refine ⟨claim, hclaim, fun hcontested => ?_, projected, hprojected, hmem⟩
    exact not_eligible_of_contested hclaim hcontested (projectClaim_eq_some.1 hprojected).1
  capabilities := by
    intro capability hcapability
    obtain ⟨claim, hclaim, projected, hprojected, hmem⟩ := mem_projected_capabilities hcapability
    refine ⟨claim, hclaim, fun hcontested => ?_, projected, hprojected, hmem⟩
    exact not_eligible_of_contested hclaim hcontested (projectClaim_eq_some.1 hprojected).1
  workEdges := by
    intro edge hedge
    obtain ⟨claim, hclaim, relation, hrelation, heq⟩ := mem_work_edges hedge
    refine ⟨claim, hclaim, fun hcontested => ?_, relation, hrelation, heq⟩
    exact not_eligible_of_contested hclaim hcontested (projectWorkClaim_eq_some.1 hrelation).1
  workNodes := by
    intro node hnode
    obtain ⟨claim, hclaim, relation, hrelation, heq⟩ := mem_work_nodes hnode
    refine ⟨claim, hclaim, fun hcontested => ?_, relation, hrelation, heq⟩
    exact not_eligible_of_contested hclaim hcontested (projectWorkClaim_eq_some.1 hrelation).1

/-! ## Publication -/

/-- The state of a topology over what reconciliation returned: its claims, stamped with what they
    projected, and at least its conflicts. -/
structure CarriesReconciliation (state : TopologyState) (reconciled : Reconciliation) : Prop where
  claims : ∀ record ∈ state.semanticClaims, ∃ claim ∈ reconciled.claims,
    ∃ entitiesByClaim, record = claim.stamped entitiesByClaim
  conflicts : reconciled.conflicts ⊆ state.conflicts

/-- The compiler's state is one. -/
theorem compiled_carriesReconciliation {c : Codec} {text : PythonText} {inputs : CompileInputs}
    {stages : CompiledStages} (h : compileStages c text inputs = .ok stages)
    (derived : DerivedDomains) :
    CarriesReconciliation (stages.state derived)
      (ReconcileAssertions.run c text.repr stages.statements stages.evidence.evidence) := by
  obtain ⟨normalized, -, signalEvidence, -, rfl⟩ := (compileStages_eq_ok c text).1 h
  constructor
  · intro record hrecord
    obtain ⟨claim, hclaim, rfl⟩ := List.mem_map.1 (mem_sortedBy.1 hrecord)
    exact ⟨claim, hclaim, _, rfl⟩
  · intro conflict hconflict
    exact mem_sortedBy.2 (List.mem_append_right _ hconflict)

/-- The four switches that hold a candidate are on. -/
structure PublicationPolicy.HoldsUnresolved (policy : PublicationPolicy) : Prop where
  conflict : policy.holdOnMaterialConflict = true
  unknown : policy.holdOnMaterialUnknown = true
  evidence : policy.holdOnMissingRequiredEvidence = true
  predicate : policy.holdOnUnsupportedPredicate = true

section Lowered

variable {c : Codec} {policy : PublicationPolicy} {packet : TopologyPacket} {index : TopologyIndex}
  {publishedAt : Timestamp}

/-- What a candidate keeps of the fact it was built from. -/
theorem lowered_of_build {fact : TopologyFact} {lowered : LoweredCandidate}
    (h : build c policy packet index publishedAt fact = .ok lowered) :
    lowered.candidateKind = fact.candidateKind ∧
      lowered.sourceTopologyEntityIds = fact.entityIds ∧
        lowered.receipt.sourceFields = fact.sourceFields ∧
          lowered.receipt.predicateSupport = fact.provenance.support := by
  obtain ⟨parts, -, hcontent, rfl⟩ := build_eq_ok.1 h
  exact ⟨rfl, rfl, rfl, rfl⟩

/-- Only claims are lowered to claim candidates. -/
theorem eq_claim_of_lowersTo {record : PlannedRecord} {lowered : LoweredCandidate}
    (h : record.LowersTo c policy packet index publishedAt lowered)
    (hkind : lowered.candidateKind = .claim) : ∃ claim, record = .claim claim := by
  cases record with
  | claim claim => exact ⟨claim, rfl⟩
  | repository record =>
      rw [(lowered_of_build h).1] at hkind
      cases hkind
  | capability record =>
      rw [(lowered_of_build h).1] at hkind
      cases hkind
  | edge record =>
      obtain ⟨qualification, hlower⟩ := h
      have hrecord : (PublishedRecord.relationship record qualification).lower c policy packet index
          publishedAt = .ok lowered := hlower
      rw [(lowered_of_build (build_of_lower hrecord)).1] at hkind
      cases hkind
  | artifact _ | candidateRelation _ | candidateCluster _ | readiness _ | reasoning _ => cases h

end Lowered

section Plan

variable {c : Codec} {str : Json → String} {policy : PublicationPolicy}
  {materialized : MaterializedTopology} {publishedAt : Timestamp} {plan : PublicationPlan}
  {repr : String → String} {statements : List SemanticInput} {evidence : List EvidenceRecord}

/-- The candidate was lowered from the claim. -/
def ClaimCandidate (c : Codec) (policy : PublicationPolicy) (materialized : MaterializedTopology)
    (publishedAt : Timestamp) (claim : SemanticClaimRecord) (candidate : PublicationCandidate) :
    Prop :=
  ∃ lowered, lowerSemanticClaim c policy materialized.packet
      (TopologyIndex.build materialized.state) publishedAt claim = .ok lowered ∧
    candidate = toCandidate (Eligibility.Context.build policy materialized.packet
      materialized.state (TopologyIndex.build materialized.state)) lowered

/-- Every claim candidate of a plan is a claim's, and those of disputed claims and of claims without
    a rule are not eligible. -/
structure PublicationContained (c : Codec) (policy : PublicationPolicy)
    (materialized : MaterializedTopology) (publishedAt : Timestamp)
    (statements : List SemanticInput) (plan : PublicationPlan) : Prop where
  lowered : ∀ candidate ∈ plan.candidates, candidate.candidateKind = .claim →
    ∃ claim ∈ materialized.state.semanticClaims,
      ClaimCandidate c policy materialized publishedAt claim candidate
  withheld : ∀ claim ∈ materialized.state.semanticClaims,
    Contested statements claim ∨ predicateSupport claim.predicate = .unsupported →
      ∀ candidate ∈ plan.candidates, ClaimCandidate c policy materialized publishedAt claim candidate →
        candidate.eligibility.status ≠ .eligible

/-- A claim candidate was lowered from a claim of the state. -/
theorem exists_claim_of_candidate
    (h : buildPublicationPlan c str policy materialized publishedAt = .ok plan)
    {candidate : PublicationCandidate} (hcandidate : candidate ∈ plan.candidates)
    (hkind : candidate.candidateKind = .claim) :
    ∃ claim ∈ materialized.state.semanticClaims,
      ClaimCandidate c policy materialized publishedAt claim candidate := by
  obtain ⟨entries, hentries, rfl⟩ := buildPublicationPlan_eq_ok h
  obtain ⟨lowered, hlowered, rfl⟩ := List.mem_map.1 (mem_sortedBy.1 hcandidate)
  obtain ⟨entry, hentry, hsome⟩ := List.mem_filterMap.1 hlowered
  obtain rfl : entry = .candidate lowered := by
    cases entry with
    | candidate found => rw [Option.some.inj hsome]
    | skipped _ => cases hsome
  obtain ⟨record, hrecord, haccounts⟩ :=
    exists_of_mem_forall₂ (planEntries_accounts hentries) hentry
  obtain ⟨claim, rfl⟩ := eq_claim_of_lowersTo haccounts hkind
  refine ⟨claim, ?_, lowered, haccounts, rfl⟩
  simpa [plannedRecords] using hrecord

/-- A disputed claim is stopped by its conflict, one without a rule by its classification. -/
theorem not_eligible_of_lowered
    (hstate : CarriesReconciliation materialized.state
      (ReconcileAssertions.run c repr statements evidence))
    (hpolicy : policy.HoldsUnresolved) {claim : SemanticClaimRecord}
    (hclaim : claim ∈ materialized.state.semanticClaims)
    (hdisputed : Contested statements claim ∨ predicateSupport claim.predicate = .unsupported)
    {candidate : PublicationCandidate}
    (hcandidate : ClaimCandidate c policy materialized publishedAt claim candidate) :
    candidate.eligibility.status ≠ .eligible := by
  intro heligible
  obtain ⟨lowered, hlower, rfl⟩ := hcandidate
  obtain ⟨source, hsource, entitiesByClaim, rfl⟩ := hstate.claims claim hclaim
  have hrecord : (PublishedRecord.claim (source.stamped entitiesByClaim)).lower c policy
      materialized.packet (TopologyIndex.build materialized.state) publishedAt = .ok lowered :=
    hlower
  obtain ⟨-, hids, hfields, hsupport⟩ := lowered_of_build (build_of_lower hrecord)
  have hunsupported : predicateSupport source.predicate ≠ .unsupported := by
    intro hpredicate
    refine Eligibility.supported_of_eligible heligible hpolicy.predicate ?_
    rw [hsupport]
    show some source.support.value = _
    rw [claim_support hsource, hpredicate]
    rfl
  rcases hdisputed with ⟨hcardinality, hdisagree⟩ | hpredicate
  · have hsingle : predicateCardinality source.predicate = .single := by
      cases hvalue : predicateCardinality source.predicate with
      | single => rfl
      | set => exact absurd hvalue hcardinality
      | unknown =>
          exact absurd ((predicateCardinality_eq_unknown_iff _).1 hvalue) hunsupported
    obtain ⟨conflict, hconflict, hsubject, hfield⟩ :=
      (ReconcileAssertions.conflict_iff c _ _).2 ⟨hsingle, hdisagree⟩
    have hnone := Eligibility.materialConflicts_of_eligible heligible hpolicy.conflict
    have hentity : conflict.subjectId ∈ lowered.sourceTopologyEntityIds := by
      rw [hids, hsubject]
      exact List.mem_singleton_self _
    have hindexed : conflict ∈ (TopologyIndex.build materialized.state).conflictsBySubject
        conflict.subjectId :=
      mem_sortedBy.2 (mem_groupOf.2 ⟨hstate.conflicts hconflict, rfl⟩)
    have hnamed : conflict.field ∈ lowered.receipt.sourceFields := by
      rw [hfields, hfield]
      simp [PublishedRecord.fact, claimFact, SemanticClaimRecord.stamped]
    exact Eligibility.materialConflicts_ne_nil hentity hindexed hnamed hnone
  · exact hunsupported hpredicate

end Plan

/-- **Containment.** Whatever was stated, nothing is projected from a disputed claim; and in a plan
    over a topology that carries the reconciled claims and conflicts, as every compiled one does,
    neither a disputed claim's candidate nor that of a claim without a rule is eligible, if the
    policy holds what is unresolved. -/
theorem conflict_containment (c : Codec) (text : PythonText) :
    (∀ statements evidence artifacts, ProjectionContained c text.repr statements
      (ReconcileAssertions.run c text.repr statements evidence).claims artifacts) ∧
    (∀ statements evidence materialized, CarriesReconciliation materialized.state
        (ReconcileAssertions.run c text.repr statements evidence) →
      ∀ (policy : PublicationPolicy) publishedAt plan, policy.HoldsUnresolved →
        buildPublicationPlan c text.str policy materialized publishedAt = .ok plan →
          PublicationContained c policy materialized publishedAt statements plan) ∧
    ∀ inputs stages derived, compileStages c text inputs = .ok stages →
      CarriesReconciliation (stages.state derived)
        (ReconcileAssertions.run c text.repr stages.statements stages.evidence.evidence) := by
  refine ⟨projection_contained c text.repr, ?_, ?_⟩
  · intro statements evidence materialized hstate policy publishedAt plan hpolicy hplan
    exact
      { lowered := fun candidate hcandidate hkind =>
          exists_claim_of_candidate hplan hcandidate hkind
        withheld := fun claim hclaim hdisputed candidate _ hcandidate =>
          not_eligible_of_lowered hstate hpolicy hclaim hdisputed hcandidate }
  · intro inputs stages derived hcompile
    exact compiled_carriesReconciliation hcompile derived

/-! ## A package with two names -/

def nameStatement (inputId object : String) : SemanticInput where
  inputId := inputId
  subjectId := "repo:a"
  predicate := "package.name"
  object := object
  authority := "source"
  confidence := "high"
  evidenceClass := "declared"

def nameStatements : List SemanticInput :=
  [nameStatement "assertion:1" "alpha", nameStatement "assertion:2" "beta"]

/-- What Python writes; none of it is in the plan's verdicts. -/
def nameText : PythonText := ⟨fun _ => "", id, id⟩

/-- A topology of reconciled claims and their conflicts. -/
def reconciledTopology (reconciled : Reconciliation) : MaterializedTopology where
  packet := topologyPacket
  state := { semanticClaims := reconciled.claims, conflicts := reconciled.conflicts }

theorem reconciledTopology_carries (c : Codec) (repr : String → String)
    (statements : List SemanticInput) (evidence : List EvidenceRecord) :
    CarriesReconciliation
      (reconciledTopology (ReconcileAssertions.run c repr statements evidence)).state
      (ReconcileAssertions.run c repr statements evidence) := by
  refine ⟨fun claim hclaim => ⟨claim, hclaim, Table.empty, ?_⟩, fun _ h => h⟩
  obtain ⟨statement, -, rfl⟩ := (ReconcileAssertions.mem_claims c).1 hclaim
  rfl

def nameTopology : MaterializedTopology :=
  reconciledTopology (ReconcileAssertions.run textCodec nameText.repr nameStatements [])

/-- Neither name is published. -/
theorem conflict_containment_names : ∃ plan,
    buildPublicationPlan textCodec nameText.str publicationPolicy nameTopology
        ⟨"2026-01-01T00:00:00Z"⟩ = .ok plan ∧
      PublicationContained textCodec publicationPolicy nameTopology ⟨"2026-01-01T00:00:00Z"⟩
        nameStatements plan := by
  have hok : (buildPublicationPlan textCodec nameText.str publicationPolicy nameTopology
      ⟨"2026-01-01T00:00:00Z"⟩).isOk = true := by
    decide +kernel
  cases hplan : buildPublicationPlan textCodec nameText.str publicationPolicy nameTopology
      ⟨"2026-01-01T00:00:00Z"⟩ with
  | error failure =>
      rw [hplan] at hok
      cases hok
  | ok plan =>
      have hcontained := (conflict_containment textCodec nameText).2.1 nameStatements []
        nameTopology (reconciledTopology_carries _ _ _ _) publicationPolicy ⟨"2026-01-01T00:00:00Z"⟩ plan
      exact ⟨plan, rfl, hcontained ⟨rfl, rfl, rfl, rfl⟩ hplan⟩

end ConstellationTopology
