import ConstellationTopology.Publication.EffectIdentity
import ConstellationTopology.Publication.Plan

set_option autoImplicit false

/-! # A plan accounts for every record

Each record of the state has exactly one entry in the plan: a candidate that was lowered from it, or
a skip under its own id. The entry of a record is decided by that record alone, so conservation is
one lemma for each loop body and `Forall₂` over the loops. -/

namespace ConstellationTopology

/-- A record a plan has to account for. -/
inductive PlannedRecord
  | repository (record : RepositoryRecord)
  | capability (record : CapabilityRecord)
  | claim (record : SemanticClaimRecord)
  | artifact (record : ArtifactRecord)
  | edge (record : EdgeRecord)
  | candidateRelation (record : CandidateRelationRecord)
  | candidateCluster (record : CandidateClusterRecord)
  | readiness (record : ReadinessEvidenceRecord)
  | reasoning (record : TopologyReasoningCandidate)

/-- The records of a state, in the order in which a plan is built. -/
def plannedRecords (state : TopologyState) : List PlannedRecord :=
  state.repositoryRecords.map .repository ++ state.capabilityRecords.map .capability
    ++ state.semanticClaims.map .claim ++ state.artifactRecords.map .artifact
    ++ state.edgeRecords.map .edge
    ++ (state.candidateRelations.map .candidateRelation
      ++ state.candidateClusters.map .candidateCluster
      ++ state.readinessEvidence.map .readiness
      ++ state.topologyReasoningCandidates.map .reasoning)

/-- The kind and id a skip of the record carries. -/
def PlannedRecord.skipKey : PlannedRecord → CandidateKind × String
  | repository record => (.entity, record.repositoryId)
  | capability record => (.entity, record.capabilityId)
  | claim record => (.claim, record.claimId)
  | artifact record => (.entity, record.artifactId)
  | edge record => (.relationship, record.edgeId)
  | candidateRelation record => (.relationship, record.relationId)
  | candidateCluster record => (.entity, record.candidateId)
  | readiness record => (.entity, record.readinessId)
  | reasoning record => (.entity, record.reasoningCandidateId)

section Accounts

variable (c : Codec) (policy : PublicationPolicy) (packet : TopologyPacket)
  (index : TopologyIndex) (publishedAt : Timestamp)

/-- The candidate was lowered from the record; none is ever lowered from the last five kinds. -/
def PlannedRecord.LowersTo : PlannedRecord → LoweredCandidate → Prop
  | repository record, candidate =>
      lowerRepository c policy packet index publishedAt record = .ok candidate
  | capability record, candidate =>
      lowerCapability c policy packet index publishedAt record = .ok candidate
  | claim record, candidate =>
      lowerSemanticClaim c policy packet index publishedAt record = .ok candidate
  | edge record, candidate => ∃ qualification,
      lowerRelationship c policy packet index publishedAt record qualification = .ok candidate
  | artifact _, _ => False
  | candidateRelation _, _ => False
  | candidateCluster _, _ => False
  | readiness _, _ => False
  | reasoning _, _ => False

/-- The entry is the record's: a candidate lowered from it, or a skip under its kind and id. -/
def Accounts (record : PlannedRecord) : PlanEntry → Prop
  | .candidate candidate => record.LowersTo c policy packet index publishedAt candidate
  | .skipped skip => (skip.sourceKind, skip.sourceId) = record.skipKey

end Accounts

/-! ## One record -/

section Entry

variable {c : Codec} {str : Json → String} {policy : PublicationPolicy} {packet : TopologyPacket}
  {index : TopologyIndex} {publishedAt : Timestamp} {entry : PlanEntry}

theorem lowered_eq_ok {result : Except LoweringFailure LoweredCandidate}
    (h : lowered result = .ok entry) :
    ∃ candidate, result = .ok candidate ∧ entry = .candidate candidate := by
  cases result with
  | ok candidate =>
      cases h
      exact ⟨candidate, rfl, rfl⟩
  | error failure => cases h

theorem repositoryEntry_accounts {record : RepositoryRecord}
    (h : repositoryEntry c policy packet index publishedAt record = .ok entry) :
    Accounts c policy packet index publishedAt (.repository record) entry := by
  unfold repositoryEntry at h
  split at h
  · obtain ⟨candidate, hcandidate, rfl⟩ := lowered_eq_ok h
    exact hcandidate
  · cases h
    rfl

theorem capabilityEntry_accounts {record : CapabilityRecord}
    (h : capabilityEntry c policy packet index publishedAt record = .ok entry) :
    Accounts c policy packet index publishedAt (.capability record) entry := by
  unfold capabilityEntry at h
  split at h
  · obtain ⟨candidate, hcandidate, rfl⟩ := lowered_eq_ok h
    exact hcandidate
  · cases h
    rfl

theorem claimEntry_accounts {record : SemanticClaimRecord}
    (h : claimEntry c policy packet index publishedAt record = .ok entry) :
    Accounts c policy packet index publishedAt (.claim record) entry := by
  unfold claimEntry at h
  split at h
  · cases h
    rfl
  · split at h
    · cases h
      rfl
    · split at h
      · next candidate hcandidate =>
          cases h
          exact hcandidate
      · cases h
        rfl
      · cases h

theorem relationshipEntry_accounts {edge : EdgeRecord}
    {qualificationIndex : Option QualificationIndex}
    (h : relationshipEntry c str policy packet index publishedAt qualificationIndex edge =
      .ok entry) :
    Accounts c policy packet index publishedAt (.edge edge) entry := by
  unfold relationshipEntry at h
  dsimp only at h
  split at h
  · cases h
    rfl
  · split at h
    · cases h
      rfl
    · split at h
      · cases h
        rfl
      · obtain ⟨candidate, hcandidate, rfl⟩ := lowered_eq_ok h
        exact ⟨_, hcandidate⟩

end Entry

/-! ## All records -/

section Run

variable {c : Codec} {str : Json → String} {policy : PublicationPolicy} {packet : TopologyPacket}
  {index : TopologyIndex} {publishedAt : Timestamp} {state : TopologyState}

/-- A loop whose body accounts for its record accounts for all of them. -/
theorem forall₂_of_mapM {α : Type} {wrap : α → PlannedRecord}
    {body : α → Except PublicationFailure PlanEntry} {records : List α} {entries : List PlanEntry}
    (hbody : ∀ {record entry}, body record = .ok entry →
      Accounts c policy packet index publishedAt (wrap record) entry)
    (h : records.mapM body = .ok entries) :
    List.Forall₂ (Accounts c policy packet index publishedAt) (records.map wrap) entries := by
  rw [mapM_eq_ok] at h
  rw [List.forall₂_map_left_iff]
  exact h.imp fun _ _ => hbody

/-- Records that are skipped without a test. -/
theorem forall₂_of_map {α : Type} {wrap : α → PlannedRecord} {skip : α → SkippedCandidate}
    (records : List α)
    (hskip : ∀ record, ((skip record).sourceKind, (skip record).sourceId) = (wrap record).skipKey) :
    List.Forall₂ (Accounts c policy packet index publishedAt) (records.map wrap)
      (records.map fun record => .skipped (skip record)) := by
  induction records with
  | nil => exact List.Forall₂.nil
  | cons record rest ih => exact List.Forall₂.cons (hskip record) ih

/-- The loops of the builder account for every record. -/
theorem planEntries_accounts {entries : List PlanEntry}
    (h : planEntries c str policy packet index publishedAt state = .ok entries) :
    List.Forall₂ (Accounts c policy packet index publishedAt) (plannedRecords state) entries := by
  obtain ⟨repositories, hrepositories, h⟩ := bind_eq_ok.1 h
  obtain ⟨capabilities, hcapabilities, h⟩ := bind_eq_ok.1 h
  obtain ⟨claims, hclaims, h⟩ := bind_eq_ok.1 h
  split at h
  · obtain ⟨_, hthrow, -⟩ := bind_eq_ok.1 h
    cases hthrow
  · obtain ⟨relationships, hrelationships, h⟩ := bind_eq_ok.1 h
    rw [← pure_eq_ok.1 h]
    refine List.rel_append (List.rel_append (List.rel_append (List.rel_append
      (List.rel_append ?_ ?_) ?_) ?_) ?_) ?_
    · exact forall₂_of_mapM repositoryEntry_accounts hrepositories
    · exact forall₂_of_mapM capabilityEntry_accounts hcapabilities
    · exact forall₂_of_mapM claimEntry_accounts hclaims
    · exact forall₂_of_map _ fun _ => rfl
    · exact forall₂_of_mapM relationshipEntry_accounts hrelationships
    · exact List.rel_append (List.rel_append (List.rel_append (forall₂_of_map _ fun _ => rfl)
        (forall₂_of_map _ fun _ => rfl)) (forall₂_of_map _ fun _ => rfl))
        (forall₂_of_map _ fun _ => rfl)

/-- Each entry goes to one of the two lists. -/
theorem length_entries (entries : List PlanEntry) :
    (entries.filterMap PlanEntry.lowered?).length + (entries.filterMap PlanEntry.skip?).length =
      entries.length := by
  induction entries with
  | nil => rfl
  | cons entry rest ih =>
      cases entry with
      | candidate candidate =>
          simp only [List.filterMap_cons, PlanEntry.lowered?, PlanEntry.skip?, List.length_cons]
          omega
      | skipped skip =>
          simp only [List.filterMap_cons, PlanEntry.lowered?, PlanEntry.skip?, List.length_cons]
          omega

end Run

/-! ## The counts of the statuses -/

/-- The counters of the statuses. -/
def statusDiagnostics (diagnostics : List PublicationDiagnostic) : List PublicationDiagnostic :=
  diagnostics.filter fun diagnostic => "candidates.".toList.isPrefixOf diagnostic.code.toList

/-- A code that starts with another letter is no counter of a status. -/
theorem not_statusCode {marker rest : String} {first : Char} {tail : List Char}
    (hmarker : marker.toList = first :: tail) (hfirst : first ≠ 'c') :
    ¬ "candidates.".toList.isPrefixOf (marker ++ rest).toList = true := by
  rw [String.toList_append, hmarker]
  simp [List.isPrefixOf, Ne.symm hfirst]

theorem statusDiagnostics_planDiagnostics (candidates : List PublicationCandidate)
    (skipped : List SkippedCandidate) :
    (statusDiagnostics (planDiagnostics candidates skipped)).map PublicationDiagnostic.count =
      ["eligible", "held", "rejected"].map fun status =>
        (candidates.map fun candidate => candidate.eligibility.status.value).count status := by
  have hreason : ∀ reason : String,
      ¬ "candidates.".toList.isPrefixOf ("reason." ++ reason).toList = true := fun reason =>
    not_statusCode (show "reason.".toList = 'r' :: "eason.".toList from rfl) (by decide)
  have hskipped : ∀ reason : String,
      ¬ "candidates.".toList.isPrefixOf ("skipped." ++ reason).toList = true := fun reason =>
    not_statusCode (show "skipped.".toList = 's' :: "kipped.".toList from rfl) (by decide)
  unfold statusDiagnostics planDiagnostics
  simp only [List.filter_append, List.filter_map, Function.comp_def, hreason, hskipped]
  simp

/-- The three statuses are all there are. -/
theorem sum_status_counts (statuses : List EligibilityStatus) :
    (["eligible", "held", "rejected"].map fun status =>
      (statuses.map EligibilityStatus.value).count status).sum = statuses.length := by
  induction statuses with
  | nil => rfl
  | cons status rest ih =>
      simp only [List.map_cons, List.map_nil, List.sum_cons, List.sum_nil, List.count_cons,
        List.length_cons] at ih ⊢
      cases status with
      | eligible =>
          simp only [EligibilityStatus.value]
          simp
          omega
      | held =>
          simp only [EligibilityStatus.value]
          simp
          omega
      | rejected =>
          simp only [EligibilityStatus.value]
          simp
          omega

/-! ## Conservation -/

section Conservation

variable {c : Codec} {str : Json → String} {policy : PublicationPolicy}
  {materialized : MaterializedTopology} {publishedAt : Timestamp} {plan : PublicationPlan}

/-- A plan that is built is assembled from the entries of the records. -/
theorem buildPublicationPlan_eq_ok
    (h : buildPublicationPlan c str policy materialized publishedAt = .ok plan) :
    ∃ entries,
      planEntries c str policy materialized.packet (TopologyIndex.build materialized.state)
        publishedAt materialized.state = .ok entries ∧
      plan = assemblePlan c policy materialized.packet
        (Eligibility.Context.build policy materialized.packet materialized.state
          (TopologyIndex.build materialized.state)) publishedAt entries := by
  obtain ⟨_, -, h⟩ := bind_eq_ok.1 h
  obtain ⟨entries, hentries, h⟩ := bind_eq_ok.1 h
  exact ⟨entries, hentries, (pure_eq_ok.1 h).symm⟩

/-- **Conservation.** Whatever the policy, a plan that is built has one entry for each record of the
    state, and its candidates and skips are exactly these entries; so their numbers add up to the
    number of records, and the status counters to the number of candidates. -/
theorem plan_conserves_records
    (h : buildPublicationPlan c str policy materialized publishedAt = .ok plan) :
    (∃ entries,
      List.Forall₂ (Accounts c policy materialized.packet (TopologyIndex.build materialized.state)
        publishedAt) (plannedRecords materialized.state) entries ∧
      plan.candidates.Perm ((entries.filterMap PlanEntry.lowered?).map
        (toCandidate (Eligibility.Context.build policy materialized.packet materialized.state
          (TopologyIndex.build materialized.state)))) ∧
      plan.skippedCandidates.Perm (entries.filterMap PlanEntry.skip?)) ∧
    plan.candidates.length + plan.skippedCandidates.length =
      (plannedRecords materialized.state).length ∧
    ((statusDiagnostics plan.diagnostics).map PublicationDiagnostic.count).sum =
      plan.candidates.length := by
  obtain ⟨entries, hentries, rfl⟩ := buildPublicationPlan_eq_ok h
  have haccounts := planEntries_accounts hentries
  refine ⟨⟨entries, haccounts, sortedBy_perm _ _, sortedBy_perm _ _⟩, ?_, ?_⟩
  · rw [haccounts.length_eq, ← length_entries]
    show (sortedBy _ _).length + (sortedBy _ _).length = _
    rw [(sortedBy_perm _ _).length_eq, (sortedBy_perm _ _).length_eq, List.length_map]
  · show ((statusDiagnostics (planDiagnostics _ _)).map _).sum = _
    rw [statusDiagnostics_planDiagnostics]
    have hcounts := sum_status_counts ((sortedBy PublicationCandidate.candidateId
      ((entries.filterMap PlanEntry.lowered?).map (toCandidate
        (Eligibility.Context.build policy materialized.packet materialized.state
          (TopologyIndex.build materialized.state))))).map
            fun candidate => candidate.eligibility.status)
    rw [List.map_map, List.length_map] at hcounts
    exact hcounts

end Conservation

/-- Two parallel edges, planned under a policy that publishes their type. -/
theorem parallel_plan_conserves_records : ∃ plan,
    buildPublicationPlan textCodec (fun _ => "") publicationPolicy ⟨topologyPacket, parallelState⟩
        ⟨"2026-01-01T00:00:00Z"⟩ = .ok plan ∧
      plan.candidates.length + plan.skippedCandidates.length = 2 ∧
        ((statusDiagnostics plan.diagnostics).map PublicationDiagnostic.count).sum =
          plan.candidates.length := by
  have hok : (buildPublicationPlan textCodec (fun _ => "") publicationPolicy
      ⟨topologyPacket, parallelState⟩ ⟨"2026-01-01T00:00:00Z"⟩).isOk = true := by
    decide +kernel
  cases hplan : buildPublicationPlan textCodec (fun _ => "") publicationPolicy
      ⟨topologyPacket, parallelState⟩ ⟨"2026-01-01T00:00:00Z"⟩ with
  | error failure =>
      rw [hplan] at hok
      cases hok
  | ok plan => exact ⟨plan, rfl, (plan_conserves_records hplan).2⟩

end ConstellationTopology
