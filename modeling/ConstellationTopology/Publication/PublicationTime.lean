import ConstellationTopology.Publication.Plan

set_option autoImplicit false

/-! # The publication time

Every candidate of a plan carries the time the plan was built at, in its provenance, its evidence,
its confidence and its validity. `retimed` moves these stamps to another time and touches nothing
else, and each step of the builder commutes with it: building at another time is building and then
moving the stamps (`buildPublicationPlan_retimed`). Ids and keys never read a stamp; the digest of the
plan reads the candidates without the keys that hold one. -/

namespace ConstellationTopology

/-! ## Moving the stamps -/

def MemoryEvidenceRef.retimed (time : Timestamp) (ref : MemoryEvidenceRef) : MemoryEvidenceRef :=
  { ref with observedAt := time }

def MemoryConfidence.retimed (time : Timestamp) (confidence : MemoryConfidence) :
    MemoryConfidence :=
  { confidence with calibratedAt := time }

def MemoryProvenance.retimed (time : Timestamp) (provenance : MemoryProvenance) :
    MemoryProvenance :=
  { provenance with transformedAt := time }

def MemoryWriteRequest.retimed (time : Timestamp) (request : MemoryWriteRequest) :
    MemoryWriteRequest :=
  { request with
    provenance := request.provenance.retimed time
    evidence := request.evidence.map (MemoryEvidenceRef.retimed time)
    confidence := request.confidence.retimed time
    validFrom := time }

def LoweredEvidence.retimed (time : Timestamp) (evidence : LoweredEvidence) : LoweredEvidence :=
  { evidence with refs := evidence.refs.map (MemoryEvidenceRef.retimed time) }

def LoweredParts.retimed (time : Timestamp) (parts : LoweredParts) : LoweredParts :=
  { parts with
    evidence := parts.evidence.retimed time
    confidence := parts.confidence.retimed time
    provenance := parts.provenance.retimed time }

def LoweredCandidate.retimed (time : Timestamp) (candidate : LoweredCandidate) :
    LoweredCandidate :=
  { candidate with request := candidate.request.retimed time }

def PublicationCandidate.retimed (time : Timestamp) (candidate : PublicationCandidate) :
    PublicationCandidate :=
  { candidate with memoryIntent := candidate.memoryIntent.retimed time }

def PlanEntry.retimed (time : Timestamp) : PlanEntry → PlanEntry
  | candidate lowered => candidate (lowered.retimed time)
  | skipped skip => skipped skip

/-- The plan with other stamps: those of its candidates and its own. -/
def PublicationPlan.retimed (time : Timestamp) (plan : PublicationPlan) : PublicationPlan :=
  { plan with
    candidates := plan.candidates.map (PublicationCandidate.retimed time)
    publishedAt := time }

/-! ## Lowering at another time -/

section Lowering

variable (c : Codec) (policy : PublicationPolicy) (packet : TopologyPacket) (index : TopologyIndex)
  (time time' : Timestamp)

theorem lowerEvidenceRef_retimed (record : EvidenceRecord) :
    lowerEvidenceRef policy time' record =
      (lowerEvidenceRef policy time record).map (MemoryEvidenceRef.retimed time') := by
  unfold lowerEvidenceRef
  cases evidenceKind policy record with
  | error failure => rfl
  | ok kind => cases lowerLocator record <;> rfl

theorem lowerEvidence_retimed (evidenceRefs : List String) (method : ConfidenceMethodName)
    (subjectId : String) :
    lowerEvidence policy index evidenceRefs time' method subjectId =
      (lowerEvidence policy index evidenceRefs time method subjectId).map
        (LoweredEvidence.retimed time') := by
  unfold lowerEvidence
  simp only
  rw [mapM_map_result fun record _ => lowerEvidenceRef_retimed policy time time' record]
  cases (keptEvidence policy index evidenceRefs).mapM (lowerEvidenceRef policy time) with
  | error failure => rfl
  | ok lowered =>
      -- the derivation is chosen by the kinds, which the stamps do not touch
      have hkind : derivationKindOf (resolvedEvidence index evidenceRefs) method
          (lowered.map (MemoryEvidenceRef.retimed time')) =
            derivationKindOf (resolvedEvidence index evidenceRefs) method lowered := by
        simp only [derivationKindOf, List.any_map]
        rfl
      simp only [Except.map, bind, Except.bind, pure, Except.pure, hkind,
        LoweredEvidence.retimed, List.map_append, List.map_map]
      rfl

theorem makeConfidence_retimed (assessment : ConfidenceAssessment) (method : ConfidenceMethodName)
    (count : ℕ) :
    makeConfidence policy assessment method count time' =
      (makeConfidence policy assessment method count time).map
        (MemoryConfidence.retimed time') := by
  unfold makeConfidence
  cases confidenceScore policy assessment with
  | error failure => rfl
  | ok score =>
      simp only [bind, Except.bind]
      split <;> rfl

theorem makeProvenance_retimed (assessment : ConfidenceAssessment) (owner : Option String)
    (extractionMethod : String) :
    makeProvenance policy packet assessment owner extractionMethod time' =
      (makeProvenance policy packet assessment owner extractionMethod time).map
        (MemoryProvenance.retimed time') := by
  unfold makeProvenance
  cases sourceTrust policy assessment with
  | error failure => rfl
  | ok trust =>
      simp only [bind, Except.bind]
      by_cases hsource : LengthIn 1 200 (clip 200 packet.producer.name)
      · by_cases hrepository : ∀ id ∈ truthy owner, LengthIn 0 300 id
        · simp only [dif_pos hsource, dif_pos hrepository, pure, Except.pure, Except.map,
            MemoryProvenance.retimed]
        · simp only [dif_pos hsource, dif_neg hrepository]
          rfl
      · simp only [dif_neg hsource]
        rfl

theorem lowerParts_retimed (fact : TopologyFact) :
    lowerParts policy packet index time' fact =
      (lowerParts policy packet index time fact).map (LoweredParts.retimed time') := by
  unfold lowerParts
  split
  · rfl
  · next subjectId rest _ =>
      cases confidenceMethod policy fact.assessment with
      | error failure => rfl
      | ok method =>
          simp only [bind, Except.bind]
          rw [lowerEvidence_retimed policy index time time']
          cases lowerEvidence policy index fact.evidenceRefs time method subjectId with
          | error failure => rfl
          | ok evidence =>
              simp only [Except.map, LoweredEvidence.retimed, List.length_map]
              rw [makeConfidence_retimed policy time time']
              cases makeConfidence policy fact.assessment method evidence.refs.length time with
              | error failure => rfl
              | ok confidence =>
                  simp only [Except.map]
                  rw [makeProvenance_retimed policy packet time time']
                  cases makeProvenance policy packet fact.assessment (index.owner subjectId)
                      fact.extractionMethod time with
                  | error failure => rfl
                  | ok provenance => cases localEvidenceSemantics policy evidence.kept <;> rfl

theorem build_retimed (fact : TopologyFact) :
    build c policy packet index time' fact =
      (build c policy packet index time fact).map (LoweredCandidate.retimed time') := by
  unfold build
  rw [lowerParts_retimed policy packet index time time']
  cases lowerParts policy packet index time fact with
  | error failure => rfl
  | ok parts =>
      simp only [Except.map, bind, Except.bind]
      split <;> rfl

theorem lowerRelationship_retimed (record : EdgeRecord)
    (qualification : Option (List (String × String))) :
    lowerRelationship c policy packet index time' record qualification =
      (lowerRelationship c policy packet index time record qualification).map
        (LoweredCandidate.retimed time') := by
  unfold lowerRelationship
  split
  · exact build_retimed c policy packet index time time' _
  · rfl

theorem lowerSemanticClaim_retimed (record : SemanticClaimRecord) :
    lowerSemanticClaim c policy packet index time' record =
      (lowerSemanticClaim c policy packet index time record).map
        (LoweredCandidate.retimed time') := by
  unfold lowerSemanticClaim
  split
  · exact build_retimed c policy packet index time time' _
  · rfl

end Lowering

/-! ## The plan at another time -/

section Plan

variable (c : Codec) (str : Json → String) (policy : PublicationPolicy) (packet : TopologyPacket)
  (index : TopologyIndex) (time time' : Timestamp)

theorem lowered_retimed (result : Except LoweringFailure LoweredCandidate) :
    lowered (result.map (LoweredCandidate.retimed time')) =
      (lowered result).map (PlanEntry.retimed time') := by
  cases result <;> rfl

theorem repositoryEntry_retimed (record : RepositoryRecord) :
    repositoryEntry c policy packet index time' record =
      (repositoryEntry c policy packet index time record).map (PlanEntry.retimed time') := by
  unfold repositoryEntry lowerRepository
  split
  · rw [build_retimed c policy packet index time time', lowered_retimed]
  · rfl

theorem capabilityEntry_retimed (record : CapabilityRecord) :
    capabilityEntry c policy packet index time' record =
      (capabilityEntry c policy packet index time record).map (PlanEntry.retimed time') := by
  unfold capabilityEntry lowerCapability
  split
  · rw [build_retimed c policy packet index time time', lowered_retimed]
  · rfl

theorem claimEntry_retimed (record : SemanticClaimRecord) :
    claimEntry c policy packet index time' record =
      (claimEntry c policy packet index time record).map (PlanEntry.retimed time') := by
  unfold claimEntry
  split
  · rfl
  · split
    · rfl
    · rw [lowerSemanticClaim_retimed c policy packet index time time']
      cases lowerSemanticClaim c policy packet index time record with
      | error failure => cases failure <;> rfl
      | ok candidate => rfl

theorem relationshipEntry_retimed (qualificationIndex : Option QualificationIndex)
    (edge : EdgeRecord) :
    relationshipEntry c str policy packet index time' qualificationIndex edge =
      (relationshipEntry c str policy packet index time qualificationIndex edge).map
        (PlanEntry.retimed time') := by
  unfold relationshipEntry
  simp only
  split
  · rfl
  · split
    · rfl
    · split
      · rfl
      · rw [lowerRelationship_retimed c policy packet index time time', lowered_retimed]

theorem planEntries_retimed (state : TopologyState) :
    planEntries c str policy packet index time' state =
      (planEntries c str policy packet index time state).map
        (List.map (PlanEntry.retimed time')) := by
  unfold planEntries
  rw [mapM_map_result fun record _ =>
      repositoryEntry_retimed c policy packet index time time' record,
    mapM_map_result fun record _ => capabilityEntry_retimed c policy packet index time time' record,
    mapM_map_result fun record _ => claimEntry_retimed c policy packet index time time' record,
    mapM_map_result fun edge _ => relationshipEntry_retimed c str policy packet index time time'
      (qualificationIndexOf policy state) edge]
  cases state.repositoryRecords.mapM (repositoryEntry c policy packet index time) with
  | error failure => rfl
  | ok repositories =>
  cases state.capabilityRecords.mapM (capabilityEntry c policy packet index time) with
  | error failure => rfl
  | ok capabilities =>
  cases state.semanticClaims.mapM (claimEntry c policy packet index time) with
  | error failure => rfl
  | ok claims =>
  simp only [bind, Except.bind, Except.map]
  split
  · rfl
  · cases state.edgeRecords.mapM (relationshipEntry c str policy packet index time
        (qualificationIndexOf policy state)) with
    | error failure => rfl
    | ok relationships =>
        simp only [pure, Except.pure, List.map_append, List.map_map, nonCanonicalEntries]
        rfl

/-! ### The digest -/

/-- What the digest of a plan reads of a value. -/
def digested (value : Json) : Json := value.dropKeys publicationExcludedFields

theorem digested_retimed_evidence (ref : MemoryEvidenceRef) :
    digested (ref.retimed time').toJson = digested ref.toJson := by
  simp [digested, MemoryEvidenceRef.toJson, MemoryEvidenceRef.retimed, Json.dropKeys,
    Json.dropKeysFields_append, Json.dropKeysFields, publicationExcludedFields, volatileFields]

theorem digested_retimed_confidence (confidence : MemoryConfidence) :
    digested (confidence.retimed time').toJson = digested confidence.toJson := by
  simp [digested, MemoryConfidence.toJson, MemoryConfidence.retimed, Json.dropKeys,
    Json.dropKeysFields, publicationExcludedFields, volatileFields]

theorem digested_retimed_provenance (provenance : MemoryProvenance) :
    digested (provenance.retimed time').toJson = digested provenance.toJson := by
  simp [digested, MemoryProvenance.toJson, MemoryProvenance.retimed, Json.dropKeys,
    Json.dropKeysFields_append, Json.dropKeysFields, publicationExcludedFields, volatileFields]

theorem digested_retimed_request (request : MemoryWriteRequest) :
    digested (request.retimed time').toJson = digested request.toJson := by
  have hprovenance := digested_retimed_provenance time' request.provenance
  have hconfidence := digested_retimed_confidence time' request.confidence
  have hevidence := digested_retimed_evidence time'
  have hvalidFrom : "valid_from" ∈ publicationExcludedFields := by decide
  simp only [digested] at hprovenance hconfidence hevidence
  simp only [digested, MemoryWriteRequest.toJson, MemoryWriteRequest.retimed, Json.dropKeys,
    Json.dropKeysFields_append, Json.dropKeysFields, Json.dropKeysItems_eq_map, hprovenance,
    hconfidence, hevidence, List.map_map, Function.comp_def, if_pos hvalidFrom]

theorem digested_retimed_candidate (candidate : PublicationCandidate) :
    digested (candidate.retimed time').toJson = digested candidate.toJson := by
  have hrequest := digested_retimed_request time' candidate.memoryIntent
  simp only [digested] at hrequest
  simp only [digested, PublicationCandidate.toJson, PublicationCandidate.retimed, ingestIntent,
    Json.dropKeys, Json.dropKeysFields, hrequest]

theorem planSemanticView_retimed (planVersion producerName producerVersion : String)
    (packetRef : PacketRef) (topologySemanticHash policyHash : String)
    (candidates : List PublicationCandidate) (skipped : List SkippedCandidate) :
    c.publicationSemanticHash (planSemanticView planVersion producerName producerVersion packetRef
        topologySemanticHash policyHash (candidates.map (PublicationCandidate.retimed time'))
        skipped) =
      c.publicationSemanticHash (planSemanticView planVersion producerName producerVersion packetRef
        topologySemanticHash policyHash candidates skipped) := by
  have hcandidate := digested_retimed_candidate time'
  simp only [digested] at hcandidate
  simp only [Codec.publicationSemanticHash, Codec.publicationDigest, planSemanticView, Json.dropKeys,
    Json.dropKeysFields, Json.dropKeysItems_eq_map, List.map_map, Function.comp_def, hcandidate]

/-! ### The plan -/

theorem toCandidate_retimed (context : Eligibility.Context) (candidate : LoweredCandidate) :
    toCandidate context (candidate.retimed time') =
      (toCandidate context candidate).retimed time' := rfl

theorem planDiagnostics_retimed (candidates : List PublicationCandidate)
    (skipped : List SkippedCandidate) :
    planDiagnostics (candidates.map (PublicationCandidate.retimed time')) skipped =
      planDiagnostics candidates skipped := by
  simp only [planDiagnostics, List.map_map, List.flatMap_map]
  rfl

theorem assemblePlan_retimed (context : Eligibility.Context) (entries : List PlanEntry) :
    assemblePlan c policy packet context time' (entries.map (PlanEntry.retimed time')) =
      (assemblePlan c policy packet context time entries).retimed time' := by
  have hlowered : ((entries.map (PlanEntry.retimed time')).filterMap PlanEntry.lowered?).map
      (toCandidate context) = ((entries.filterMap PlanEntry.lowered?).map (toCandidate context)).map
        (PublicationCandidate.retimed time') := by
    induction entries with
    | nil => rfl
    | cons entry rest ih =>
        cases entry with
        | candidate lowered =>
            simp only [List.map_cons, PlanEntry.retimed, List.filterMap_cons, PlanEntry.lowered?, ih,
              toCandidate_retimed]
        | skipped skip =>
            simp only [List.map_cons, PlanEntry.retimed, List.filterMap_cons, PlanEntry.lowered?, ih]
  have hskipped : (entries.map (PlanEntry.retimed time')).filterMap PlanEntry.skip? =
      entries.filterMap PlanEntry.skip? := by
    rw [List.filterMap_map]
    refine List.filterMap_congr fun entry _ => ?_
    cases entry <;> rfl
  -- the sort goes by id, so it is the same sort
  have hsorted : ∀ candidates : List PublicationCandidate,
      sortedBy PublicationCandidate.candidateId
          (candidates.map (PublicationCandidate.retimed time')) =
        (sortedBy PublicationCandidate.candidateId candidates).map
          (PublicationCandidate.retimed time') :=
    fun candidates => sortedBy_map candidates fun _ _ => rfl
  unfold assemblePlan
  simp only [hlowered, hskipped, hsorted, planSemanticView_retimed, planDiagnostics_retimed]
  rfl

/-- Building at another time is building and then moving the stamps. -/
theorem buildPublicationPlan_retimed (materialized : MaterializedTopology) :
    buildPublicationPlan c str policy materialized time' =
      (buildPublicationPlan c str policy materialized time).map
        (PublicationPlan.retimed time') := by
  unfold buildPublicationPlan
  simp only
  cases requirePublishableTopology materialized.packet policy with
  | error failure => rfl
  | ok _ =>
      simp only [bind, Except.bind]
      rw [planEntries_retimed c str policy materialized.packet _ time time']
      cases planEntries c str policy materialized.packet (TopologyIndex.build materialized.state)
          time materialized.state with
      | error failure => rfl
      | ok entries =>
          simp only [Except.map, pure, Except.pure,
            assemblePlan_retimed c policy materialized.packet time time']

/-! ## Noninterference -/

/-- The plans agree on everything but the declared stamps. -/
structure SameButTimes (plan plan' : PublicationPlan) : Prop where
  planId : plan'.planId = plan.planId
  semanticHash : plan'.semanticHash = plan.semanticHash
  candidateIds : plan'.candidates.map PublicationCandidate.candidateId =
    plan.candidates.map PublicationCandidate.candidateId
  idempotencyKeys : plan'.candidates.map PublicationCandidate.idempotencyKey =
    plan.candidates.map PublicationCandidate.idempotencyKey
  eligibility : plan'.candidates.map PublicationCandidate.eligibility =
    plan.candidates.map PublicationCandidate.eligibility
  skippedCandidates : plan'.skippedCandidates = plan.skippedCandidates
  diagnostics : plan'.diagnostics = plan.diagnostics
  /-- whatever else the plans hold is the same too -/
  retimed : plan' = plan.retimed plan'.publishedAt

theorem sameButTimes_retimed (plan : PublicationPlan) : SameButTimes plan (plan.retimed time') := by
  have hmap : ∀ {α : Type} (f : PublicationCandidate → α),
      (∀ candidate : PublicationCandidate, f (candidate.retimed time') = f candidate) →
        (plan.candidates.map (PublicationCandidate.retimed time')).map f =
          plan.candidates.map f := by
    intro α f hf
    rw [List.map_map]
    exact List.map_congr_left fun candidate _ => hf candidate
  exact ⟨rfl, rfl, hmap _ fun _ => rfl, hmap _ fun _ => rfl, hmap _ fun _ => rfl, rfl, rfl, rfl⟩

/-- **The publication time does not interfere.** Built at any two times, a plan is the same but for
    its stamps, and what fails at one time fails at the other with the same error. -/
theorem publication_time_noninterference (materialized : MaterializedTopology) :
    match buildPublicationPlan c str policy materialized time,
      buildPublicationPlan c str policy materialized time' with
    | .ok plan, .ok plan' => SameButTimes plan plan'
    | .error failure, .error failure' => failure = failure'
    | _, _ => False := by
  rw [buildPublicationPlan_retimed c str policy time time' materialized]
  cases buildPublicationPlan c str policy materialized time with
  | error failure => rfl
  | ok plan => exact sameButTimes_retimed time' plan

end Plan

end ConstellationTopology
