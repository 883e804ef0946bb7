import ConstellationTopology.Publication.PlanView
import ConstellationTopology.Publication.Qualification
import Mathlib.Algebra.GroupWithZero.Nat
import Mathlib.Data.Prod.Lex

set_option autoImplicit false

/-! # The publication plan

`publication/plan.py`: every record of the state is lowered to a candidate or recorded as skipped,
and the plan sorts and counts what came out. Nothing is lost on the way: each record gives exactly
one candidate or one skip, whatever the policy (`plan_conserves_records`).

The two lists of the builder are kept as one list of entries, in the order they are made. -/

namespace ConstellationTopology

/-! ## Contracts -/

/-- A candidate that may be published, with the request it becomes. -/
structure PublicationCandidate where
  candidateId : String
  candidateKind : CandidateKind
  sourceTopologyEntityIds : List String
  sourceEvidenceIds : List String := []
  sourceRepositoryModelPacketIds : List String := []
  eligibility : EligibilityDecision
  lowering : LoweringReceipt
  memoryIntent : MemoryWriteRequest
  idempotencyKey : String

/-- A fact that is not published, and why. -/
structure SkippedCandidate where
  sourceKind : CandidateKind
  sourceId : String
  reason : String
  deriving DecidableEq, Repr

/-- A finding about the plan. -/
structure PublicationDiagnostic where
  code : String
  detail : String
  count : ℕ := 0
  deriving DecidableEq, Repr

/-- What one topology publishes under one policy. -/
structure PublicationPlan where
  planVersion : String
  planId : String
  producer : Producer
  sourceTopologyPacket : PacketRef
  sourceTopologySemanticHash : String
  policy : Json
  policyHash : String
  candidates : List PublicationCandidate := []
  skippedCandidates : List SkippedCandidate := []
  diagnostics : List PublicationDiagnostic := []
  semanticHash : String
  publishedAt : Timestamp

/-- `MaterializedTopology`. -/
structure MaterializedTopology where
  packet : TopologyPacket
  state : TopologyState

/-- Why no plan is built. -/
inductive PublicationFailure
  | eligibility (message : String)
  | lowering (failure : LoweringFailure)
  | value (message : String)
  deriving DecidableEq, Repr

/-- A candidate of the plan as it is dumped. -/
def PublicationCandidate.toJson (candidate : PublicationCandidate) : Json :=
  .obj [("candidate_id", .str candidate.candidateId),
    ("candidate_kind", .str candidate.candidateKind.value),
    ("source_topology_entity_ids", Json.strings candidate.sourceTopologyEntityIds),
    ("source_evidence_ids", Json.strings candidate.sourceEvidenceIds),
    ("source_repository_model_packet_ids", Json.strings candidate.sourceRepositoryModelPacketIds),
    ("eligibility", candidate.eligibility.toJson),
    ("lowering", candidate.lowering.toJson),
    ("memory_intent", ingestIntent candidate.memoryIntent),
    ("idempotency_key", .str candidate.idempotencyKey)]

/-- A skipped fact as it is dumped. -/
def SkippedCandidate.toJson (skipped : SkippedCandidate) : Json :=
  .obj [("source_kind", .str skipped.sourceKind.value), ("source_id", .str skipped.sourceId),
    ("reason", .str skipped.reason)]

/-! ## Diagnostics -/

/-- `_diagnostics`. -/
def planDiagnostics (candidates : List PublicationCandidate) (skipped : List SkippedCandidate) :
    List PublicationDiagnostic :=
  let statuses := candidates.map fun candidate => candidate.eligibility.status.value
  let reasons := candidates.flatMap fun candidate => candidate.eligibility.reasons
  let skips := skipped.map SkippedCandidate.reason
  (["eligible", "held", "rejected"].map fun status =>
      { code := "candidates." ++ status
        detail := "Candidates with eligibility status " ++ status ++ "."
        count := statuses.count status })
    ++ ((sortedSet reasons).map fun reason =>
      { code := "reason." ++ reason
        detail := "Candidates carrying eligibility reason " ++ reason ++ "."
        count := reasons.count reason })
    ++ ((sortedSet skips).map fun reason =>
      { code := "skipped." ++ reason
        detail := "Topology facts the policy did not select: " ++ reason ++ "."
        count := skips.count reason })
    ++ [{ code := "evidence.truncated"
          detail := "Evidence references dropped by the per-candidate policy ceiling."
          count := (candidates.map fun candidate => candidate.lowering.truncatedEvidenceCount).sum }]

/-! ## One record -/

/-- What a record contributes. -/
inductive PlanEntry
  | candidate (lowered : LoweredCandidate)
  | skipped (skip : SkippedCandidate)

/-- The candidate of an entry. -/
def PlanEntry.lowered? : PlanEntry → Option LoweredCandidate
  | candidate lowered => some lowered
  | skipped _ => none

/-- The skip of an entry. -/
def PlanEntry.skip? : PlanEntry → Option SkippedCandidate
  | candidate _ => none
  | skipped skip => some skip

section Entries

variable (c : Codec) (str : Json → String) (policy : PublicationPolicy) (packet : TopologyPacket)
  (index : TopologyIndex) (publishedAt : Timestamp)

/-- A lowering whose failure fails the plan. -/
def lowered (result : Except LoweringFailure LoweredCandidate) :
    Except PublicationFailure PlanEntry :=
  match result with
  | .ok candidate => .ok (.candidate candidate)
  | .error failure => .error (.lowering failure)

/-- The entry of a repository. -/
def repositoryEntry (record : RepositoryRecord) : Except PublicationFailure PlanEntry :=
  if "repository" ∈ policy.eligibleEntityKinds then
    lowered (lowerRepository c policy packet index publishedAt record)
  else .ok (.skipped ⟨.entity, record.repositoryId, Eligibility.skipEntityKind⟩)

/-- The entry of a capability. -/
def capabilityEntry (record : CapabilityRecord) : Except PublicationFailure PlanEntry :=
  if "capability" ∈ policy.eligibleEntityKinds then
    lowered (lowerCapability c policy packet index publishedAt record)
  else .ok (.skipped ⟨.entity, record.capabilityId, Eligibility.skipEntityKind⟩)

/-- The body of `_lower_claims`: only a lowering error is recorded, every other one is raised. -/
def claimEntry (record : SemanticClaimRecord) : Except PublicationFailure PlanEntry :=
  if "semantic_claim" ∉ policy.eligibleEntityKinds then
    .ok (.skipped ⟨.claim, record.claimId, Eligibility.skipEntityKind⟩)
  else if policy.claimPredicateSelection record.predicate = some false then
    .ok (.skipped ⟨.claim, record.claimId,
      if record.predicate ∈ declarationOnlyPredicates then Eligibility.skipDeclarationOnlyClaim
      else Eligibility.skipClaimPredicate⟩)
  else
    match lowerSemanticClaim c policy packet index publishedAt record with
    | .ok candidate => .ok (.candidate candidate)
    | .error (.lowering _) =>
        .ok (.skipped ⟨.claim, record.claimId, Eligibility.skipUnstateableClaim⟩)
    | .error failure => .error (.lowering failure)

/-- `_skip_relationship`. -/
def skipRelationship (edge : EdgeRecord) (reason : String) : PlanEntry :=
  .skipped ⟨.relationship, edge.edgeId, reason⟩

/-- The recorded resolution is there and is not the resolved one. -/
def unresolvedWorkTarget (edge : EdgeRecord) : Bool :=
  match edge.property "target_resolution" with
  | .null => false
  | resolution => resolution.text? ≠ some "exact-artifact"

/-- The body of `_lower_relationships`; the index is there under a strict policy. -/
def relationshipEntry (qualificationIndex : Option QualificationIndex) (edge : EdgeRecord) :
    Except PublicationFailure PlanEntry :=
  let qualification := qualificationIndex.map (Qualification.qualifyRelation str edge)
  match qualification.filter fun found => ¬ found.qualified with
  | some refused => .ok (skipRelationship edge refused.verdict.reason)
  | none =>
      if edge.edgeType.value ∉ policy.eligibleEdgeTypes then
        .ok (skipRelationship edge Eligibility.skipEdgeType)
      else if qualification.isNone ∧ unresolvedWorkTarget edge then
        .ok (skipRelationship edge Eligibility.skipUnresolvedWorkTarget)
      else
        lowered (lowerRelationship c policy packet index publishedAt edge
          (qualification.map Qualification.RelationQualification.asMetadata))

/-- The entries of the domains that have no lowering. -/
def nonCanonicalEntries (state : TopologyState) : List PlanEntry :=
  state.candidateRelations.map (fun record =>
      .skipped ⟨.relationship, record.relationId, Eligibility.skipCandidateDomain⟩)
    ++ state.candidateClusters.map (fun record =>
      .skipped ⟨.entity, record.candidateId, Eligibility.skipCandidateDomain⟩)
    ++ state.readinessEvidence.map (fun record =>
      .skipped ⟨.entity, record.readinessId, Eligibility.skipReadinessDomain⟩)
    ++ state.topologyReasoningCandidates.map fun record =>
      .skipped ⟨.entity, record.reasoningCandidateId, Eligibility.skipReasoningDomain⟩

/-- The index of a strict policy. -/
def qualificationIndexOf (state : TopologyState) : Option QualificationIndex :=
  match policy.relationQualification with
  | .strict => some (.build state)
  | .legacy => none

/-- Everything the builder appends to its two lists. -/
def planEntries (state : TopologyState) : Except PublicationFailure (List PlanEntry) := do
  let repositories ← state.repositoryRecords.mapM (repositoryEntry c policy packet index publishedAt)
  let capabilities ← state.capabilityRecords.mapM (capabilityEntry c policy packet index publishedAt)
  let claims ← state.semanticClaims.mapM (claimEntry c policy packet index publishedAt)
  if "artifact" ∈ policy.eligibleEntityKinds then
    throw (.value "artifact entities have no supported memory lowering in publication policy v1")
  let artifacts := state.artifactRecords.map fun record =>
    PlanEntry.skipped ⟨.entity, record.artifactId, Eligibility.skipEntityKind⟩
  let relationships ← state.edgeRecords.mapM
    (relationshipEntry c str policy packet index publishedAt (qualificationIndexOf policy state))
  return repositories ++ capabilities ++ claims ++ artifacts ++ relationships
    ++ nonCanonicalEntries state

end Entries

/-! ## The plan -/

/-- `require_publishable_topology`. -/
def requirePublishableTopology (packet : TopologyPacket) (policy : PublicationPolicy) :
    Except PublicationFailure Unit :=
  if policy.requireValidatedTopology = true ∧ packet.validation.status ≠ .passed then
    .error (.eligibility ("publication requires a Topology Packet whose validation status is "
      ++ "'passed'; received '" ++ packet.validation.status.value ++ "'"))
  else .ok ()

/-- `_to_candidate`. -/
def toCandidate (context : Eligibility.Context) (lowered : LoweredCandidate) :
    PublicationCandidate where
  candidateId := lowered.candidateId
  candidateKind := lowered.candidateKind
  sourceTopologyEntityIds := lowered.sourceTopologyEntityIds
  sourceEvidenceIds := lowered.sourceEvidenceIds
  sourceRepositoryModelPacketIds :=
    context.packet.inputs.repositoryModelPackets.map PacketRef.packetId
  eligibility := Eligibility.decide lowered context
  lowering := lowered.receipt
  memoryIntent := lowered.request
  idempotencyKey := lowered.idempotencyKey

/-- `_topology_packet_ref`. -/
def topologyPacketRef (packet : TopologyPacket) : PacketRef where
  packetId := packet.packetId
  packetType := "l9.topology"
  packetVersion := packet.packetVersion
  uri := "packet://" ++ packet.packetId
  semanticHash := packet.semanticHash
  artifactHash := some packet.artifactHash
  validationStatus := packet.validation.status

/-- `PUBLICATION_PLAN_VERSION`. -/
def publicationPlanVersion : String := "1.0.0"

/-- `_plan_semantic_view`. -/
def planSemanticView (planVersion producerName producerVersion : String) (packetRef : PacketRef)
    (topologySemanticHash policyHash : String) (candidates : List PublicationCandidate)
    (skipped : List SkippedCandidate) : Json :=
  .obj [("plan_type", .str "l9.topology-publication-plan"),
    ("plan_version", .str planVersion),
    ("producer_name", .str producerName),
    ("producer_version", .str producerVersion),
    ("source_topology_packet_id", .str packetRef.packetId),
    ("source_topology_semantic_hash", .str topologySemanticHash),
    ("policy_hash", .str policyHash),
    ("candidates", .arr (candidates.map PublicationCandidate.toJson)),
    ("skipped_candidates", .arr (skipped.map SkippedCandidate.toJson))]

section Plan

variable (c : Codec) (str : Json → String) (policy : PublicationPolicy) (packet : TopologyPacket)

/-- The plan over the entries: sorted, counted and hashed. -/
def assemblePlan (context : Eligibility.Context) (publishedAt : Timestamp)
    (entries : List PlanEntry) : PublicationPlan :=
  let candidates := sortedBy PublicationCandidate.candidateId
    ((entries.filterMap PlanEntry.lowered?).map (toCandidate context))
  let skipped := sortedBy (fun skip : SkippedCandidate => toLex (skip.sourceKind.value, skip.sourceId))
    (entries.filterMap PlanEntry.skip?)
  let producerName := packet.producer.name ++ "/publication"
  let digest := c.publicationSemanticHash (planSemanticView publicationPlanVersion producerName
    packet.producer.version (topologyPacketRef packet) packet.semanticHash (policy.policyHash c)
    candidates skipped)
  { planVersion := publicationPlanVersion
    planId := "publication-plan:" ++ removeMarker "sha256:" digest
    producer := { packet.producer with name := producerName }
    sourceTopologyPacket := topologyPacketRef packet
    sourceTopologySemanticHash := packet.semanticHash
    policy := policy.raw
    policyHash := policy.policyHash c
    candidates := candidates
    skippedCandidates := skipped
    diagnostics := planDiagnostics candidates skipped
    semanticHash := digest
    publishedAt := publishedAt }

/-- `build_publication_plan`. -/
def buildPublicationPlan (materialized : MaterializedTopology) (publishedAt : Timestamp) :
    Except PublicationFailure PublicationPlan := do
  let packet := materialized.packet
  requirePublishableTopology packet policy
  let index := TopologyIndex.build materialized.state
  let context := Eligibility.Context.build policy packet materialized.state index
  let entries ← planEntries c str policy packet index publishedAt materialized.state
  return assemblePlan c policy packet context publishedAt entries

end Plan

end ConstellationTopology
