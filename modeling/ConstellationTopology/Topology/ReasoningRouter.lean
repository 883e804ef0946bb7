import ConstellationTopology.Topology.Candidates

set_option autoImplicit false

/-! # Routing candidates

`topology/reasoning_router.py`: what recorded structure says about a candidate, and the decision
whether a reasoner should look at it. -/

namespace ConstellationTopology

/-! ## Signals -/

/-- `SIGNAL_CONFIRMED_CLAIM_CONFLICT`. -/
def signalConfirmedClaimConflict : String := "confirmed_claim_conflict"

/-- `SIGNAL_UNRESOLVED_EXACT_REFERENCE`. -/
def signalUnresolvedExactReference : String := "unresolved_exact_reference"

/-- `SIGNAL_AMBIGUOUS_SUPERSESSION`. -/
def signalAmbiguousSupersession : String := "ambiguous_supersession"

/-- `SIGNAL_STRUCTURALLY_DISCONNECTED`. -/
def signalStructurallyDisconnected : String := "structurally_disconnected_project_candidate"

/-- `SIGNAL_SPANS_ROOTS_AND_VERSIONS`. -/
def signalSpansRootsAndVersions : String := "spans_multiple_roots_and_versions"

/-- `SIGNAL_EXACT_DUPLICATE_ONLY`. -/
def signalExactDuplicateOnly : String := "exact_duplicate_only"

/-- `SIGNAL_EXPLAINED_BY_EXACT_RELATION`. -/
def signalExplainedByExactRelation : String := "already_explained_by_exact_source_relation"

/-- `_DEFAULT_BY_TYPE`. -/
def defaultByType : CandidateType → ReasoningType
  | .topicCandidate => .none
  | .projectCandidate => .sameBodyOfWorkAdjudication
  | .consolidationCandidate => .consolidationAnalysis

/-- `_bounded_neighborhood`. -/
def boundedNeighborhood (members : List String) (edges : List EdgeRecord) : List String :=
  sortedSet (edges.filterMap fun edge =>
    if edge.sourceId ∈ members ∧ edge.targetId ∉ members then some edge.targetId
    else if edge.targetId ∈ members ∧ edge.sourceId ∉ members then some edge.sourceId
    else none)

/-- The duplicate edges between two members. -/
def internalDuplicates (members : List String) (edges : List EdgeRecord) : List EdgeRecord :=
  edges.filter fun edge =>
    edge.edgeType = .duplicateOf ∧ edge.sourceId ∈ members ∧ edge.targetId ∈ members

/-- The cluster id of an edge, where it is a text. -/
def clusterText (edge : EdgeRecord) : Option String :=
  match edge.property? "duplicate_cluster_id" with
  | some (.str clusterId) => some clusterId
  | _ => none

/-- `_members_wholly_duplicated`. -/
def MembersWhollyDuplicated (members : List String) (edges : List EdgeRecord) : Prop :=
  let internal := internalDuplicates members edges
  2 ≤ members.dedup.length ∧
    (sortedSet (internal.filterMap clusterText)).length = 1 ∧
      sortedSet (internal.flatMap fun edge => [edge.sourceId, edge.targetId]) = sortedSet members

instance (members : List String) (edges : List EdgeRecord) :
    Decidable (MembersWhollyDuplicated members edges) :=
  inferInstanceAs (Decidable (_ ∧ _))

/-- `_explained_by_exact_relation`. -/
def explainedByExactRelation (members : List String) (edges : List EdgeRecord) : Bool :=
  edges.any fun edge => edge.edgeType = .supersedes ∧ edge.sourceId ∈ members ∧
    edge.targetId ∈ members ∧
      (edge.property? "target_resolution").any (Json.isText "exact-artifact")

/-- `_ambiguous_supersession`. -/
def ambiguousSupersession (members : List String) (edges : List EdgeRecord) : Bool :=
  edges.any fun edge => edge.edgeType = .supersedes ∧
    (edge.sourceId ∈ members ∨ edge.targetId ∈ members) ∧
      ((edge.property? "target_resolution").any (Json.isText "ambiguous") ∨
        (edge.property? "target_resolution").any (Json.isText "unresolved"))

/-! ## Collecting -/

/-- `_Signals`. -/
structure RoutingSignals where
  structural : List String
  conflictRefs : List String
  unknownRefs : List String
  escalate : Bool
  deescalate : Bool

section Routing

variable (cluster : CandidateClusterRecord) (edges : List EdgeRecord)
  (conflicts : List ConflictRecord) (unknowns : List UnknownRecord)

/-- The conflicts a candidate is about. -/
def conflictRefs : List String :=
  sortedBy id ((conflicts.filter fun conflict =>
    conflict.subjectId ∈ cluster.memberEntityIds).map ConflictRecord.conflictId)

/-- The unknowns a candidate is about. -/
def unknownRefs : List String :=
  sortedBy id ((unknowns.filter fun unknown =>
    unknown.subjectId ∈ cluster.memberEntityIds).map UnknownRecord.unknownId)

/-- The signals of `_collect_signals` that escalate. -/
def escalatingSignals : List String :=
  (if conflictRefs cluster conflicts ≠ [] ∨
      ambiguityConflictingStatus ∈ cluster.ambiguityFlags then
    [signalConfirmedClaimConflict] else []) ++
  (if unknowns.any fun unknown => unknown.reason = ambiguousTargetReason ∧
      unknown.subjectId ∈ cluster.memberEntityIds then
    [signalUnresolvedExactReference] else []) ++
  (if ambiguousSupersession cluster.memberEntityIds edges then
    [signalAmbiguousSupersession] else []) ++
  (if cluster.candidateType = .projectCandidate ∧
      ambiguityStructurallyDisconnected ∈ cluster.ambiguityFlags then
    [signalStructurallyDisconnected] else []) ++
  (if cluster.crossRoot ∧ cluster.structuralEvidence.internalSupersessionCount ≠ 0 then
    [signalSpansRootsAndVersions] else [])

/-- The signal of `_collect_signals` that lowers, looked for when nothing escalates. -/
def loweringSignal : Option String :=
  if MembersWhollyDuplicated cluster.memberEntityIds edges then some signalExactDuplicateOnly
  else if explainedByExactRelation cluster.memberEntityIds edges then
    some signalExplainedByExactRelation
  else none

/-- `_collect_signals`. -/
def collectSignals : RoutingSignals :=
  let raised := escalatingSignals cluster edges conflicts unknowns
  let lowering := if raised = [] then loweringSignal cluster edges else none
  { structural := sortedSet (raised ++ lowering.toList)
    conflictRefs := conflictRefs cluster conflicts
    unknownRefs := unknownRefs cluster unknowns
    escalate := raised ≠ []
    deescalate := lowering.isSome }

/-- `_escalated_type`. -/
def escalatedType (signals : RoutingSignals) (upstreamType : Option ReasoningType)
    (fallback : ReasoningType) : ReasoningType :=
  if signalConfirmedClaimConflict ∈ signals.structural then .conflictResolutionAnalysis
  else
    match upstreamType.filter fun reasoningType => reasoningType ≠ .none with
    | some reasoningType => reasoningType
    | none => if fallback ≠ .none then fallback else .sameBodyOfWorkAdjudication

/-- `_decide`. -/
def decideRouting (signals : RoutingSignals) (upstreamType : Option ReasoningType)
    (fallback : ReasoningType) : ReasoningType × String :=
  if signals.deescalate then
    (.none, "topology de-escalated: the grouping is already explained by an exact "
      ++ "relation this compile resolved, so there is nothing left to adjudicate")
  else if signals.escalate then
    (escalatedType signals upstreamType fallback,
      "topology escalated on structural evidence the corpus pass did not hold: "
        ++ String.intercalate ", " signals.structural)
  else
    match upstreamType with
    | some reasoningType =>
        (reasoningType, "topology found no structural evidence to change the producer's routing")
    | none =>
        (fallback, "no upstream recommendation; routed by candidate type with no structural "
          ++ "signal either way")

/-- `route_candidate`. -/
def routeCandidate (c : Codec) (upstream : Option ReasoningCandidateRequest) :
    TopologyReasoningCandidate :=
  let signals := collectSignals cluster edges conflicts unknowns
  let upstreamType := upstream.map ReasoningCandidateRequest.recommendedReasoningType
  let decision := decideRouting signals upstreamType (defaultByType cluster.candidateType)
  { reasoningCandidateId := c.stableId "reasoning-candidate"
      (.obj [("candidate_id", .str cluster.candidateId),
        ("reasoning_type", .str decision.1.value)])
    candidateId := cluster.candidateId
    upstreamRecommendedReasoningType := upstreamType
    topologyRecommendedReasoningType := decision.1
    reason := decision.2
    triggerSignals := sortedSet cluster.ambiguityFlags
    structuralSignals := signals.structural
    conflictRefs := signals.conflictRefs
    unknownRefs := signals.unknownRefs
    readinessRef := cluster.readinessEvidenceRef
    evidenceRefs := cluster.evidenceRefs
    boundedNeighborhoodRefs := boundedNeighborhood cluster.memberEntityIds edges }

end Routing

end ConstellationTopology
