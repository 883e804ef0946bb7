import ConstellationTopology.Domain.BridgeGap
import ConstellationTopology.Domain.Topology
import ConstellationTopology.Library.Collection
import Mathlib.Algebra.BigOperators.Group.List.Basic
import Mathlib.Data.Prod.Lex

set_option autoImplicit false

/-! # The projection of bridge gaps

`topology/bridge_gaps.py`: a capability that is built or exposed and never consumed, and an output
that is produced and never consumed, are gaps of the topology. Whether a subject has one depends on
the edges at it alone (`capabilityGap_congr`), so a consuming edge takes away one gap and no
other. -/

namespace ConstellationTopology

/-! ## The policy -/

/-- `BRIDGE_GAP_POLICY_ID`. -/
def bridgeGapPolicyId : String := "l9.bridge-gap-policy"

/-- `BRIDGE_GAP_POLICY_VERSION`. -/
def bridgeGapPolicyVersion : String := "1.0.0"

def bridgeGapPolicyView : Json :=
  .obj [("policy_id", .str bridgeGapPolicyId),
    ("policy_version", .str bridgeGapPolicyVersion),
    ("rules", .obj
      [(BridgeGapType.builtUnreachable.value, .obj
        [("subject_kind", .str "capability"),
          ("requires", Json.strings ["IMPLEMENTS"]),
          ("missing_all", Json.strings ["EXPOSES", "ROUTES_TO"]),
          ("expected_state", .str BridgeLifecycleState.exposed.value)]),
      (BridgeGapType.exposedUnconsumed.value, .obj
        [("subject_kind", .str "capability"),
          ("requires_any", Json.strings ["EXPOSES", "ROUTES_TO"]),
          ("missing", .str "CONSUMES"),
          ("expected_state", .str BridgeLifecycleState.consumed.value)]),
      (BridgeGapType.orphanOutput.value, .obj
        [("subject_kind", .str "output"),
          ("requires", Json.strings ["PRODUCES"]),
          ("missing", .str "CONSUMES"),
          ("expected_state", .str BridgeLifecycleState.consumed.value)])]),
    ("precedence", Json.strings
      [BridgeGapType.builtUnreachable.value, BridgeGapType.exposedUnconsumed.value,
        BridgeGapType.orphanOutput.value]),
    ("default_activation_intent", .str ActivationIntent.unknown.value),
    ("effect_authority", .str "none")]

/-- `_disposition`. -/
def dispositionOf : ActivationIntent → BridgeDisposition
  | .required => .actionRequired
  | .optional | .deferred => .intentionalDormancy
  | .prohibited => .correctlyDisconnected
  | .unknown => .decisionRequired

/-- `_recommended_action`. -/
def bridgeAction (gapType : BridgeGapType) : ActivationIntent → String
  | .prohibited => "Preserve the disconnection and retain explicit prohibition evidence."
  | .optional | .deferred =>
      "Record the intentional dormant state and avoid an activation claim."
  | .unknown =>
      "Assign activation intent before wiring, retiring, or promoting this subject."
  | .required =>
      match gapType with
      | .builtUnreachable =>
          "Wire an existing entry surface to the capability and attach runtime proof."
      | .exposedUnconsumed =>
          "Bind a real consumer to the existing interface and prove the handoff."
      | .orphanOutput => "Bind a consumer to the produced output and prove boundary survival."

/-! ## Edges at a subject -/

/-- `incoming[subject]`. -/
def incomingEdges (edges : List EdgeRecord) (subjectId : String) : List EdgeRecord :=
  sortedBy EdgeRecord.edgeId (edges.filter fun edge => edge.targetId = subjectId)

/-- `outgoing[subject]`. -/
def outgoingEdges (edges : List EdgeRecord) (subjectId : String) : List EdgeRecord :=
  sortedBy EdgeRecord.edgeId (edges.filter fun edge => edge.sourceId = subjectId)

/-- `_of_type`. -/
def ofType (edges : List EdgeRecord) (edgeTypes : List EdgeType) : List EdgeRecord :=
  edges.filter fun edge => edge.edgeType ∈ edgeTypes

/-- `_evidence`. -/
def edgeEvidence (groups : List (List EdgeRecord)) (direct : List String := []) : List String :=
  sortedSet (direct ++ groups.flatten.flatMap EdgeRecord.evidenceRefs)

/-- `_confidence`. -/
def gapConfidence (groups : List (List EdgeRecord)) (direct : List String := []) :
    ConfidenceAssessment :=
  .deterministic (1 < groups.flatten.length || 1 < (edgeEvidence groups direct).length)

/-! ## Intents -/

/-- `raw.upper()`: of the letters beyond ASCII the dotless i alone becomes one that a value has. -/
def upperLetter (ch : Char) : Char := if ch = 'ı' then 'I' else ch.toUpper

/-- `ActivationIntent(raw.upper())`. -/
def activationIntent? (raw : String) : Option ActivationIntent :=
  ActivationIntent.members.find? fun intent => intent.value.toList = raw.toList.map upperLetter

/-- `_declared_intents`, in the order the nodes declare them. -/
def declaredIntents (state : TopologyState) : List (String × ActivationIntent) :=
  state.graphRecords.filterMap fun record =>
    match record.recordType, record.properties.lookup "activation_intent" with
    | .node, some (.str raw) => (activationIntent? raw).map fun intent => (record.entityId, intent)
    | _, _ => none

/-- The intents the caller states, and the last one declared for a subject behind them. -/
def intentFor (state : TopologyState) (stated : List (String × ActivationIntent))
    (subjectId : String) : ActivationIntent :=
  ((stated.lookup subjectId).or ((declaredIntents state).reverse.lookup subjectId)).getD .unknown

/-! ## Gaps -/

section Gaps

variable (c : Codec)

/-- The identity of a gap. -/
def gapIdentity (subjectId : String) (gapType : BridgeGapType) : Json :=
  .obj [("policy_id", .str bridgeGapPolicyId),
    ("policy_version", .str bridgeGapPolicyVersion),
    ("subject_id", .str subjectId),
    ("gap_type", .str gapType.value)]

/-- `_record`. -/
def gapRecord (subjectId : String) (subjectKind : BridgeSubjectKind) (gapType : BridgeGapType)
    (observedState expectedState : BridgeLifecycleState) (intent : ActivationIntent)
    (producerIds evidenceRefs : List String) (reason : String)
    (confidence : ConfidenceAssessment) : BridgeGapRecord where
  bridgeGapId := c.stableId "bridge-gap" (gapIdentity subjectId gapType)
  subjectId
  subjectKind
  gapType
  observedState
  expectedState
  missingTransition := observedState.value ++ "_TO_" ++ expectedState.value
  activationIntent := intent
  disposition := dispositionOf intent
  producerIds := sortedSet producerIds
  consumerIds := []
  evidenceRefs
  reason
  recommendedAction := bridgeAction gapType intent
  confidence

variable (intents : String → ActivationIntent)

/-- `_capability_gap`. -/
def capabilityGap (edges : List EdgeRecord) (capability : CapabilityRecord) :
    Option BridgeGapRecord :=
  let incoming := incomingEdges edges capability.capabilityId
  let outgoing := outgoingEdges edges capability.capabilityId
  let implementationEdges := ofType incoming [.implements]
  let incomingValidation := ofType incoming [.validatedBy]
  let outgoingValidation := ofType outgoing [.validatedBy]
  let validationEdges := incomingValidation ++ outgoingValidation
  let exposureEdges := ofType incoming [.exposes, .routesTo]
  let routedEdges := ofType outgoing [.routesTo]
  let consumerEdges := ofType incoming [.consumes]
  let implementers := sortedSet (capability.implementedBy ++
    implementationEdges.map EdgeRecord.sourceId)
  let validators := sortedSet (capability.validatedBy ++
    incomingValidation.map EdgeRecord.sourceId ++ outgoingValidation.map EdgeRecord.targetId)
  let exposers := sortedSet (capability.exposedBy ++
    exposureEdges.map EdgeRecord.sourceId ++ routedEdges.map EdgeRecord.targetId)
  let consumers := sortedSet (consumerEdges.map EdgeRecord.sourceId)
  let intent := intents capability.capabilityId
  if consumers ≠ [] then none
  else if implementers ≠ [] ∧ exposers = [] then
    some (gapRecord c capability.capabilityId .capability .builtUnreachable
      (if validators ≠ [] then .validated else .implemented) .exposed intent implementers
      (edgeEvidence [implementationEdges, validationEdges] capability.evidenceRefs)
      ("Capability has " ++ toString implementers.length ++ " observed implementer(s)"
        ++ (if validators ≠ [] then " and " ++ toString validators.length ++ " validator(s)"
          else "")
        ++ " but no EXPOSES or ROUTES_TO path.")
      (gapConfidence [implementationEdges, validationEdges] capability.evidenceRefs))
  else if exposers ≠ [] then
    some (gapRecord c capability.capabilityId .capability .exposedUnconsumed .exposed .consumed
      intent (if implementers ≠ [] then implementers else exposers)
      (edgeEvidence [exposureEdges, routedEdges] capability.evidenceRefs)
      ("Capability has " ++ toString exposers.length
        ++ " observed exposure or route path(s) but no CONSUMES edge.")
      (gapConfidence [exposureEdges, routedEdges] capability.evidenceRefs))
  else none

/-- One turn of `_output_gaps`. -/
def outputGap (edges : List EdgeRecord) (subjectId : String) : Option BridgeGapRecord :=
  let incoming := incomingEdges edges subjectId
  let producerEdges := ofType incoming [.produces]
  let consumerEdges := ofType incoming [.consumes]
  let producers := sortedSet (producerEdges.map EdgeRecord.sourceId)
  if producerEdges = [] then none
  else if consumerEdges ≠ [] then none
  else
    some (gapRecord c subjectId .output .orphanOutput .produced .consumed (intents subjectId)
      producers (edgeEvidence [producerEdges])
      ("Output has " ++ toString producers.length ++ " observed producer(s) but no CONSUMES edge.")
      (gapConfidence [producerEdges]))

/-- The gaps of the capabilities, in the order of their ids. -/
def capabilityGaps (edges : List EdgeRecord) (capabilities : List CapabilityRecord) :
    List BridgeGapRecord :=
  (sortedBy CapabilityRecord.capabilityId capabilities).filterMap (capabilityGap c intents edges)

/-- `_output_gaps`. -/
def outputGaps (edges : List EdgeRecord) (capabilities : List CapabilityRecord)
    (excludedSubjectIds : List String) : List BridgeGapRecord :=
  ((sortedSet (edges.map EdgeRecord.targetId)).filter fun subjectId =>
    subjectId ∉ capabilities.map CapabilityRecord.capabilityId ∧
      subjectId ∉ excludedSubjectIds).filterMap (outputGap c intents edges)

/-- `Counter(values)`, in the order of the values. -/
def countsOf (values : List String) : List (String × ℕ) :=
  (sortedSet values).map fun value => (value, values.count value)

end Gaps

/-- The gaps in the order they are reported in. -/
def bridgeGaps (c : Codec) (intents : String → ActivationIntent) (edges : List EdgeRecord)
    (capabilities : List CapabilityRecord) : List BridgeGapRecord :=
  let found := capabilityGaps c intents edges capabilities
  sortedBy (fun gap => toLex (gap.gapType.value, gap.subjectId))
    (found ++ outputGaps c intents edges capabilities (found.map BridgeGapRecord.subjectId))

/-- `bridge_gap_projection_semantic_view`. -/
def BridgeGapProjection.semanticView (projection : BridgeGapProjection) : Json :=
  .obj [("schema_version", .str projection.schemaVersion),
    ("source_packet_id", .str projection.sourcePacketId),
    ("source_semantic_hash", .str projection.sourceSemanticHash),
    ("policy_id", .str projection.policyId),
    ("policy_version", .str projection.policyVersion),
    ("policy_hash", .str projection.policyHash),
    ("gaps", .arr (projection.gaps.map BridgeGapRecord.toJson)),
    ("counts_by_type", .obj (projection.countsByType.map fun row => (row.1, .int row.2))),
    ("counts_by_disposition",
      .obj (projection.countsByDisposition.map fun row => (row.1, .int row.2))),
    ("unknown_intent_count", .int projection.unknownIntentCount)]

/-- `project_bridge_gaps`. -/
def projectBridgeGaps (c : Codec) (state : TopologyState) (sourcePacketId : String)
    (sourceSemanticHash : String) (intentBySubject : List (String × ActivationIntent) := []) :
    BridgeGapProjection :=
  let ordered := bridgeGaps c (intentFor state intentBySubject) state.edgeRecords
    state.capabilityRecords
  let candidate : BridgeGapProjection :=
    { sourcePacketId
      sourceSemanticHash
      policyId := bridgeGapPolicyId
      policyVersion := bridgeGapPolicyVersion
      policyHash := c.semanticHash bridgeGapPolicyView
      gaps := ordered
      countsByType := countsOf (ordered.map fun gap => gap.gapType.value)
      countsByDisposition := countsOf (ordered.map fun gap => gap.disposition.value)
      unknownIntentCount := (ordered.filter fun gap => gap.activationIntent = .unknown).length
      semanticHash := "sha256:pending" }
  { candidate with semanticHash := c.semanticHash candidate.semanticView }

end ConstellationTopology
