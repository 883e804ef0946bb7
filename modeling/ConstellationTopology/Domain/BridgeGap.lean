import ConstellationTopology.Domain.Confidence
import ConstellationTopology.Run.Hashing

set_option autoImplicit false

/-! # Bridge gaps

`domain/bridge_gap.py`: the lifecycle transitions that a topology shows to be missing, beside what
an operator intends with the subject. -/

namespace ConstellationTopology

/-- The kinds of missing transitions. -/
inductive BridgeGapType
  | builtUnreachable
  | exposedUnconsumed
  | orphanOutput
  deriving DecidableEq, Repr

/-- The gap type as it is serialized. -/
def BridgeGapType.value : BridgeGapType → String
  | builtUnreachable => "BUILT_UNREACHABLE"
  | exposedUnconsumed => "EXPOSED_UNCONSUMED"
  | orphanOutput => "ORPHAN_OUTPUT"

/-- How far a subject has come. -/
inductive BridgeLifecycleState
  | implemented
  | validated
  | exposed
  | produced
  | consumed
  deriving DecidableEq, Repr

/-- The lifecycle state as it is serialized. -/
def BridgeLifecycleState.value : BridgeLifecycleState → String
  | implemented => "IMPLEMENTED"
  | validated => "VALIDATED"
  | exposed => "EXPOSED"
  | produced => "PRODUCED"
  | consumed => "CONSUMED"

/-- What the operator intends with a subject. -/
inductive ActivationIntent
  | required
  | optional
  | deferred
  | prohibited
  | unknown
  deriving DecidableEq, Repr

/-- The intent as it is serialized. -/
def ActivationIntent.value : ActivationIntent → String
  | required => "REQUIRED"
  | optional => "OPTIONAL"
  | deferred => "DEFERRED"
  | prohibited => "PROHIBITED"
  | unknown => "UNKNOWN"

/-- The members of `ActivationIntent`. -/
def ActivationIntent.members : List ActivationIntent :=
  [required, optional, deferred, prohibited, unknown]

/-- What a gap asks of the operator. -/
inductive BridgeDisposition
  | actionRequired
  | intentionalDormancy
  | correctlyDisconnected
  | decisionRequired
  deriving DecidableEq, Repr

/-- The disposition of a gap as it is serialized. -/
def BridgeDisposition.value : BridgeDisposition → String
  | actionRequired => "ACTION_REQUIRED"
  | intentionalDormancy => "INTENTIONAL_DORMANCY"
  | correctlyDisconnected => "CORRECTLY_DISCONNECTED"
  | decisionRequired => "DECISION_REQUIRED"

/-- What a gap is about. -/
inductive BridgeSubjectKind
  | capability
  | output
  deriving DecidableEq, Repr

/-- The subject kind as it is serialized. -/
def BridgeSubjectKind.value : BridgeSubjectKind → String
  | capability => "capability"
  | output => "output"

/-- One missing transition of one subject. -/
structure BridgeGapRecord where
  bridgeGapId : String
  subjectId : String
  subjectKind : BridgeSubjectKind
  gapType : BridgeGapType
  observedState : BridgeLifecycleState
  expectedState : BridgeLifecycleState
  missingTransition : String
  activationIntent : ActivationIntent := .unknown
  disposition : BridgeDisposition := .decisionRequired
  producerIds : List String := []
  consumerIds : List String := []
  evidenceRefs : List String := []
  reason : String
  recommendedAction : String
  confidence : ConfidenceAssessment := .unknown
  deriving DecidableEq, Repr

/-- A gap as it is dumped. -/
def BridgeGapRecord.toJson (gap : BridgeGapRecord) : Json :=
  .obj [("bridge_gap_id", .str gap.bridgeGapId),
    ("subject_id", .str gap.subjectId),
    ("subject_kind", .str gap.subjectKind.value),
    ("gap_type", .str gap.gapType.value),
    ("observed_state", .str gap.observedState.value),
    ("expected_state", .str gap.expectedState.value),
    ("missing_transition", .str gap.missingTransition),
    ("activation_intent", .str gap.activationIntent.value),
    ("disposition", .str gap.disposition.value),
    ("producer_ids", Json.strings gap.producerIds),
    ("consumer_ids", Json.strings gap.consumerIds),
    ("evidence_refs", Json.strings gap.evidenceRefs),
    ("reason", .str gap.reason),
    ("recommended_action", .str gap.recommendedAction),
    ("confidence", gap.confidence.toJson)]

/-- `BRIDGE_GAP_SCHEMA_VERSION`. -/
def bridgeGapSchemaVersion : String := "l9.bridge-gap-projection/v1"

/-- The gaps of one packet under one policy, with their counts. -/
structure BridgeGapProjection where
  schemaVersion : String := bridgeGapSchemaVersion
  sourcePacketId : String
  sourceSemanticHash : String
  policyId : String
  policyVersion : String
  policyHash : String
  gaps : List BridgeGapRecord := []
  countsByType : List (String × ℕ) := []
  countsByDisposition : List (String × ℕ) := []
  unknownIntentCount : ℕ := 0
  semanticHash : String
  deriving DecidableEq, Repr

end ConstellationTopology
