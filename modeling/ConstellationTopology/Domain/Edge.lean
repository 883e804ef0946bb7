import ConstellationTopology.Domain.Confidence

set_option autoImplicit false

/-! # Edges, graph records and flows

`domain/edge.py` and `domain/flow.py`: the canonical relations, their taxonomy, and the two other
record kinds that name endpoints. -/

namespace ConstellationTopology

/-- The taxonomy of canonical edges. -/
inductive EdgeType
  | contains
  | dependsOn
  | implements
  | exposes
  | validatedBy
  | governedBy
  | ownedBy
  | documentedBy
  | produces
  | consumes
  | derivedFrom
  | supersedes
  | routesTo
  | publishesTo
  | memberOf
  | duplicateOf
  | blockedBy
  | references
  deriving DecidableEq, Repr

/-- The edge type as it is serialized. -/
def EdgeType.value : EdgeType → String
  | contains => "CONTAINS"
  | dependsOn => "DEPENDS_ON"
  | implements => "IMPLEMENTS"
  | exposes => "EXPOSES"
  | validatedBy => "VALIDATED_BY"
  | governedBy => "GOVERNED_BY"
  | ownedBy => "OWNED_BY"
  | documentedBy => "DOCUMENTED_BY"
  | produces => "PRODUCES"
  | consumes => "CONSUMES"
  | derivedFrom => "DERIVED_FROM"
  | supersedes => "SUPERSEDES"
  | routesTo => "ROUTES_TO"
  | publishesTo => "PUBLISHES_TO"
  | memberOf => "MEMBER_OF"
  | duplicateOf => "DUPLICATE_OF"
  | blockedBy => "BLOCKED_BY"
  | references => "REFERENCES"

/-- The members of `EdgeType`. -/
def EdgeType.members : List EdgeType :=
  [contains, dependsOn, implements, exposes, validatedBy, governedBy, ownedBy, documentedBy,
    produces, consumes, derivedFrom, supersedes, routesTo, publishesTo, memberOf, duplicateOf,
    blockedBy, references]

theorem EdgeType.mem_members (edgeType : EdgeType) : edgeType ∈ members := by
  cases edgeType <;> decide

/-- The members have distinct values, so one look at the list replaces a look at every pair. -/
theorem EdgeType.value_injective : Function.Injective EdgeType.value := by
  intro a b h
  have hnodup : (members.map value).Nodup := by decide
  exact List.inj_on_of_nodup_map hnodup a.mem_members b.mem_members h

/-- `NON_TRAVERSABLE_EDGE_TYPES`. -/
def nonTraversableEdgeTypes : List EdgeType := [.duplicateOf, .references]

/-- `TRAVERSABLE_EDGE_TYPES`. -/
def traversableEdgeTypes : List EdgeType :=
  EdgeType.members.filter fun member => member ∉ nonTraversableEdgeTypes

/-- Which way an edge is read. -/
inductive Direction
  | outbound
  | inbound
  | bidirectional
  deriving DecidableEq, Repr

/-- The direction of an edge as it is serialized. -/
def Direction.value : Direction → String
  | outbound => "outbound"
  | inbound => "inbound"
  | bidirectional => "bidirectional"

theorem Direction.value_injective : Function.Injective Direction.value := by
  intro a b h
  cases a <;> cases b <;> simp_all [value]

/-- A canonical relation of two entities. -/
structure EdgeRecord where
  edgeId : String
  sourceId : String
  targetId : String
  edgeType : EdgeType
  direction : Direction := .outbound
  properties : List (String × Json) := []
  evidenceRefs : List String := []
  confidence : ConfidenceAssessment := .unknown

/-- `edge.properties.get(key)`; a JSON null is `None`. -/
def EdgeRecord.property? (edge : EdgeRecord) (key : String) : Option Json :=
  match edge.properties.lookup key with
  | some .null => none
  | found => found

/-! ## Byte identity -/

/-- `EXACT_DUPLICATE_METHOD`. -/
def exactDuplicateMethod : String := "content-hash-equality/v1"

/-- `canonical_pair`: two endpoints of a symmetric relation in a fixed order. -/
def canonicalPair (left right : String) : String × String :=
  if left ≤ right then (left, right) else (right, left)

/-- `duplicate_confidence`. -/
def duplicateConfidence : ConfidenceAssessment where
  level := .high
  evidenceStrength := .direct
  derivationMethod := .deterministic
  authority := .validatedMachine
  completeness := .complete
  conflictStatus := .none

/-! ## Records of the graph -/

/-- The graph holds nodes and edges. -/
inductive GraphRecordType
  | node
  | edge
  deriving DecidableEq, Repr

/-- The record type as it is serialized. -/
def GraphRecordType.value : GraphRecordType → String
  | node => "node"
  | edge => "edge"

/-- A node or an edge as the graph shows it. -/
structure GraphRecord where
  recordType : GraphRecordType
  label : String
  entityId : String
  properties : List (String × Json) := []
  evidenceRefs : List String := []
  confidence : ConfidenceAssessment := .unknown

/-- A flow of information along an edge. -/
structure FlowRecord where
  flowId : String
  name : String
  sourceId : String
  targetId : String
  flowType : String
  packetType : Option String := none
  description : String
  stageSequence : List String := []
  evidenceRefs : List String := []
  confidence : ConfidenceAssessment := .unknown

end ConstellationTopology
