import ConstellationTopology.Domain.Assessment
import ConstellationTopology.Domain.Edge
import ConstellationTopology.Library.BreadthFirst
import ConstellationTopology.Library.Collection
import ConstellationTopology.Library.Fallible
import Mathlib.Data.Prod.Lex

set_option autoImplicit false

/-! # Impact traversal

`topology/impact.py`: the entities that a bounded search reaches from a subject, over the edges of
a taxonomy or, when asked, only over dependencies whose target the producer has resolved. -/

namespace ConstellationTopology

open BreadthFirst

/-! ## Resolution of a target -/

/-- `DEPENDENCY_EDGE_TYPES`. -/
def dependencyEdgeTypes : List EdgeType := [.dependsOn, .blockedBy]

/-- `TargetResolution`. -/
inductive TargetResolution
  | resolvedExactArtifact
  | resolvedExternalPackage
  | resolvedObservedEntity
  | unresolvedRecorded
  | unresolvedNoProducerEvidence
  deriving DecidableEq, Repr

/-- The name of the resolution. -/
def TargetResolution.value : TargetResolution → String
  | resolvedExactArtifact => "resolved-exact-artifact"
  | resolvedExternalPackage => "resolved-external-package"
  | resolvedObservedEntity => "resolved-observed-entity"
  | unresolvedRecorded => "unresolved-recorded"
  | unresolvedNoProducerEvidence => "unresolved-no-producer-evidence"

/-- `dependency_target_resolution`. -/
def dependencyTargetResolution (edge : EdgeRecord) (observedEntityIds : List String) :
    TargetResolution :=
  match edge.property? "target_resolution" with
  | some recorded =>
      if recorded.isText "exact-artifact" then .resolvedExactArtifact else .unresolvedRecorded
  | none =>
      if (edge.property? "endpoint_kind").any (Json.isText "external-package-reference") then
        .resolvedExternalPackage
      else if edge.targetId ∈ observedEntityIds then .resolvedObservedEntity
      else .unresolvedNoProducerEvidence

/-- `edge_is_resolved`. -/
def edgeIsResolved (edge : EdgeRecord) (observedEntityIds : List String) : Bool :=
  "resolved-".toList.isPrefixOf (dependencyTargetResolution edge observedEntityIds).value.toList

/-! ## The request -/

/-- The parameters of `assess_impact`, with their defaults; the type of the direction leaves no
    other text to refuse. -/
structure ImpactRequest where
  subjectId : String
  edges : List EdgeRecord
  direction : ImpactDirection := .downstream
  maximumDepth : ℤ := 10
  edgeTypes : Option (List EdgeType) := none
  minimumConfidence : ConfidenceLevel := .low
  resolutionAware : Bool := false
  observedEntityIds : List String := []

/-- The two ways along an edge. -/
inductive Sense
  | outgoing
  | incoming
  deriving DecidableEq, Repr

/-- The endpoint at which a walk leaves along the edge. -/
def Sense.leaves : Sense → EdgeRecord → String
  | outgoing => EdgeRecord.sourceId
  | incoming => EdgeRecord.targetId

/-- The end an edge is entered at. -/
def Sense.enters : Sense → EdgeRecord → String
  | outgoing => EdgeRecord.targetId
  | incoming => EdgeRecord.sourceId

/-- The traversals that a direction asks for. -/
def ImpactDirection.senses : ImpactDirection → List Sense
  | upstream => [.outgoing]
  | downstream => [.incoming]
  | both => [.outgoing, .incoming]

namespace ImpactRequest

/-- `edge_types - DEPENDENCY_EDGE_TYPES`. -/
def outside (request : ImpactRequest) : List EdgeType :=
  (request.edgeTypes.getD []).filter fun edgeType => edgeType ∉ dependencyEdgeTypes

/-- `allowed_types`. -/
def allowedTypes (request : ImpactRequest) : List EdgeType :=
  if request.resolutionAware then request.edgeTypes.getD dependencyEdgeTypes
  else request.edgeTypes.getD traversableEdgeTypes

/-- The edge passes the filters on its type and its confidence. -/
def Admits (request : ImpactRequest) (edge : EdgeRecord) : Prop :=
  edge.edgeType ∈ request.allowedTypes ∧
    request.minimumConfidence.rank ≤ edge.confidence.level.rank

/-- The edge may not be crossed for want of a resolved target. -/
def Bars (request : ImpactRequest) (edge : EdgeRecord) : Prop :=
  request.resolutionAware = true ∧ edgeIsResolved edge request.observedEntityIds = false

instance (request : ImpactRequest) (edge : EdgeRecord) : Decidable (request.Admits edge) :=
  inferInstanceAs (Decidable (_ ∧ _))

instance (request : ImpactRequest) (edge : EdgeRecord) : Decidable (request.Bars edge) :=
  inferInstanceAs (Decidable (_ ∧ _))

/-- `outgoing` or `incoming`, at one node. -/
def adjacency (request : ImpactRequest) (sense : Sense) (node : String) : List (String × String) :=
  (request.edges.filter fun edge =>
    request.Admits edge ∧ ¬ request.Bars edge ∧ sense.leaves edge = node).map fun edge =>
      (sense.enters edge, edge.edgeId)

/-- `unresolved_outgoing` or `unresolved_incoming`, at one node. -/
def unresolvedAdjacency (request : ImpactRequest) (sense : Sense) (node : String) : List String :=
  (request.edges.filter fun edge =>
    request.Admits edge ∧ request.Bars edge ∧ sense.leaves edge = node).map EdgeRecord.edgeId

end ImpactRequest

/-! ## The traversal -/

/-- The sets that the traversals add to. -/
structure Found where
  affected : List String := []
  paths : List (List String) := []
  unresolved : List String := []

/-- What was found, and what is still to be looked at. -/
structure Traversal extends Found where
  queue : List (Visit String)
  visited : List String

/-- The body of the inner loop, for one entry of the adjacency. -/
def Traversal.target (current : Visit String) (traversal : Traversal) (entry : String × String) :
    Traversal :=
  let nextPath := current.path ++ [entry.1]
  let traversal := { traversal with
    paths := traversal.paths ++ [nextPath]
    affected := traversal.affected ++ [entry.1] }
  if entry.1 ∈ traversal.visited then traversal
  else { traversal with
    visited := traversal.visited ++ [entry.1]
    queue := traversal.queue ++ [⟨entry.1, nextPath, current.depth + 1⟩] }

namespace ImpactRequest

/-- The body of `while queue`. -/
def traversalStep (request : ImpactRequest) (sense : Sense) (traversal : Traversal) : Traversal :=
  match traversal.queue with
  | [] => traversal
  | current :: rest =>
    let traversal := { traversal with queue := rest }
    if (current.depth : ℤ) ≥ request.maximumDepth then traversal
    else
      (sortedBy toLex (request.adjacency sense current.node)).foldl (Traversal.target current)
        { traversal with unresolved :=
            traversal.unresolved ++ request.unresolvedAdjacency sense current.node }

/-- One traversal: a visit is queued once for each node, so the loop ends within this many rounds
    (`queue_traverse`). -/
def traverse (request : ImpactRequest) (found : Found) (sense : Sense) : Traversal :=
  (request.traversalStep sense)^[request.edges.length + 1]
    { found with queue := [⟨request.subjectId, [request.subjectId], 0⟩]
                 visited := [request.subjectId] }

/-- What the traversals find. -/
def found (request : ImpactRequest) : Found :=
  request.direction.senses.foldl (fun found sense => (request.traverse found sense).toFound) {}

/-- The result of a request that is accepted. -/
def index (request : ImpactRequest) : ImpactIndex where
  subjectId := request.subjectId
  direction := request.direction
  maximumDepth := request.maximumDepth.toNat
  affectedEntityIds := sortedSet request.found.affected
  paths := sortedSet request.found.paths
  unresolvedEdgeIds := sortedSet request.found.unresolved
  affectedRepositoryIds := sortedSet (request.found.affected.filter fun entity =>
    "repo:".toList.isPrefixOf entity.toList)
  affectedCapabilityIds := sortedSet (request.found.affected.filter fun entity =>
    "capability:".toList.isPrefixOf entity.toList)

/-- The text of `sorted(member.value for member in edge_types)`. -/
def typesText (edgeTypes : List EdgeType) : String :=
  "[" ++ ", ".intercalate ((sortedSet (edgeTypes.map EdgeType.value)).map fun value =>
    "'" ++ value ++ "'") ++ "]"

/-- The request passes the checks of `assess_impact`. -/
def Accepted (request : ImpactRequest) : Prop :=
  0 ≤ request.maximumDepth ∧ (request.resolutionAware = true → request.outside = [])

end ImpactRequest

/-- `assess_impact`. -/
def assessImpact (request : ImpactRequest) : Except String ImpactIndex := do
  demand (0 ≤ request.maximumDepth) "maximum_depth cannot be negative"
  demand (request.resolutionAware = true → request.outside.isEmpty = true)
    ("resolution-aware impact walks dependency relations only (" ++
      ImpactRequest.typesText dependencyEdgeTypes ++ "); not: " ++
      ImpactRequest.typesText request.outside)
  return request.index

theorem assessImpact_eq_ok {request : ImpactRequest} {index : ImpactIndex} :
    assessImpact request = .ok index ↔ request.Accepted ∧ request.index = index := by
  simp only [assessImpact, bind_eq_ok, demand_eq_ok, pure_eq_ok, ImpactRequest.Accepted,
    List.isEmpty_iff]
  constructor
  · rintro ⟨_, hdepth, _, htypes, heq⟩
    exact ⟨⟨hdepth, htypes⟩, heq⟩
  · rintro ⟨⟨hdepth, htypes⟩, heq⟩
    exact ⟨(), hdepth, (), htypes, heq⟩

end ConstellationTopology
