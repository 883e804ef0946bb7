import ConstellationTopology.Topology.GraphBuilder
import ConstellationTopology.Validation.ReferenceClosure

set_option autoImplicit false

/-! # Information flows

`topology/flow_builder.py`: one flow for each dependency edge. A flow is identified by the two ends
of its edge, an edge also by its properties, so edges that run in parallel have flows of one id, and
the validator refuses the state they are in. -/

namespace ConstellationTopology

variable (c : Codec)

/-- What identifies a flow. -/
def flowIdentity (source target : String) : Json :=
  .obj [("source", .str source), ("target", .str target), ("type", .str "repository-dependency")]

/-- The flow of one dependency edge. -/
def dependencyFlow (edge : EdgeRecord) : FlowRecord where
  flowId := c.stableId "flow" (flowIdentity edge.sourceId edge.targetId)
  name := edge.sourceId ++ " depends on " ++ edge.targetId
  sourceId := edge.sourceId
  targetId := edge.targetId
  flowType := "repository-dependency"
  description := "Repository dependency flow derived from canonical dependency evidence."
  stageSequence := [edge.sourceId, edge.targetId]
  evidenceRefs := edge.evidenceRefs
  confidence := edge.confidence

/-- The edges that make flows. -/
def dependencyEdges (edges : List EdgeRecord) : List EdgeRecord :=
  edges.filter fun edge => edge.edgeType = .dependsOn

/-- `build_flows`. -/
def buildFlows (edges : List EdgeRecord) : List FlowRecord :=
  sortedBy FlowRecord.flowId ((dependencyEdges edges).map (dependencyFlow c))

variable {c}

/-- A flow id fixes the two ends and nothing else. -/
theorem dependencyFlow_flowId_inj (hc : c.Faithful) {edge edge' : EdgeRecord} :
    (dependencyFlow c edge).flowId = (dependencyFlow c edge').flowId ↔
      (edge.sourceId, edge.targetId) = (edge'.sourceId, edge'.targetId) := by
  unfold dependencyFlow
  rw [hc.stableId_inj "flow", Prod.mk.injEq]
  constructor
  · intro h
    exact ⟨Json.str.inj (Json.field_of_semantic_eq h "source" rfl rfl),
      Json.str.inj (Json.field_of_semantic_eq h "target" rfl rfl)⟩
  · rintro ⟨hsource, htarget⟩
    rw [hsource, htarget]

/-- The ends of the dependency edges, in the order of the edges. -/
def dependencyEnds (edges : List EdgeRecord) : List (String × String) :=
  (dependencyEdges edges).map fun edge => (edge.sourceId, edge.targetId)

/-- A list has no repetition under one column exactly when it has none under another that tells
    the same rows apart. -/
theorem map_nodup_congr {α β γ : Type*} {f : α → β} {g : α → γ} {rows : List α}
    (h : ∀ x y, f x = f y ↔ g x = g y) : (rows.map f).Nodup ↔ (rows.map g).Nodup := by
  unfold List.Nodup
  rw [List.pairwise_map, List.pairwise_map]
  constructor <;> intro hrows <;> refine hrows.imp fun {x y} hne heq => hne ?_
  · exact (h x y).2 heq
  · exact (h x y).1 heq

theorem buildFlows_nodup_iff (hc : c.Faithful) (edges : List EdgeRecord) :
    ((buildFlows c edges).map FlowRecord.flowId).Nodup ↔ (dependencyEnds edges).Nodup := by
  rw [buildFlows, ((sortedBy_perm _ _).map FlowRecord.flowId).nodup_iff, List.map_map]
  exact map_nodup_congr fun _ _ => dependencyFlow_flowId_inj hc

/-- The validator's check of the flow ids. -/
def uniqueFlowCheck (edges : List EdgeRecord) : ValidationCheck :=
  uniqueIdCheck "flow" "Flow" ((buildFlows c edges).map FlowRecord.flowId)

/-- **Flows of distinct ids.** The flows have distinct ids, and the validator lets them pass,
    exactly when no two dependency edges have the same ends. -/
theorem flows_unique_iff (hc : c.Faithful) (edges : List EdgeRecord) :
    (((buildFlows c edges).map FlowRecord.flowId).Nodup ∧
        (uniqueFlowCheck (c := c) edges).status ≠ .failed) ↔ (dependencyEnds edges).Nodup := by
  have hcheck : (uniqueFlowCheck (c := c) edges).status ≠ .failed ↔
      ((buildFlows c edges).map FlowRecord.flowId).Nodup := by
    rw [uniqueFlowCheck, uniqueIdCheck, Ne, validationCheck_failed_iff, Bool.not_eq_false,
      List.isEmpty_iff, duplicates_eq_nil_iff]
  rw [hcheck, and_self, buildFlows_nodup_iff hc]

/-! ## Parallel edges -/

/-- A dependency the projector of one claim adds, beside whatever other claims state. -/
def statedDependency (c : Codec) (claimId : String) : EdgeRecord where
  edgeId := stableEdgeId c "artifact:plan" "artifact:design" .dependsOn
    [("projected_from_claim_id", .str claimId)]
  sourceId := "artifact:plan"
  targetId := "artifact:design"
  edgeType := .dependsOn
  properties := [("projected_from_claim_id", .str claimId)]

theorem flows_unique_one_claim :
    (((buildFlows textCodec [statedDependency textCodec "claim:1"]).map FlowRecord.flowId).Nodup ∧
        (uniqueFlowCheck (c := textCodec) [statedDependency textCodec "claim:1"]).status ≠
          .failed) ↔
      (dependencyEnds [statedDependency textCodec "claim:1"]).Nodup :=
  flows_unique_iff textCodec_faithful [statedDependency textCodec "claim:1"]

/-- Two claims about one target are two edges with one flow id. -/
theorem flows_not_unique :
    ¬ ∀ (c : Codec) (edges : List EdgeRecord), c.Faithful →
      (edges.map EdgeRecord.edgeId).Nodup → ((buildFlows c edges).map FlowRecord.flowId).Nodup := by
  intro hclaim
  have hedges : ([statedDependency textCodec "claim:1", statedDependency textCodec "claim:2"].map
      EdgeRecord.edgeId).Nodup := by
    rw [List.map_cons, List.map_singleton, List.nodup_cons, List.mem_singleton]
    refine ⟨fun heq => ?_, List.nodup_singleton _⟩
    have hproperties := (stableEdgeId_inj textCodec_faithful heq).2.2.2
      "projected_from_claim_id" (by decide)
    exact absurd (Json.str.inj (Option.some.inj hproperties)) (by decide)
  have hends := (buildFlows_nodup_iff textCodec_faithful _).1
    (hclaim textCodec _ textCodec_faithful hedges)
  exact absurd hends (by decide)

end ConstellationTopology
