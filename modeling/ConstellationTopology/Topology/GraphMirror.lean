import ConstellationTopology.Library.JsonText
import ConstellationTopology.Topology.GraphBuilder

set_option autoImplicit false

/-! # The graph as a mirror of its edges

The graph records of `topology/graph_builder.py` beside the edges they are made of. The properties
of an edge are spread over the fields every edge has, so a record shows another endpoint, type or
direction where an edge carries one in its properties; elsewhere the graph mirrors its edges
(`graph_mirrors_iff`). -/

namespace ConstellationTopology

/-! ## Properties of a record -/

/-- What overrides is read first. -/
theorem lookup_overridden (base overrides : List (String × Json)) (key : String) :
    (overridden base overrides).lookup key = (overrides.lookup key).or (base.lookup key) := by
  unfold overridden
  rw [List.lookup_append, lookup_filter_keys fun name => decide (name ∉ overrides.map Prod.fst)]
  cases hkey : overrides.lookup key with
  | some value =>
      have hmem : key ∈ overrides.map Prod.fst :=
        List.mem_map.2 ⟨_, mem_of_lookup hkey, rfl⟩
      rw [if_neg (by simpa using hmem)]
      rfl
  | none =>
      have hmem : key ∉ overrides.map Prod.fst := by
        intro hmem
        obtain ⟨entry, hentry, rfl⟩ := List.mem_map.1 hmem
        simpa using List.lookup_eq_none_iff.1 hkey entry hentry
      rw [if_pos (by simpa using hmem), Option.or_none, Option.none_or]

/-! ## Mirrors -/

/-- The record shows the edge as it is. -/
structure Mirrors (record : GraphRecord) (edge : EdgeRecord) : Prop where
  entityId : record.entityId = edge.edgeId
  sourceId : record.properties.lookup "source_id" = some (.str edge.sourceId)
  targetId : record.properties.lookup "target_id" = some (.str edge.targetId)
  edgeType : record.properties.lookup "edge_type" = some (.str edge.edgeType.value)
  direction : record.properties.lookup "direction" = some (.str edge.direction.value)

/-- The properties of the edge agree under a key with what every edge has there. -/
def Keeps (properties : List (String × Json)) (key : String) (own : String) : Prop :=
  ∀ value ∈ properties.lookup key, value = .str own

/-- The properties of an edge contradict none of its fields. -/
structure KeepsFields (edge : EdgeRecord) : Prop where
  sourceId : Keeps edge.properties "source_id" edge.sourceId
  targetId : Keeps edge.properties "target_id" edge.targetId
  edgeType : Keeps edge.properties "edge_type" edge.edgeType.value
  direction : Keeps edge.properties "direction" edge.direction.value

theorem lookup_overridden_eq_iff {base properties : List (String × Json)} {key own : String}
    (hbase : base.lookup key = some (.str own)) :
    (overridden base properties).lookup key = some (.str own) ↔ Keeps properties key own := by
  rw [lookup_overridden, hbase, Keeps]
  cases properties.lookup key with
  | none => simp
  | some value => simp

/-- The record of an edge mirrors it exactly if its properties contradict none of its fields. -/
theorem edgeGraphRecord_mirrors_iff {edge : EdgeRecord} :
    Mirrors (edgeGraphRecord edge) edge ↔ KeepsFields edge := by
  constructor
  · intro h
    exact ⟨(lookup_overridden_eq_iff rfl).1 h.sourceId, (lookup_overridden_eq_iff rfl).1 h.targetId,
      (lookup_overridden_eq_iff rfl).1 h.edgeType, (lookup_overridden_eq_iff rfl).1 h.direction⟩
  · intro h
    exact ⟨rfl, (lookup_overridden_eq_iff rfl).2 h.sourceId,
      (lookup_overridden_eq_iff rfl).2 h.targetId, (lookup_overridden_eq_iff rfl).2 h.edgeType,
      (lookup_overridden_eq_iff rfl).2 h.direction⟩

/-! ## The graph -/

/-- The last one that is stated under its id. -/
def LastStated {α : Type} (key : α → String) (stated : List α) (x : α) : Prop :=
  (stated.filter fun y => key y = key x).getLast? = some x

/-- The records of one type. -/
def TopologyGraph.recordsOf (graph : TopologyGraph) (recordType : GraphRecordType) :
    List GraphRecord :=
  graph.graphRecords.filter fun record => record.recordType = recordType

/-- The graph mirrors its edges: there is one record for each of them, which shows the edge as it
is. It has one node for each id that is stated, and a node with an observed id is the one that the
observed records state. -/
structure GraphMirrors (graph : TopologyGraph) (statedIds observedIds : List String)
    (observedNodes : List GraphRecord) : Prop where
  edges_nodup : (graph.edges.map EdgeRecord.edgeId).Nodup
  one_record : ((graph.recordsOf .edge).map GraphRecord.entityId).Perm
    (graph.edges.map EdgeRecord.edgeId)
  mirrors : ∀ record ∈ graph.recordsOf .edge, ∀ edge ∈ graph.edges,
    record.entityId = edge.edgeId → Mirrors record edge
  nodes_nodup : ((graph.recordsOf .node).map GraphRecord.entityId).Nodup
  one_node : ∀ entityId ∈ statedIds, entityId ∈ (graph.recordsOf .node).map GraphRecord.entityId
  observed_first : ∀ node ∈ graph.recordsOf .node, node.entityId ∈ observedIds →
    LastStated GraphRecord.entityId observedNodes node

section Graph

variable (c : Codec) (repositories : List RepositoryRecord) (artifacts : List ArtifactRecord)
  (capabilities : List CapabilityRecord) (declaredEdges : List EdgeRecord)
  (externalNodes : List GraphRecord)

/-- The ids of the observed repositories, artifacts and capabilities. -/
def observedIds : List String :=
  repositories.map RepositoryRecord.repositoryId ++ artifacts.map ArtifactRecord.artifactId ++
    capabilities.map CapabilityRecord.capabilityId

/-- Nothing that is kept breaks the mirror: a declared edge has no property that contradicts one of
its fields, and an external record is a node. -/
structure KeepsMirror : Prop where
  fields : ∀ edge ∈ declaredEdges,
    LastStated EdgeRecord.edgeId (statedEdges c repositories artifacts capabilities declaredEdges)
      edge → KeepsFields edge
  nodes : ∀ node ∈ externalNodes,
    LastStated GraphRecord.entityId (statedNodes repositories artifacts capabilities externalNodes)
      node → node.recordType = .node

variable {c repositories artifacts capabilities declaredEdges externalNodes}

theorem statedNodes_eq : statedNodes repositories artifacts capabilities externalNodes =
    externalNodes ++ statedNodes repositories artifacts capabilities [] := by
  simp [statedNodes]

theorem statedEdges_eq : statedEdges c repositories artifacts capabilities declaredEdges =
    declaredEdges ++ statedEdges c repositories artifacts capabilities [] := by
  simp [statedEdges]

theorem observed_recordType {node : GraphRecord}
    (h : node ∈ statedNodes repositories artifacts capabilities []) : node.recordType = .node := by
  simp only [statedNodes, List.nil_append, List.mem_append, List.mem_flatMap, List.mem_map,
    repositoryNodes, List.mem_cons] at h
  rcases h with (⟨_, _, rfl | ⟨_, _, rfl⟩⟩ | ⟨_, _, rfl⟩) | ⟨_, _, rfl⟩
  · rfl
  · rfl
  · rfl
  · rfl

theorem builtEdge_keepsFields {sourceId targetId : String} {edgeType : EdgeType}
    {evidenceRefs : List String} {confidence : ConfidenceAssessment} :
    KeepsFields (builtEdge c sourceId targetId edgeType evidenceRefs confidence) :=
  ⟨nofun, nofun, nofun, nofun⟩

theorem built_keepsFields {edge : EdgeRecord}
    (h : edge ∈ statedEdges c repositories artifacts capabilities []) : KeepsFields edge := by
  simp only [statedEdges, List.nil_append, List.mem_append, List.mem_flatMap, repositoryEdges,
    artifactEdges, capabilityEdges, List.mem_cons, List.mem_map] at h
  rcases h with (⟨_, _, ⟨_, _, rfl⟩ | ⟨_, _, rfl⟩⟩ | ⟨_, _, rfl | ⟨_, _, rfl⟩⟩) |
    ⟨_, _, ⟨_, _, rfl⟩ | ⟨_, _, rfl⟩⟩
  · exact builtEdge_keepsFields
  · exact builtEdge_keepsFields
  · exact builtEdge_keepsFields
  · exact builtEdge_keepsFields
  · exact builtEdge_keepsFields
  · exact builtEdge_keepsFields

theorem exists_observed {entityId : String}
    (hid : entityId ∈ observedIds repositories artifacts capabilities) :
    ∃ node ∈ statedNodes repositories artifacts capabilities [], node.entityId = entityId := by
  simp only [observedIds, List.mem_append, List.mem_map] at hid
  simp only [statedNodes, List.nil_append, List.mem_append, List.mem_flatMap, List.mem_map,
    repositoryNodes]
  rcases hid with (⟨repository, hmem, rfl⟩ | ⟨artifact, hmem, rfl⟩) | ⟨capability, hmem, rfl⟩
  · exact ⟨repositoryNode repository, .inl (.inl ⟨repository, hmem, List.mem_cons_self⟩), rfl⟩
  · exact ⟨artifactNode artifact, .inl (.inr ⟨artifact, hmem, rfl⟩), rfl⟩
  · exact ⟨capabilityNode capability, .inr ⟨capability, hmem, rfl⟩, rfl⟩

/-- What is kept under an observed id is what the observed records state last. -/
theorem lastStated_observed {node : GraphRecord}
    (hid : node.entityId ∈ observedIds repositories artifacts capabilities) :
    LastStated GraphRecord.entityId (statedNodes repositories artifacts capabilities externalNodes)
        node ↔ LastStated GraphRecord.entityId
      (statedNodes repositories artifacts capabilities []) node := by
  unfold LastStated
  rw [statedNodes_eq, List.filter_append, List.getLast?_append]
  cases hlast : ((statedNodes repositories artifacts capabilities []).filter fun stated =>
      stated.entityId = node.entityId).getLast? with
  | some kept => rfl
  | none =>
      -- an observed id is stated by the observed record itself
      obtain ⟨stated, hstated, hsame⟩ := exists_observed hid
      have hnone := List.filter_eq_nil_iff.1 (List.getLast?_eq_none_iff.1 hlast) stated hstated
      exact absurd (decide_eq_true hsame) hnone

end Graph

section Records

variable {graph : TopologyGraph}

theorem TopologyGraph.recordsOf_edge : graph.recordsOf .edge =
    (graph.nodes.filter fun record => record.recordType = .edge) ++
      graph.edges.map edgeGraphRecord := by
  rw [recordsOf, graphRecords, List.filter_append, List.filter_map]
  congr 1
  exact congrArg _ (List.filter_eq_self.2 fun _ _ => rfl)

theorem TopologyGraph.recordsOf_node : graph.recordsOf .node =
    graph.nodes.filter fun record => record.recordType = .node := by
  have hedges : (graph.edges.map edgeGraphRecord).filter
      (fun record => record.recordType = .node) = [] := by
    simp [edgeGraphRecord]
  rw [recordsOf, graphRecords, List.filter_append, hedges, List.append_nil]

end Records

section Graph

variable {c : Codec} {repositories : List RepositoryRecord} {artifacts : List ArtifactRecord}
  {capabilities : List CapabilityRecord} {declaredEdges : List EdgeRecord}
  {externalNodes : List GraphRecord}

theorem edges_ids_nodup : ((buildTopologyGraph c repositories artifacts capabilities declaredEdges
    externalNodes).edges.map EdgeRecord.edgeId).Nodup :=
  ((sortedBy_perm _ _).map _).nodup_iff.2 (Table.keys_nodup _)

theorem nodes_ids_nodup : ((buildTopologyGraph c repositories artifacts capabilities declaredEdges
    externalNodes).nodes.map GraphRecord.entityId).Nodup :=
  ((sortedBy_perm _ _).map _).nodup_iff.2 (Table.keys_nodup _)

theorem mem_nodes_ids {entityId : String} :
    entityId ∈ (buildTopologyGraph c repositories artifacts capabilities declaredEdges
        externalNodes).nodes.map GraphRecord.entityId ↔
      entityId ∈ (statedNodes repositories artifacts capabilities externalNodes).map
        GraphRecord.entityId :=
  ((sortedBy_perm _ _).map _).mem_iff.trans Table.mem_keys_ofRows

theorem LastStated.mem {α : Type} {key : α → String} {stated : List α} {x : α}
    (h : LastStated key stated x) : x ∈ stated :=
  List.mem_of_mem_filter (List.mem_of_getLast? h)

theorem KeepsMirror.nodes_recordType
    (h : KeepsMirror c repositories artifacts capabilities declaredEdges externalNodes)
    {node : GraphRecord} (hnode : node ∈ (buildTopologyGraph c repositories artifacts capabilities
      declaredEdges externalNodes).nodes) : node.recordType = .node := by
  have hlast : LastStated GraphRecord.entityId
      (statedNodes repositories artifacts capabilities externalNodes) node :=
    (mem_nodes_iff c).1 hnode
  have hmem := hlast.mem
  rw [statedNodes_eq] at hmem
  rcases List.mem_append.1 hmem with hexternal | hobserved
  · exact h.nodes node hexternal hlast
  · exact observed_recordType hobserved

theorem KeepsMirror.edges_keepsFields
    (h : KeepsMirror c repositories artifacts capabilities declaredEdges externalNodes)
    {edge : EdgeRecord} (hedge : edge ∈ (buildTopologyGraph c repositories artifacts capabilities
      declaredEdges externalNodes).edges) : KeepsFields edge := by
  have hlast : LastStated EdgeRecord.edgeId
      (statedEdges c repositories artifacts capabilities declaredEdges) edge :=
    (mem_edges_iff c).1 hedge
  have hmem := hlast.mem
  rw [statedEdges_eq] at hmem
  rcases List.mem_append.1 hmem with hdeclared | hbuilt
  · exact h.fields edge hdeclared hlast
  · exact built_keepsFields hbuilt

/-- A graph with one record of an edge for each edge has nodes only among its nodes. -/
theorem nodes_recordType_of_one_record {graph : TopologyGraph}
    (h : ((graph.recordsOf .edge).map GraphRecord.entityId).Perm
      (graph.edges.map EdgeRecord.edgeId)) {node : GraphRecord} (hnode : node ∈ graph.nodes) :
    node.recordType = .node := by
  have hlength := h.length_eq
  rw [TopologyGraph.recordsOf_edge, List.length_map, List.length_append, List.length_map,
    List.length_map] at hlength
  -- the edges have their records already, so a node of that type would be one too many
  have hnone : (graph.nodes.filter fun record => record.recordType = .edge) = [] :=
    List.length_eq_zero_iff.1 (by omega)
  have hne := List.filter_eq_nil_iff.1 hnone node hnode
  cases htype : node.recordType with
  | node => rfl
  | edge => exact absurd (decide_eq_true htype) hne

variable (c repositories artifacts capabilities declaredEdges externalNodes)

/-- **The graph mirrors its edges where they carry no other fields.** It does exactly if no edge
that is kept contradicts one of its fields in its properties, and every external record that is kept
is a node. -/
theorem graph_mirrors_iff :
    GraphMirrors (buildTopologyGraph c repositories artifacts capabilities declaredEdges
        externalNodes)
      ((statedNodes repositories artifacts capabilities externalNodes).map GraphRecord.entityId)
      (observedIds repositories artifacts capabilities)
      (statedNodes repositories artifacts capabilities []) ↔
    KeepsMirror c repositories artifacts capabilities declaredEdges externalNodes := by
  constructor
  · intro hmirrors
    constructor
    · intro edge _ hlast
      have hedge : edge ∈ (buildTopologyGraph c repositories artifacts capabilities declaredEdges
          externalNodes).edges := (mem_edges_iff c).2 hlast
      refine edgeGraphRecord_mirrors_iff.1 (hmirrors.mirrors _ ?_ edge hedge rfl)
      rw [TopologyGraph.recordsOf_edge]
      exact List.mem_append_right _ (List.mem_map_of_mem hedge)
    · intro node _ hlast
      exact nodes_recordType_of_one_record hmirrors.one_record ((mem_nodes_iff c).2 hlast)
  · intro hkeeps
    have hnodes : (buildTopologyGraph c repositories artifacts capabilities declaredEdges
        externalNodes).recordsOf .node = (buildTopologyGraph c repositories artifacts capabilities
          declaredEdges externalNodes).nodes := by
      rw [TopologyGraph.recordsOf_node]
      exact List.filter_eq_self.2 fun node hnode => decide_eq_true (hkeeps.nodes_recordType hnode)
    have hedges : (buildTopologyGraph c repositories artifacts capabilities declaredEdges
        externalNodes).recordsOf .edge = (buildTopologyGraph c repositories artifacts capabilities
          declaredEdges externalNodes).edges.map edgeGraphRecord := by
      rw [TopologyGraph.recordsOf_edge, List.filter_eq_nil_iff.2 fun node hnode => by
        simp [hkeeps.nodes_recordType hnode], List.nil_append]
    refine ⟨edges_ids_nodup, ?_, ?_, ?_, ?_, ?_⟩
    · rw [hedges, List.map_map]
      exact List.Perm.of_eq rfl
    · intro record hrecord edge hedge hid
      rw [hedges] at hrecord
      obtain ⟨edge', hedge', rfl⟩ := List.mem_map.1 hrecord
      have hsame : edge' = edge := List.inj_on_of_nodup_map edges_ids_nodup hedge' hedge hid
      subst hsame
      exact edgeGraphRecord_mirrors_iff.2 (hkeeps.edges_keepsFields hedge)
    · rw [hnodes]
      exact nodes_ids_nodup
    · intro entityId hid
      rw [hnodes]
      exact mem_nodes_ids.2 hid
    · intro node hnode hid
      rw [hnodes] at hnode
      exact (lastStated_observed hid).1 ((mem_nodes_iff c).1 hnode)

end Graph

/-- A declared relation whose properties name another source. -/
def misleadingEdge : EdgeRecord where
  edgeId := "edge:uses"
  sourceId := "repo:app"
  targetId := "repo:library"
  edgeType := .dependsOn
  properties := [("source_id", .str "repo:other")]

/-- The record of the edge names the source that the properties name. -/
theorem graph_shows_other_source :
    ¬ ∀ (c : Codec) (repositories : List RepositoryRecord) (artifacts : List ArtifactRecord)
      (capabilities : List CapabilityRecord) (declaredEdges : List EdgeRecord)
      (externalNodes : List GraphRecord), (∀ node ∈ externalNodes, node.recordType = .node) →
      GraphMirrors
        (buildTopologyGraph c repositories artifacts capabilities declaredEdges externalNodes)
        ((statedNodes repositories artifacts capabilities externalNodes).map GraphRecord.entityId)
        (observedIds repositories artifacts capabilities)
        (statedNodes repositories artifacts capabilities []) := by
  intro h
  have hmirrors := h textCodec [] [] [] [misleadingEdge] [] (by simp)
  have hshown := hmirrors.mirrors (edgeGraphRecord misleadingEdge) List.mem_cons_self misleadingEdge
    List.mem_cons_self rfl
  have hsource := (edgeGraphRecord_mirrors_iff.1 hshown).sourceId _ rfl
  exact absurd (Json.str.inj hsource) (by decide)

end ConstellationTopology
