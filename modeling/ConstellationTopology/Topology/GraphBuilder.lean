import ConstellationTopology.Domain.Edge
import ConstellationTopology.Domain.Entities
import ConstellationTopology.Library.Collection
import ConstellationTopology.Library.Table
import ConstellationTopology.Library.Text
import ConstellationTopology.Run.Hashing

set_option autoImplicit false

/-! # Building the graph

`topology/graph_builder.py`: the nodes and edges that repositories, artifacts and capabilities state,
beside the declared edges and the external nodes. Both are held in dictionaries, so of several
records with one id the last one stated is kept. -/

namespace ConstellationTopology

/-- `{**base, **overrides}`. -/
def overridden (base overrides : List (String × Json)) : List (String × Json) :=
  base.filter (fun entry => entry.1 ∉ overrides.map Prod.fst) ++ overrides

variable (c : Codec)

/-- The identity of an edge. -/
def edgeIdentity (sourceId targetId : String) (edgeType : EdgeType)
    (properties : List (String × Json)) : Json :=
  .obj [("source_id", .str sourceId), ("target_id", .str targetId),
    ("edge_type", .str edgeType.value), ("properties", .obj properties)]

/-- The id of an edge. -/
def stableEdgeId (sourceId targetId : String) (edgeType : EdgeType)
    (properties : List (String × Json)) : String :=
  c.stableId "edge" (edgeIdentity sourceId targetId edgeType properties)

/-- An edge id fixes the endpoints, the type and every property that is not volatile. -/
theorem stableEdgeId_inj {c : Codec} (hc : c.Faithful) {sourceId targetId sourceId' targetId' : String}
    {edgeType edgeType' : EdgeType} {properties properties' : List (String × Json)}
    (h : stableEdgeId c sourceId targetId edgeType properties =
      stableEdgeId c sourceId' targetId' edgeType' properties') :
    sourceId = sourceId' ∧ targetId = targetId' ∧ edgeType = edgeType' ∧
      ∀ key, key ∉ volatileFields →
        (properties.lookup key).map Json.semantic = (properties'.lookup key).map Json.semantic := by
  have hsemantic := (hc.stableId_inj "edge").1 h
  have hproperties := Json.field_of_semantic_eq hsemantic "properties" rfl rfl
  refine ⟨Json.str.inj (Json.field_of_semantic_eq hsemantic "source_id" rfl rfl),
    Json.str.inj (Json.field_of_semantic_eq hsemantic "target_id" rfl rfl),
    EdgeType.value_injective
      (Json.str.inj (Json.field_of_semantic_eq hsemantic "edge_type" rfl rfl)), ?_⟩
  intro key hkey
  rw [← Json.get?_obj, ← Json.get?_obj]
  exact Json.get?_of_semantic_eq hproperties hkey

/-- The id of an edge says that it is one. -/
theorem stableEdgeId_head (c : Codec) (sourceId targetId : String) (edgeType : EdgeType)
    (properties : List (String × Json)) :
    (stableEdgeId c sourceId targetId edgeType properties).toList.head? = some 'e' := by
  simp [stableEdgeId, Codec.stableId]

/-- `_edge` of the graph builder; none of its callers gives properties. -/
def builtEdge (sourceId targetId : String) (edgeType : EdgeType) (evidenceRefs : List String)
    (confidence : ConfidenceAssessment) : EdgeRecord where
  edgeId := stableEdgeId c sourceId targetId edgeType []
  sourceId := sourceId
  targetId := targetId
  edgeType := edgeType
  direction := .outbound
  properties := []
  evidenceRefs := sortedSet evidenceRefs
  confidence := confidence

/-! ## What each record states -/

/-- The node of a repository. -/
def repositoryNode (repository : RepositoryRecord) : GraphRecord where
  recordType := .node
  label := "Repository"
  entityId := repository.repositoryId
  properties := [("name", .str repository.name),
    ("source_revision", .str repository.sourceRevision),
    ("primary_role", .str repository.primaryRole),
    ("secondary_roles", Json.strings repository.secondaryRoles),
    ("languages", Json.strings repository.languages),
    ("package_managers", Json.strings repository.packageManagers),
    ("confidence", .str repository.confidence.level.value)]
  evidenceRefs := repository.evidenceRefs
  confidence := repository.confidence

/-- The node of an owner, on the evidence of the repository. -/
def ownerNode (repository : RepositoryRecord) (ownerId : String) : GraphRecord where
  recordType := .node
  label := "Owner"
  entityId := ownerId
  properties := [("name", .str (removeMarker "owner:" ownerId))]
  evidenceRefs := repository.evidenceRefs
  confidence := repository.confidence

/-- The nodes a repository states. -/
def repositoryNodes (repository : RepositoryRecord) : List GraphRecord :=
  repositoryNode repository :: repository.ownerIds.map (ownerNode repository)

/-- The dependencies and the owners of a repository. -/
def repositoryEdges (repository : RepositoryRecord) : List EdgeRecord :=
  repository.upstreamRepositoryIds.map (fun targetId =>
      builtEdge c repository.repositoryId targetId .dependsOn repository.evidenceRefs
        repository.confidence)
    ++ repository.ownerIds.map fun ownerId =>
      builtEdge c repository.repositoryId ownerId .ownedBy repository.evidenceRefs
        repository.confidence

/-- The node of an artifact. -/
def artifactNode (artifact : ArtifactRecord) : GraphRecord where
  recordType := .node
  label := "Artifact"
  entityId := artifact.artifactId
  properties := [("repository_id", .str artifact.repositoryId),
    ("source_path", .str artifact.sourcePath),
    ("artifact_type", .str artifact.artifactType),
    ("content_hash", .str artifact.contentHash)]
  evidenceRefs := artifact.evidenceRefs
  confidence := artifact.confidence

/-- The relations of `_artifact_graph`. -/
def artifactEdges (artifact : ArtifactRecord) : List EdgeRecord :=
  builtEdge c artifact.repositoryId artifact.artifactId .contains artifact.evidenceRefs
      artifact.confidence
    :: artifact.capabilities.map fun capabilityId =>
      builtEdge c artifact.artifactId capabilityId .implements artifact.evidenceRefs
        artifact.confidence

/-- The node of a capability. -/
def capabilityNode (capability : CapabilityRecord) : GraphRecord where
  recordType := .node
  label := "Capability"
  entityId := capability.capabilityId
  properties := [("name", .str capability.name), ("description", .str capability.description)]
  evidenceRefs := capability.evidenceRefs
  confidence := capability.confidence

/-- Who implements and who exposes a capability. -/
def capabilityEdges (capability : CapabilityRecord) : List EdgeRecord :=
  capability.implementedBy.map (fun implementerId =>
      builtEdge c implementerId capability.capabilityId .implements capability.evidenceRefs
        capability.confidence)
    ++ capability.exposedBy.map fun exposedBy =>
      builtEdge c exposedBy capability.capabilityId .exposes capability.evidenceRefs
        capability.confidence

/-- The graph record of an edge: its own properties outrank the four every edge has. -/
def edgeGraphRecord (edge : EdgeRecord) : GraphRecord where
  recordType := .edge
  label := edge.edgeType.value
  entityId := edge.edgeId
  properties := overridden
    [("source_id", .str edge.sourceId), ("target_id", .str edge.targetId),
      ("edge_type", .str edge.edgeType.value), ("direction", .str edge.direction.value)]
    edge.properties
  evidenceRefs := edge.evidenceRefs
  confidence := edge.confidence

/-! ## The graph -/

/-- The nodes and the edges. -/
structure TopologyGraph where
  nodes : List GraphRecord
  edges : List EdgeRecord

/-- `graph_records`. -/
def TopologyGraph.graphRecords (graph : TopologyGraph) : List GraphRecord :=
  graph.nodes ++ graph.edges.map edgeGraphRecord

section Build

variable (repositories : List RepositoryRecord) (artifacts : List ArtifactRecord)
  (capabilities : List CapabilityRecord) (declaredEdges : List EdgeRecord)
  (externalNodes : List GraphRecord)

/-- `nodes`, in the order they are stated: the external nodes first, so that what was observed
    outranks a reference to it. -/
def statedNodes : List GraphRecord :=
  externalNodes ++ repositories.flatMap repositoryNodes ++ artifacts.map artifactNode
    ++ capabilities.map capabilityNode

/-- The edges in the order they are entered. -/
def statedEdges : List EdgeRecord :=
  declaredEdges ++ repositories.flatMap (repositoryEdges c) ++ artifacts.flatMap (artifactEdges c)
    ++ capabilities.flatMap (capabilityEdges c)

/-- `build_topology_graph`. -/
def buildTopologyGraph : TopologyGraph where
  nodes := sortedBy GraphRecord.entityId (Table.ofRows GraphRecord.entityId
    (statedNodes repositories artifacts capabilities externalNodes)).rows
  edges := sortedBy EdgeRecord.edgeId (Table.ofRows EdgeRecord.edgeId
    (statedEdges c repositories artifacts capabilities declaredEdges)).rows

variable {repositories artifacts capabilities declaredEdges externalNodes}

/-- A node of the graph is the last one stated under its id. -/
theorem mem_nodes_iff {node : GraphRecord} :
    node ∈ (buildTopologyGraph c repositories artifacts capabilities declaredEdges
        externalNodes).nodes ↔
      ((statedNodes repositories artifacts capabilities externalNodes).filter fun stated =>
        stated.entityId = node.entityId).getLast? = some node := by
  rw [buildTopologyGraph, mem_sortedBy, Table.mem_rows_iff, Table.lookup_ofRows]

/-- An edge of the graph is the last one stated under its id. -/
theorem mem_edges_iff {edge : EdgeRecord} :
    edge ∈ (buildTopologyGraph c repositories artifacts capabilities declaredEdges
        externalNodes).edges ↔
      ((statedEdges c repositories artifacts capabilities declaredEdges).filter fun stated =>
        stated.edgeId = edge.edgeId).getLast? = some edge := by
  rw [buildTopologyGraph, mem_sortedBy, Table.mem_rows_iff, Table.lookup_ofRows]

end Build

end ConstellationTopology
