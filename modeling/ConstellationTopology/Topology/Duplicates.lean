import ConstellationTopology.Library.Collection
import ConstellationTopology.Packets.CorpusIntelligence
import ConstellationTopology.Topology.GraphBuilder

set_option autoImplicit false

/-! # Byte-identical artifacts

`topology/duplicates.py`: the duplicate relations grouped into clusters, and each cluster drawn as a
star around its least member. -/

namespace ConstellationTopology

variable (c : Codec)

/-- `duplicate_edge_id`. -/
def duplicateEdgeId (artifactA artifactB contentHash : String) : String :=
  c.stableId "edge" (.obj [("edge_type", .str EdgeType.duplicateOf.value),
    ("artifact_a_id", .str (canonicalPair artifactA artifactB).1),
    ("artifact_b_id", .str (canonicalPair artifactA artifactB).2),
    ("content_hash", .str contentHash)])

/-- Artifacts with the same bytes. -/
structure DuplicateCluster where
  clusterId : String
  contentHash : String
  memberIds : List String

/-- `representative_id`; a cluster of relations has members. -/
def DuplicateCluster.representativeId (cluster : DuplicateCluster) : String :=
  cluster.memberIds.headD ""

/-- The cluster of one id: the members of all its relations, and the hash of the last one. -/
def clusterOf (relations : List ExactDuplicateRelation) (clusterId : String) : DuplicateCluster :=
  let own := groupOf ExactDuplicateRelation.duplicateClusterId clusterId relations
  { clusterId := clusterId
    contentHash := (own.getLast?.map ExactDuplicateRelation.contentHash).getD ""
    memberIds := sortedSet (own.flatMap fun relation =>
      [relation.artifactAId, relation.artifactBId]) }

/-- `cluster_relations`. -/
def clusterRelations (relations : List ExactDuplicateRelation) : List DuplicateCluster :=
  (sortedSet (relations.map ExactDuplicateRelation.duplicateClusterId)).map (clusterOf relations)

/-- The edge that joins a member to the representative of its cluster. -/
def starEdge (cluster : DuplicateCluster) (evidenceRefs : List String) (member : String) :
    EdgeRecord :=
  let pair := canonicalPair cluster.representativeId member
  { edgeId := duplicateEdgeId c pair.1 pair.2 cluster.contentHash
    sourceId := pair.1
    targetId := pair.2
    edgeType := .duplicateOf
    direction := .bidirectional
    properties := [("duplicate_cluster_id", .str cluster.clusterId),
      ("content_hash", .str cluster.contentHash),
      ("method", .str exactDuplicateMethod),
      ("cluster_member_count", .int cluster.memberIds.length),
      ("representative_artifact_id", .str cluster.representativeId),
      ("representative_is_arbitrary", .bool true)]
    evidenceRefs := evidenceRefs
    confidence := duplicateConfidence }

/-- `evidence_by_cluster`, for one cluster. -/
def clusterEvidence (relations : List ExactDuplicateRelation)
    (evidenceRefsByRelation : String → List String) (clusterId : String) : List String :=
  sortedSet ((groupOf ExactDuplicateRelation.duplicateClusterId clusterId relations).flatMap
    fun relation => evidenceRefsByRelation relation.relationId)

/-- The edges of one cluster. -/
def clusterEdges (relations : List ExactDuplicateRelation)
    (evidenceRefsByRelation : String → List String) (cluster : DuplicateCluster) :
    List EdgeRecord :=
  (cluster.memberIds.filter fun member => member ≠ cluster.representativeId).map
    (starEdge c cluster (clusterEvidence relations evidenceRefsByRelation cluster.clusterId))

/-- `build_duplicate_edges`. -/
def buildDuplicateEdges (relations : List ExactDuplicateRelation)
    (evidenceRefsByRelation : String → List String) : List EdgeRecord :=
  sortedBy EdgeRecord.edgeId (Table.ofRows EdgeRecord.edgeId
    ((clusterRelations relations).flatMap (clusterEdges c relations evidenceRefsByRelation))).rows

/-- Every edge is a ray of the star of a cluster. -/
theorem mem_duplicate_edges {relations : List ExactDuplicateRelation}
    {evidenceRefsByRelation : String → List String} {edge : EdgeRecord}
    (h : edge ∈ buildDuplicateEdges c relations evidenceRefsByRelation) :
    ∃ cluster ∈ clusterRelations relations, ∃ evidenceRefs member,
      edge = starEdge c cluster evidenceRefs member := by
  rw [buildDuplicateEdges, mem_sortedBy] at h
  obtain ⟨cluster, hcluster, hedge⟩ := List.mem_flatMap.1 (Table.mem_of_mem_ofRows h)
  obtain ⟨member, -, rfl⟩ := List.mem_map.1 hedge
  exact ⟨cluster, hcluster, _, member, rfl⟩

/-- A cluster carries the hash of one of its relations, which is never empty. -/
theorem clusterHash_nonempty {relations : List ExactDuplicateRelation} {cluster : DuplicateCluster}
    (h : cluster ∈ clusterRelations relations) : cluster.contentHash ≠ "" := by
  obtain ⟨clusterId, hid, rfl⟩ := List.mem_map.1 h
  obtain ⟨relation, hrelation, hcluster⟩ := List.mem_map.1 (mem_sortedSet.1 hid)
  have hown : relation ∈ groupOf ExactDuplicateRelation.duplicateClusterId clusterId relations :=
    mem_groupOf.2 ⟨hrelation, hcluster⟩
  have hhash : (clusterOf relations clusterId).contentHash =
      ((groupOf ExactDuplicateRelation.duplicateClusterId clusterId relations).getLast?.map
        ExactDuplicateRelation.contentHash).getD "" := rfl
  rw [hhash]
  cases hlast : (groupOf ExactDuplicateRelation.duplicateClusterId clusterId relations).getLast? with
  | none =>
      rw [List.getLast?_eq_none_iff.1 hlast] at hown
      cases hown
  | some last => exact last.contentHash_nonempty

end ConstellationTopology
