import ConstellationTopology.Packets.CorpusEvidence
import ConstellationTopology.Topology.GraphBuilder

set_option autoImplicit false

/-! # Corpus and root scope

`topology/corpus_model.py`: the corpora and roots above the repositories, and what contains what. -/

namespace ConstellationTopology

/-- The record of a root. -/
def rootRecord (root : CorpusRootRef) : RootRecord where
  rootId := root.rootId
  identityClass := root.identityClass
  sourceRevision := root.sourceRevision
  repositoryModelPacketId := root.repositoryModelPacket.packetId
  repositoryId := root.repositoryId
  confidence := rootConfidence root.identityClass

/-- The record of a corpus. -/
def corpusRecord (packet : CorpusIntelligencePacket) : CorpusRecord where
  corpusId := packet.corpus.corpusId
  corpusSourceSnapshotId := packet.corpus.corpusSourceSnapshotId
  corpusAnalysisId := packet.corpus.corpusAnalysisId
  rootIds := sortedBy id (packet.corpus.rootRefs.map CorpusRootRef.rootId)
  coverageRef := some packet.packetId
  confidence := corpusConfidence

/-- `compile_corpus_scope`. -/
def compileCorpusScope (packets : List CorpusIntelligencePacket) :
    List CorpusRecord × List RootRecord :=
  (sortedBy CorpusRecord.corpusId (packets.map corpusRecord),
    sortedBy RootRecord.rootId (Table.firstRows RootRecord.rootId
      (packets.flatMap fun packet => packet.corpus.rootRefs.map rootRecord)).rows)

variable (c : Codec)

/-- `_containment_edge`. -/
def containmentEdge (sourceId targetId : String) (confidence : ConfidenceAssessment)
    (evidenceRefs : List String) : EdgeRecord where
  edgeId := stableEdgeId c sourceId targetId .contains []
  sourceId := sourceId
  targetId := targetId
  edgeType := .contains
  direction := .outbound
  properties := []
  evidenceRefs := evidenceRefs
  confidence := confidence

/-- The node of a corpus. -/
def corpusNode (corpus : CorpusRecord) : GraphRecord where
  recordType := .node
  label := "Corpus"
  entityId := corpus.corpusId
  properties := [("corpus_source_snapshot_id", .str corpus.corpusSourceSnapshotId),
    ("corpus_analysis_id", .str corpus.corpusAnalysisId),
    ("root_ids", Json.strings corpus.rootIds),
    ("coverage_ref", (corpus.coverageRef.map .str).getD .null)]
  evidenceRefs := corpus.evidenceRefs
  confidence := corpus.confidence

/-- The node of a root. -/
def rootNode (root : RootRecord) : GraphRecord where
  recordType := .node
  label := "Root"
  entityId := root.rootId
  properties := [("identity_class", .str root.identityClass.value),
    ("source_revision", .str root.sourceRevision),
    ("repository_model_packet_id", .str root.repositoryModelPacketId),
    ("repository_id", (root.repositoryId.map .str).getD .null)]
  evidenceRefs := root.evidenceRefs
  confidence := root.confidence

/-- The roots a corpus contains. -/
def corpusEdges (corpus : CorpusRecord) : List EdgeRecord :=
  corpus.rootIds.map fun rootId =>
    containmentEdge c corpus.corpusId rootId corpus.confidence corpus.evidenceRefs

/-- The repository a root contains, if it observed one. -/
def rootEdges (root : RootRecord) : List EdgeRecord :=
  root.repositoryId.toList.map fun repositoryId =>
    containmentEdge c root.rootId repositoryId root.confidence root.evidenceRefs

/-- `corpus_scope_graph`. -/
def corpusScopeGraph (corpora : List CorpusRecord) (roots : List RootRecord) :
    List GraphRecord × List EdgeRecord :=
  (sortedBy GraphRecord.entityId (corpora.map corpusNode ++ roots.map rootNode),
    sortedBy EdgeRecord.edgeId (Table.ofRows EdgeRecord.edgeId
      (corpora.flatMap (corpusEdges c) ++ roots.flatMap (rootEdges c))).rows)

/-- Every edge of the scope runs from a corpus or a root. -/
theorem mem_corpusScope_edges {corpora : List CorpusRecord} {roots : List RootRecord}
    {edge : EdgeRecord} (h : edge ∈ (corpusScopeGraph c corpora roots).2) :
    ∃ sourceId ∈ corpora.map CorpusRecord.corpusId ++ roots.map RootRecord.rootId,
      ∃ targetId confidence evidenceRefs,
        edge = containmentEdge c sourceId targetId confidence evidenceRefs := by
  rw [corpusScopeGraph, mem_sortedBy] at h
  rcases List.mem_append.1 (Table.mem_of_mem_ofRows h) with h | h
  · obtain ⟨corpus, hcorpus, hedge⟩ := List.mem_flatMap.1 h
    obtain ⟨rootId, -, rfl⟩ := List.mem_map.1 hedge
    exact ⟨_, List.mem_append_left _ (List.mem_map_of_mem hcorpus), rootId, _, _, rfl⟩
  · obtain ⟨root, hroot, hedge⟩ := List.mem_flatMap.1 h
    obtain ⟨repositoryId, -, rfl⟩ := List.mem_map.1 hedge
    exact ⟨_, List.mem_append_right _ (List.mem_map_of_mem hroot), repositoryId, _, _, rfl⟩

end ConstellationTopology
