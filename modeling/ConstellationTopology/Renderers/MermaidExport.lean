import ConstellationTopology.Io.WritePlan
import ConstellationTopology.Library.Lines
import ConstellationTopology.Publication.Plan

set_option autoImplicit false

/-! # The Mermaid projection

`renderers/mermaid_export.py`: the repositories and the edges of a topology as a flowchart. Ids are
rewritten character by character to the alphabet of node ids, names and roles are spliced into a
quoted label as they are. What comes out shows the topology faithfully exactly when the ids keep
apart what they lose and the labels stay inside their quotes (`mermaid_faithful_iff`). -/

namespace ConstellationTopology

/-! ## Node ids -/

/-- `[A-Za-z0-9_]`. -/
def wordChar (ch : Char) : Bool := ch.isAlphanum || ch = '_'

/-- What `_safe` makes of one character. -/
def safeChar (ch : Char) : Char := if wordChar ch then ch else '_'

/-- `_safe`. -/
def safe (value : String) : String := String.ofList (value.toList.map safeChar)

/-- The two ids have the same letters and digits at the same places, and some other character, not
    necessarily the same, at each of the others. -/
def Confusable (a b : String) : Prop :=
  List.Forall₂ (fun x y : Char => x = y ∨ (x.isAlphanum = false ∧ y.isAlphanum = false))
    a.toList b.toList

theorem wordChar_safeChar (ch : Char) : wordChar (safeChar ch) = true := by
  unfold safeChar
  split
  · assumption
  · decide

/-- Rewriting keeps letters and digits and makes every other character an underscore. -/
theorem safeChar_eq_iff (x y : Char) :
    safeChar x = safeChar y ↔ x = y ∨ (x.isAlphanum = false ∧ y.isAlphanum = false) := by
  have hword : ∀ ch : Char, safeChar ch = if ch.isAlphanum then ch else '_' := by
    intro ch
    unfold safeChar wordChar
    by_cases hch : ch = '_'
    · subst hch
      rfl
    · simp [hch]
  have hunderscore : ('_' : Char).isAlphanum = false := by decide
  rw [hword, hword]
  by_cases hx : x.isAlphanum <;> by_cases hy : y.isAlphanum
  · simp [hx, hy]
  · have hne : x ≠ '_' := fun heq => by simp [heq, hunderscore] at hx
    have hxy : x ≠ y := fun heq => hy (heq ▸ hx)
    simp [hx, hy, hne, hxy]
  · have hne : '_' ≠ y := fun heq => by simp [← heq, hunderscore] at hy
    have hxy : x ≠ y := fun heq => hx (heq ▸ hy)
    simp [hx, hy, hne, hxy]
  · simp [hx, hy]

/-- Exactly the confusable ids share a node id. -/
theorem safe_eq_iff (a b : String) : safe a = safe b ↔ Confusable a b := by
  calc safe a = safe b ↔ a.toList.map safeChar = b.toList.map safeChar :=
        ⟨String.ofList_injective, congrArg String.ofList⟩
    _ ↔ List.Forall₂ (fun x y => safeChar x = safeChar y) a.toList b.toList := by
        rw [← List.forall₂_eq_eq_eq, List.forall₂_map_left_iff, List.forall₂_map_right_iff]
    _ ↔ Confusable a b := by
        unfold Confusable
        simp only [safeChar_eq_iff]

theorem mem_safe {value : String} {ch : Char} (h : ch ∈ (safe value).toList) :
    wordChar ch = true := by
  rw [safe, String.toList_ofList, List.mem_map] at h
  obtain ⟨x, -, rfl⟩ := h
  exact wordChar_safeChar x

theorem safe_eq_empty_iff (value : String) : safe value = "" ↔ value = "" := by
  rw [safe, String.ofList_eq_empty_iff, List.map_eq_nil_iff, String.toList_eq_nil_iff]

/-! ## The diagram -/

/-- The text of a node between the quotes. -/
def nodeLabel (repository : RepositoryRecord) : String :=
  repository.name ++ "\\n[" ++ repository.primaryRole ++ "]"

/-- The line of a repository. -/
def nodeLine (repository : RepositoryRecord) : String :=
  "  " ++ safe repository.repositoryId ++ "[\"" ++ nodeLabel repository ++ "\"]"

/-- The line of an edge. -/
def edgeLine (edge : EdgeRecord) : String :=
  "  " ++ safe edge.sourceId ++ " -->|" ++ edge.edgeType.value ++ "| " ++ safe edge.targetId

/-- `lines`. -/
def mermaidLines (state : TopologyState) : List String :=
  "graph TD" :: (state.repositoryRecords.map nodeLine ++ state.edgeRecords.map edgeLine)

/-- The text of the diagram. -/
def mermaidContent (state : TopologyState) : String :=
  String.intercalate "\n" (mermaidLines state) ++ "\n"

/-- `render_mermaid_artifact`. -/
def renderMermaidArtifact (c : Codec) (materialized : MaterializedTopology) :
    RenderedArtifact c where
  logicalId := "topology-mermaid"
  destinationPath := "topology.mmd"
  artifactKind := .diagram
  mediaType := "text/vnd.mermaid"
  content := mermaidContent materialized.state
  contentHash := c.artifactHash (mermaidContent materialized.state).toUTF8
  semanticHash := some materialized.packet.semanticHash
  sourceRefs := [materialized.packet.packetId]
  contentHash_matches := rfl
  destination_normalized := ⟨"topology.mmd", normalizeSourcePath_name (by simp) (by simp) (by simp)
    (by simp) (by simp) (by simp)⟩

/-! ## What a faithful diagram is -/

/-- The lines of a text, the last of them what follows the last line feed. -/
def textLines (text : String) : List String := (text.toList.splitOn '\n').map String.ofList

/-- A word of `[A-Za-z0-9_]`. -/
def IsNodeId (text : String) : Prop := text ≠ "" ∧ ∀ ch ∈ text.toList, wordChar ch = true

/-- A text that stays in one line and between the quotes around it. -/
def Quotable (text : String) : Prop := '"' ∉ text.toList ∧ '\n' ∉ text.toList

/-- A node with its quoted label. -/
def IsNodeLine (nodeId line : String) : Prop :=
  IsNodeId nodeId ∧ ∃ label, Quotable label ∧ line = "  " ++ nodeId ++ "[\"" ++ label ++ "\"]"

/-- An arrow with the type of the edge. -/
def IsEdgeLine (sourceNode : String) (edgeType : EdgeType) (targetNode line : String) : Prop :=
  IsNodeId sourceNode ∧ IsNodeId targetNode ∧
    line = "  " ++ sourceNode ++ " -->|" ++ edgeType.value ++ "| " ++ targetNode

/-- The ids that a diagram shows. -/
def renderedIds (state : TopologyState) : List String :=
  state.repositoryRecords.map RepositoryRecord.repositoryId
    ++ state.edgeRecords.flatMap fun edge => [edge.sourceId, edge.targetId]

/-- **Faithful.** Different ids are different nodes; under the header each repository has one node
    line and each edge one line between the nodes of its own endpoints, and nothing else is there. -/
structure FaithfulDiagram (state : TopologyState) (text : String) : Prop where
  distinct : ∀ a ∈ renderedIds state, ∀ b ∈ renderedIds state, safe a = safe b → a = b
  lines : ∃ nodes edges, textLines text = "graph TD" :: (nodes ++ edges) ++ [""] ∧
    List.Forall₂ (fun repository line => IsNodeLine (safe repository.repositoryId) line)
      state.repositoryRecords nodes ∧
    List.Forall₂ (fun edge line => IsEdgeLine (safe edge.sourceId) edge.edgeType
      (safe edge.targetId) line) state.edgeRecords edges

/-- What the renderer relies on: no two of the ids are confusable, none is empty, and names and
    roles have neither a quote nor a line feed. -/
structure PlainTopology (state : TopologyState) : Prop where
  apart : ∀ a ∈ renderedIds state, ∀ b ∈ renderedIds state, Confusable a b → a = b
  named : ∀ a ∈ renderedIds state, a ≠ ""
  labelled : ∀ repository ∈ state.repositoryRecords,
    Quotable repository.name ∧ Quotable repository.primaryRole

/-! ## Lines of the diagram -/

theorem isNodeId_safe_iff (value : String) : IsNodeId (safe value) ↔ value ≠ "" := by
  constructor
  · exact fun h heq => h.1 ((safe_eq_empty_iff value).2 heq)
  · exact fun h => ⟨fun heq => h ((safe_eq_empty_iff value).1 heq), fun _ hch => mem_safe hch⟩

theorem quotable_nodeLabel_iff (repository : RepositoryRecord) :
    Quotable (nodeLabel repository) ↔
      Quotable repository.name ∧ Quotable repository.primaryRole := by
  simp [Quotable, nodeLabel]
  tauto

/-- The label of a node line is what stands between its brackets. -/
theorem isNodeLine_nodeLine_iff (repository : RepositoryRecord) :
    IsNodeLine (safe repository.repositoryId) (nodeLine repository) ↔
      repository.repositoryId ≠ "" ∧
        Quotable repository.name ∧ Quotable repository.primaryRole := by
  unfold IsNodeLine
  rw [isNodeId_safe_iff, ← quotable_nodeLabel_iff]
  refine and_congr_right fun _ => ?_
  constructor
  · rintro ⟨label, hlabel, heq⟩
    have hsame : nodeLabel repository = label :=
      append_left_cancel (append_right_cancel heq)
    rwa [hsame]
  · exact fun h => ⟨_, h, rfl⟩

theorem isEdgeLine_edgeLine_iff (edge : EdgeRecord) :
    IsEdgeLine (safe edge.sourceId) edge.edgeType (safe edge.targetId) (edgeLine edge) ↔
      edge.sourceId ≠ "" ∧ edge.targetId ≠ "" := by
  simp [IsEdgeLine, isNodeId_safe_iff, edgeLine]

theorem newline_notMem_safe (value : String) : '\n' ∉ (safe value).toList := by
  intro h
  have hword := mem_safe h
  revert hword
  decide

theorem newline_notMem_nodeLine {repository : RepositoryRecord}
    (h : Quotable (nodeLabel repository)) : '\n' ∉ (nodeLine repository).toList := by
  simp [nodeLine, h.2, newline_notMem_safe]

theorem newline_notMem_edgeLine (edge : EdgeRecord) : '\n' ∉ (edgeLine edge).toList := by
  have hvalue : ∀ edgeType : EdgeType, '\n' ∉ edgeType.value.toList := by
    intro edgeType
    cases edgeType <;> decide
  simp [edgeLine, newline_notMem_safe, hvalue]

/-! ## The text and its lines -/

theorem mermaidContent_toList (state : TopologyState) :
    (mermaidContent state).toList =
      ['\n'].intercalate ((mermaidLines state).map String.toList ++ [[]]) := by
  rw [intercalate_concat_nil (by simp [mermaidLines]), mermaidContent, String.toList_append,
    String.toList_intercalate]
  rfl

/-- Without a line feed inside a line, the lines of the text are those that were joined. -/
theorem textLines_mermaidContent {state : TopologyState}
    (h : ∀ line ∈ mermaidLines state, '\n' ∉ line.toList) :
    textLines (mermaidContent state) = mermaidLines state ++ [""] := by
  have hpieces : ∀ piece ∈ (mermaidLines state).map String.toList ++ [[]], '\n' ∉ piece := by
    intro piece hpiece
    rcases List.mem_append.1 hpiece with hline | hlast
    · obtain ⟨line, hmem, rfl⟩ := List.mem_map.1 hline
      exact h line hmem
    · simp [List.mem_singleton.1 hlast]
  rw [textLines, mermaidContent_toList, List.splitOn_intercalate _ hpieces (by simp)]
  simp

/-- A text of as many lines as were joined has no line feed inside one. -/
theorem newline_notMem_of_length {state : TopologyState}
    (h : (textLines (mermaidContent state)).length = (mermaidLines state).length + 1) :
    ∀ line ∈ mermaidLines state, '\n' ∉ line.toList := by
  rw [textLines, mermaidContent_toList, List.length_map] at h
  have hpieces := notMem_of_length_splitOn (by simp) (h.trans (by simp))
  intro line hline
  exact hpieces _ (List.mem_append_left _ (List.mem_map_of_mem hline))

/-- The lines of a faithful diagram are the renderer's own: there is room for no other. -/
theorem mermaidLines_of_lines {state : TopologyState} {nodes edges : List String}
    (hlines : textLines (mermaidContent state) = "graph TD" :: (nodes ++ edges) ++ [""])
    (hnodes : nodes.length = state.repositoryRecords.length)
    (hedges : edges.length = state.edgeRecords.length) :
    nodes = state.repositoryRecords.map nodeLine ∧ edges = state.edgeRecords.map edgeLine := by
  have hlength : (textLines (mermaidContent state)).length = (mermaidLines state).length + 1 := by
    rw [hlines]
    simp [mermaidLines, hnodes, hedges, Nat.add_assoc]
  rw [textLines_mermaidContent (newline_notMem_of_length hlength)] at hlines
  have hjoined : state.repositoryRecords.map nodeLine ++ state.edgeRecords.map edgeLine =
      nodes ++ edges := List.cons.inj (List.append_cancel_right hlines) |>.2
  have hsplit := List.append_inj hjoined (by simp [hnodes])
  exact ⟨hsplit.1.symm, hsplit.2.symm⟩

/-! ## Faithfulness -/

theorem repositoryId_mem_renderedIds {state : TopologyState} {repository : RepositoryRecord}
    (h : repository ∈ state.repositoryRecords) : repository.repositoryId ∈ renderedIds state :=
  List.mem_append_left _ (List.mem_map_of_mem h)

theorem endpoints_mem_renderedIds {state : TopologyState} {edge : EdgeRecord}
    (h : edge ∈ state.edgeRecords) :
    edge.sourceId ∈ renderedIds state ∧ edge.targetId ∈ renderedIds state := by
  constructor <;> exact List.mem_append_right _ (List.mem_flatMap.2 ⟨edge, h, by simp⟩)

theorem faithful_of_plain {state : TopologyState} (h : PlainTopology state) :
    FaithfulDiagram state (mermaidContent state) := by
  have hnewline : ∀ line ∈ mermaidLines state, '\n' ∉ line.toList := by
    intro line hline
    rcases List.mem_cons.1 hline with rfl | hline
    · decide
    · rcases List.mem_append.1 hline with hnode | hedge
      · obtain ⟨repository, hmem, rfl⟩ := List.mem_map.1 hnode
        exact newline_notMem_nodeLine ((quotable_nodeLabel_iff _).2 (h.labelled _ hmem))
      · obtain ⟨edge, -, rfl⟩ := List.mem_map.1 hedge
        exact newline_notMem_edgeLine edge
  refine ⟨?_, _, _, textLines_mermaidContent hnewline, ?_, ?_⟩
  · intro a ha b hb heq
    exact h.apart a ha b hb ((safe_eq_iff a b).1 heq)
  · rw [List.forall₂_map_right_iff, List.forall₂_same]
    intro repository hmem
    exact (isNodeLine_nodeLine_iff repository).2
      ⟨h.named _ (repositoryId_mem_renderedIds hmem), h.labelled _ hmem⟩
  · rw [List.forall₂_map_right_iff, List.forall₂_same]
    intro edge hmem
    have hends := endpoints_mem_renderedIds hmem
    exact (isEdgeLine_edgeLine_iff edge).2 ⟨h.named _ hends.1, h.named _ hends.2⟩

theorem plain_of_faithful {state : TopologyState}
    (h : FaithfulDiagram state (mermaidContent state)) : PlainTopology state := by
  obtain ⟨nodes, edges, hlines, hnodes, hedges⟩ := h.lines
  obtain ⟨rfl, rfl⟩ := mermaidLines_of_lines hlines hnodes.length_eq.symm hedges.length_eq.symm
  rw [List.forall₂_map_right_iff, List.forall₂_same] at hnodes hedges
  have hnode := fun repository hmem =>
    (isNodeLine_nodeLine_iff repository).1 (hnodes repository hmem)
  have hedge := fun edge hmem => (isEdgeLine_edgeLine_iff edge).1 (hedges edge hmem)
  refine ⟨?_, ?_, fun repository hmem => (hnode repository hmem).2⟩
  · intro a ha b hb hconfusable
    exact h.distinct a ha b hb ((safe_eq_iff a b).2 hconfusable)
  · intro a ha
    rcases List.mem_append.1 ha with hrepository | hend
    · obtain ⟨repository, hmem, rfl⟩ := List.mem_map.1 hrepository
      exact (hnode repository hmem).1
    · obtain ⟨edge, hmem, hmem'⟩ := List.mem_flatMap.1 hend
      rcases List.mem_pair.1 hmem' with rfl | rfl
      · exact (hedge edge hmem).1
      · exact (hedge edge hmem).2

/-- **Faithful iff plain.** The diagram of a topology is faithful exactly when no two of its ids are
    confusable, none is empty, and no name or role has a quote or a line feed. -/
theorem mermaid_faithful_iff (c : Codec) (materialized : MaterializedTopology) :
    FaithfulDiagram materialized.state (renderMermaidArtifact c materialized).content ↔
      PlainTopology materialized.state :=
  ⟨plain_of_faithful, faithful_of_plain⟩

/-! ## Two ids in one node -/

/-- Two repositories whose ids differ in punctuation only. -/
def punctuatedState : TopologyState where
  repositoryRecords :=
    [{ repositoryId := "repo:a-b", name := "a-b", sourceRevision := "git:1", packetRef := "packet:1" },
      { repositoryId := "repo:a.b", name := "a.b", sourceRevision := "git:2",
        packetRef := "packet:2" }]

/-- They share one node. -/
theorem diagram_confused :
    ¬ ∀ state : TopologyState, FaithfulDiagram state (mermaidContent state) := by
  intro h
  have heq := (h punctuatedState).distinct "repo:a-b" (by decide) "repo:a.b" (by decide) (by decide)
  exact absurd heq (by decide)

end ConstellationTopology
