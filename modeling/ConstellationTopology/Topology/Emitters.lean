import ConstellationTopology.Compiler
import ConstellationTopology.Topology.GraphMirror

set_option autoImplicit false

/-! # The emitters of an edge

An edge of a compiled state is a declared relationship, an edge of one of the two projectors, an
exact duplicate, an edge of the corpus scope, or mirrors a record by one of the six rules of the
graph builder (`compiled_emitted`). A node is stated by a projector, by the corpus scope or by a
record (`compiled_stated`). -/

namespace ConstellationTopology

/-- Who emitted an edge of the compiled graph. -/
inductive Emitted (c : Codec) (stages : CompiledStages) : EdgeRecord → Prop
  | declared {edge : EdgeRecord} (h : edge ∈ stages.normalized.relationships) :
      Emitted c stages edge
  | claim {edge : EdgeRecord} (h : edge ∈ stages.projection.edges) : Emitted c stages edge
  | work {edge : EdgeRecord} (h : edge ∈ stages.work.edges) : Emitted c stages edge
  | duplicate {edge : EdgeRecord} (h : edge ∈ stages.duplicateEdges) : Emitted c stages edge
  | corpus {edge : EdgeRecord} (h : edge ∈ stages.corpusGraph.2) : Emitted c stages edge
  | upstream {repository : RepositoryRecord} {targetId : String}
      (hrepository : repository ∈ stages.repositories)
      (htarget : targetId ∈ repository.upstreamRepositoryIds) :
      Emitted c stages (builtEdge c repository.repositoryId targetId .dependsOn
        repository.evidenceRefs repository.confidence)
  | owner {repository : RepositoryRecord} {ownerId : String}
      (hrepository : repository ∈ stages.repositories) (howner : ownerId ∈ repository.ownerIds) :
      Emitted c stages (builtEdge c repository.repositoryId ownerId .ownedBy
        repository.evidenceRefs repository.confidence)
  | containment {artifact : ArtifactRecord} (hartifact : artifact ∈ stages.normalized.artifacts) :
      Emitted c stages (builtEdge c artifact.repositoryId artifact.artifactId .contains
        artifact.evidenceRefs artifact.confidence)
  | listed {artifact : ArtifactRecord} {capabilityId : String}
      (hartifact : artifact ∈ stages.normalized.artifacts)
      (hcapability : capabilityId ∈ artifact.capabilities) :
      Emitted c stages (builtEdge c artifact.artifactId capabilityId .implements
        artifact.evidenceRefs artifact.confidence)
  | implementer {capability : CapabilityRecord} {implementerId : String}
      (hcapability : capability ∈ stages.capabilities)
      (himplementer : implementerId ∈ capability.implementedBy) :
      Emitted c stages (builtEdge c implementerId capability.capabilityId .implements
        capability.evidenceRefs capability.confidence)
  | exposer {capability : CapabilityRecord} {exposerId : String}
      (hcapability : capability ∈ stages.capabilities)
      (hexposer : exposerId ∈ capability.exposedBy) :
      Emitted c stages (builtEdge c exposerId capability.capabilityId .exposes
        capability.evidenceRefs capability.confidence)

/-- Who stated a node of the compiled graph. -/
inductive StatedNode (stages : CompiledStages) : GraphRecord → Prop
  | claim {node : GraphRecord} (h : node ∈ stages.projection.nodes) : StatedNode stages node
  | work {node : GraphRecord} (h : node ∈ stages.work.nodes) : StatedNode stages node
  | corpus {node : GraphRecord} (h : node ∈ stages.corpusGraph.1) : StatedNode stages node
  | repository {repository : RepositoryRecord} {node : GraphRecord}
      (hrepository : repository ∈ stages.repositories) (h : node ∈ repositoryNodes repository) :
      StatedNode stages node
  | artifact {artifact : ArtifactRecord} (h : artifact ∈ stages.normalized.artifacts) :
      StatedNode stages (artifactNode artifact)
  | capability {capability : CapabilityRecord} (h : capability ∈ stages.capabilities) :
      StatedNode stages (capabilityNode capability)

theorem statedNode_iff {stages : CompiledStages} {node : GraphRecord} :
    StatedNode stages node ↔
      node ∈ statedNodes stages.repositories stages.normalized.artifacts stages.capabilities
        (stages.projection.nodes ++ stages.work.nodes ++ stages.corpusGraph.1) := by
  simp only [statedNodes, List.mem_append, List.mem_flatMap, List.mem_map]
  constructor
  · intro hnode
    cases hnode with
    | claim h => exact .inl (.inl (.inl (.inl (.inl h))))
    | work h => exact .inl (.inl (.inl (.inl (.inr h))))
    | corpus h => exact .inl (.inl (.inl (.inr h)))
    | repository hrepository h => exact .inl (.inl (.inr ⟨_, hrepository, h⟩))
    | artifact h => exact .inl (.inr ⟨_, h, rfl⟩)
    | capability h => exact .inr ⟨_, h, rfl⟩
  · rintro (((((h | h) | h) | ⟨repository, hrepository, h⟩) | ⟨artifact, h, rfl⟩) |
      ⟨capability, h, rfl⟩)
    · exact .claim h
    · exact .work h
    · exact .corpus h
    · exact .repository hrepository h
    · exact .artifact h
    · exact .capability h

section Compiled

variable {c : Codec} {text : PythonText} {inputs : CompileInputs} {stages : CompiledStages}
  {derived : DerivedDomains} {edge : EdgeRecord}

/-- The projectors read the reconciled claims, and the state carries them stamped. -/
theorem compiled_projection (h : compileStages c text inputs = .ok stages) :
    stages.projection = projectClaims c text.repr stages.reconciliation.claims ∧
      stages.work = projectWorkRelations c stages.reconciliation.claims stages.normalized.artifacts ∧
        ∃ entities, stages.claims = applyProjection entities stages.reconciliation.claims := by
  obtain ⟨normalized, -, signals, -, rfl⟩ := (compileStages_eq_ok c text).1 h
  exact ⟨rfl, rfl, _, rfl⟩

/-- The duplicate edges are those of the corpus packets, and the scope edges those of the scope. -/
theorem compiled_corpus (h : compileStages c text inputs = .ok stages) :
    stages.duplicateEdges = buildDuplicateEdges c (compiledDuplicateRelations inputs.corpusPackets)
        (duplicateEvidenceIndex c inputs.corpusPackets) ∧
      stages.corpusGraph = corpusScopeGraph c stages.corpusRecords stages.rootRecords := by
  obtain ⟨normalized, -, signals, -, rfl⟩ := (compileStages_eq_ok c text).1 h
  exact ⟨rfl, rfl⟩

/-- The graph is built of what the stages hand on. -/
theorem compiled_graph (h : compileStages c text inputs = .ok stages) :
    stages.graph = buildTopologyGraph c stages.repositories stages.normalized.artifacts
      stages.capabilities (stages.normalized.relationships ++ stages.projection.edges
        ++ stages.work.edges ++ stages.duplicateEdges ++ stages.corpusGraph.2)
      (stages.projection.nodes ++ stages.work.nodes ++ stages.corpusGraph.1) := by
  obtain ⟨normalized, -, signals, -, rfl⟩ := (compileStages_eq_ok c text).1 h
  rfl

theorem compiled_capabilityConflicts (h : compileStages c text inputs = .ok stages) :
    stages.capabilityConflicts = (AggregateCapabilities.run c stages.builtCapabilities).2 := by
  obtain ⟨normalized, -, signals, -, rfl⟩ := (compileStages_eq_ok c text).1 h
  rfl

theorem compiled_capabilities (h : compileStages c text inputs = .ok stages) :
    stages.capabilities = (AggregateCapabilities.run c stages.builtCapabilities).1 := by
  obtain ⟨normalized, -, signals, -, rfl⟩ := (compileStages_eq_ok c text).1 h
  rfl

/-- **Every edge has an emitter.** -/
theorem compiled_emitted (h : compileStages c text inputs = .ok stages)
    (hedge : edge ∈ (stages.state derived).edgeRecords) : Emitted c stages edge := by
  rw [CompiledStages.state_edgeRecords, mem_sortedBy, compiled_graph h] at hedge
  have hgraph := (mem_edges_iff c).1 hedge
  have hstated := List.mem_of_mem_filter (List.mem_of_getLast? hgraph)
  simp only [statedEdges, List.mem_append, List.mem_flatMap] at hstated
  rcases hstated with ((hdeclared | hrepository) | hartifact) | hcapability
  · rcases hdeclared with (((hdeclared | hclaim) | hwork) | hduplicate) | hcorpus
    · exact .declared hdeclared
    · exact .claim hclaim
    · exact .work hwork
    · exact .duplicate hduplicate
    · exact .corpus hcorpus
  · obtain ⟨repository, hrepository, hedge⟩ := hrepository
    rcases List.mem_append.1 hedge with hedge | hedge
    · obtain ⟨targetId, htarget, rfl⟩ := List.mem_map.1 hedge
      exact .upstream hrepository htarget
    · obtain ⟨ownerId, howner, rfl⟩ := List.mem_map.1 hedge
      exact .owner hrepository howner
  · obtain ⟨artifact, hartifact, hedge⟩ := hartifact
    rcases List.mem_cons.1 hedge with rfl | hedge
    · exact .containment hartifact
    · obtain ⟨capabilityId, hcapability, rfl⟩ := List.mem_map.1 hedge
      exact .listed hartifact hcapability
  · obtain ⟨capability, hcapability, hedge⟩ := hcapability
    rcases List.mem_append.1 hedge with hedge | hedge
    · obtain ⟨implementerId, himplementer, rfl⟩ := List.mem_map.1 hedge
      exact .implementer hcapability himplementer
    · obtain ⟨exposerId, hexposer, rfl⟩ := List.mem_map.1 hedge
      exact .exposer hcapability hexposer

/-- **Every node is stated.** -/
theorem compiled_stated (h : compileStages c text inputs = .ok stages) {node : GraphRecord}
    (hnode : node ∈ stages.graph.nodes) : StatedNode stages node := by
  rw [compiled_graph h] at hnode
  exact statedNode_iff.2 (Table.mem_of_mem_ofRows (mem_sortedBy.1 hnode))

/-- What is stated leaves a node of its id. -/
theorem exists_node_of_stated (h : compileStages c text inputs = .ok stages) {node : GraphRecord}
    (hnode : StatedNode stages node) :
    ∃ kept ∈ stages.graph.nodes, kept.entityId = node.entityId := by
  rw [compiled_graph h]
  exact List.mem_map.1 (mem_nodes_ids.2 (List.mem_map_of_mem (statedNode_iff.1 hnode)))

/-- A declared relationship comes from the payload of a packet. -/
theorem mem_normalized_relationships (h : compileStages c text inputs = .ok stages)
    (hedge : edge ∈ stages.normalized.relationships) :
    ∃ packet ∈ inputs.packets, ∃ payload ∈ packet.payload, edge ∈ payload.relationships := by
  obtain ⟨normalized, hnormalized, signals, -, rfl⟩ := (compileStages_eq_ok c text).1 h
  obtain ⟨-, evidence, -, rfl⟩ := normalizeModels_eq_ok.1 hnormalized
  obtain ⟨packet, hpacket, hedge⟩ := List.mem_flatMap.1 hedge
  exact ⟨packet, hpacket, mem_adaptedRecords.1 hedge⟩

end Compiled

end ConstellationTopology
