import ConstellationTopology.Stages.AggregateCapabilities
import ConstellationTopology.Topology.GraphBuilder
import ConstellationTopology.Validation.ReferenceClosure

set_option autoImplicit false

/-! # What derived records cite

A capability, a node or an edge may be stated by several records, and the compiler keeps the evidence
of one of them: of a capability that of its last declared record or of the first repository that
lists it, of a node or an edge that of the record stated last. `evidence_inherited_iff` says for
which fully evidenced inputs nothing is lost; a capability that only artifacts name is kept without
any evidence (`evidence_not_inherited`). -/

namespace ConstellationTopology

/-! ## Citations -/

/-- A record states an entity and cites evidence for it. -/
structure Citation where
  entity : String
  refs : List String

/-- Every produced record cites something, and all that is cited for its entity. -/
def Inherited (produced stated : List Citation) : Prop :=
  ∀ p ∈ produced, p.refs ≠ [] ∧ ∀ x ∈ stated, x.entity = p.entity → x.refs ⊆ p.refs

/-- What is stated last of an entity. -/
def lastCitation (stated : List Citation) (entity : String) : Option Citation :=
  (stated.filter fun x => x.entity = entity).getLast?

/-- What is stated last of an entity cites all that is cited for it. -/
def LastCitesAll (stated : List Citation) : Prop :=
  ∀ x ∈ stated, ∀ last ∈ lastCitation stated x.entity, x.refs ⊆ last.refs

section Citations

variable {stated produced : List Citation}

theorem lastCitation_mem {entity : String} {last : Citation}
    (h : lastCitation stated entity = some last) : last ∈ stated ∧ last.entity = entity := by
  simpa using List.mem_of_getLast? h

/-- When the last one stated is kept, all is inherited exactly when it cites all. -/
theorem inherited_iff_lastCitesAll
    (hproduced : ∀ p, p ∈ produced ↔ lastCitation stated p.entity = some p)
    (hcited : ∀ x ∈ stated, x.refs ≠ []) :
    Inherited produced stated ↔ LastCitesAll stated := by
  constructor
  · intro h x hx last hlast
    have hentity := (lastCitation_mem hlast).2
    have hkept : last ∈ produced := by rw [hproduced, hentity]; exact hlast
    exact (h last hkept).2 x hx hentity.symm
  · intro h p hp
    have hlast := (hproduced p).1 hp
    refine ⟨hcited p (lastCitation_mem hlast).1, fun x hx hentity => ?_⟩
    rw [← hentity] at hlast
    exact h x hx p hlast

/-- What is stated last cites all when each statement cites what was cited before it. -/
theorem lastCitesAll_of_pairwise
    (h : stated.Pairwise fun x y => x.entity = y.entity → x.refs ⊆ y.refs) :
    LastCitesAll stated := by
  intro x hx last hlast
  obtain ⟨before, hbefore⟩ := List.getLast?_eq_some_iff.1 hlast
  have hfound : x ∈ before ++ [last] := by
    rw [← hbefore]
    exact List.mem_filter.2 ⟨hx, decide_eq_true rfl⟩
  rcases List.mem_append.1 hfound with hx | hx
  · have hpairwise := h.filter fun y => decide (y.entity = x.entity)
    rw [hbefore, List.pairwise_append] at hpairwise
    exact hpairwise.2.2 x hx last List.mem_cons_self (lastCitation_mem hlast).2.symm
  · rw [List.mem_singleton.1 hx]
    exact List.Subset.refl _

/-- Rows kept by a dictionary, read as citations. -/
theorem mem_map_citation_iff {ρ : Type*} {rows kept : List ρ} {cite : ρ → Citation}
    (hkept : ∀ r, r ∈ kept ↔
      (rows.filter fun x => (cite x).entity = (cite r).entity).getLast? = some r)
    (p : Citation) :
    p ∈ kept.map cite ↔ lastCitation (rows.map cite) p.entity = some p := by
  have hlast : ∀ entity, lastCitation (rows.map cite) entity =
      ((rows.filter fun x => (cite x).entity = entity).getLast?).map cite := by
    intro entity
    rw [lastCitation, List.filter_map, List.getLast?_map]
    rfl
  rw [hlast, List.mem_map, Option.map_eq_some_iff]
  constructor
  · rintro ⟨r, hr, rfl⟩
    exact ⟨r, (hkept r).1 hr, rfl⟩
  · rintro ⟨r, hr, hcite⟩
    refine ⟨r, (hkept r).2 ?_, hcite⟩
    rw [hcite]
    exact hr

end Citations

/-! ## Who states what -/

section Inputs

variable (repositories : List RepositoryRecord) (artifacts : List ArtifactRecord)
  (declared : List CapabilityRecord)

/-- What a capability cites. -/
def capabilityCitation (capability : CapabilityRecord) : Citation :=
  ⟨capability.capabilityId, capability.evidenceRefs⟩

/-- What a node cites. -/
def nodeCitation (node : GraphRecord) : Citation := ⟨node.entityId, node.evidenceRefs⟩

/-- What an edge cites. -/
def edgeCitation (edge : EdgeRecord) : Citation := ⟨edge.edgeId, edge.evidenceRefs⟩

/-- A capability is stated by the records that declare it and by the repositories and artifacts that
    list it. -/
def capabilityCitations : List Citation :=
  declared.map capabilityCitation
    ++ repositories.flatMap (fun r => r.capabilityIds.map fun id => ⟨id, r.evidenceRefs⟩)
    ++ artifacts.flatMap fun a => a.capabilities.map fun id => ⟨id, a.evidenceRefs⟩

/-- The evidence that is kept of a capability: that of the last declared record, or else of the first
    repository that lists it, or else none. -/
def keptCapabilityEvidence (capabilityId : String) : List String :=
  match lastDeclared declared capabilityId, firstListing repositories capabilityId with
  | some last, _ => last.evidenceRefs
  | none, some first => first.evidenceRefs
  | none, none => []

/-- The record of a capability, read off the inputs. -/
def statedCapability (capabilityId : String) : Option CapabilityRecord :=
  (builtCapability repositories artifacts declared capabilityId).map fun built =>
    AggregateCapabilities.merged built [built]

/-- The records of all capabilities that some record states, in the order of their ids. -/
def statedCapabilities : List CapabilityRecord :=
  (sortedSet ((capabilityCitations repositories artifacts declared).map Citation.entity)).filterMap
    (statedCapability repositories artifacts declared)

/-- Every record that may be cited for cites some evidence. -/
structure FullyEvidenced (declaredEdges : List EdgeRecord) (externalNodes : List GraphRecord) :
    Prop where
  repositories : ∀ r ∈ repositories, r.evidenceRefs ≠ []
  artifacts : ∀ a ∈ artifacts, a.evidenceRefs ≠ []
  declared : ∀ d ∈ declared, d.evidenceRefs ≠ []
  edges : ∀ edge ∈ declaredEdges, edge.evidenceRefs ≠ []
  nodes : ∀ node ∈ externalNodes, node.evidenceRefs ≠ []

/-- The state of a compile of these records. -/
def compiledState (c : Codec) (declaredEdges : List EdgeRecord) (externalNodes : List GraphRecord) :
    TopologyState :=
  let capabilities := (compileCapabilities c repositories artifacts declared).1
  let graph := buildTopologyGraph c repositories artifacts capabilities declaredEdges externalNodes
  { repositoryRecords := repositories
    artifactRecords := artifacts
    capabilityRecords := capabilities
    edgeRecords := graph.edges
    graphRecords := graph.graphRecords }

/-- Every derived record inherits the evidence of every record that states it, and the check of the
    validator that canonical claims are backed finds none that is not. -/
structure EvidenceInherited (c : Codec) (declaredEdges : List EdgeRecord)
    (externalNodes : List GraphRecord) : Prop where
  capabilities : Inherited
    ((compileCapabilities c repositories artifacts declared).1.map capabilityCitation)
    (capabilityCitations repositories artifacts declared)
  nodes : Inherited
    ((buildTopologyGraph c repositories artifacts
      (compileCapabilities c repositories artifacts declared).1 declaredEdges
      externalNodes).nodes.map nodeCitation)
    ((statedNodes repositories artifacts (compileCapabilities c repositories artifacts declared).1
      externalNodes).map nodeCitation)
  edges : Inherited
    ((buildTopologyGraph c repositories artifacts
      (compileCapabilities c repositories artifacts declared).1 declaredEdges
      externalNodes).edges.map edgeCitation)
    ((statedEdges c repositories artifacts
      (compileCapabilities c repositories artifacts declared).1 declaredEdges).map edgeCitation)
  accepted : missingRequiredEvidence
    (compiledState repositories artifacts declared c declaredEdges externalNodes) = []

/-- The record whose evidence is kept cites all that is cited. -/
structure KeptCitesAll (c : Codec) (declaredEdges : List EdgeRecord)
    (externalNodes : List GraphRecord) : Prop where
  capabilities : ∀ x ∈ capabilityCitations repositories artifacts declared,
    x.refs ⊆ keptCapabilityEvidence repositories declared x.entity
  nodes : LastCitesAll ((statedNodes repositories artifacts
    (statedCapabilities repositories artifacts declared) externalNodes).map nodeCitation)
  edges : LastCitesAll ((statedEdges c repositories artifacts
    (statedCapabilities repositories artifacts declared) declaredEdges).map edgeCitation)

end Inputs

/-! ## The compiled capabilities -/

section Capabilities

variable {c : Codec} {repositories : List RepositoryRecord} {artifacts : List ArtifactRecord}
  {declared : List CapabilityRecord} {capabilityId : String}

theorem named_iff :
    capabilityId ∈ (capabilityCitations repositories artifacts declared).map Citation.entity ↔
      (builtCapability repositories artifacts declared capabilityId).isSome := by
  rw [builtCapability_isSome]
  simp [capabilityCitations, capabilityCitation]

/-- The two stages leave the records read off the inputs. -/
theorem compileCapabilities_eq :
    (compileCapabilities c repositories artifacts declared).1 =
      statedCapabilities repositories artifacts declared := by
  have hnodup := buildCapabilities_nodup repositories artifacts declared
  have hids : sortedSet ((buildCapabilities repositories artifacts declared).map
      CapabilityRecord.capabilityId) =
        sortedSet ((capabilityCitations repositories artifacts declared).map Citation.entity) := by
    refine sortedSet_congr fun id => ?_
    rw [named_iff, Option.isSome_iff_exists, List.mem_map]
    constructor
    · intro h
      obtain ⟨record, hrecord, rfl⟩ := h
      exact ⟨record, (mem_buildCapabilities _ _ _).1 hrecord⟩
    · intro h
      obtain ⟨record, hrecord⟩ := h
      have hid := builtCapability_id _ _ _ _ hrecord
      exact ⟨record, (mem_buildCapabilities _ _ _).2 (by rw [hid]; exact hrecord), hid⟩
  simp only [compileCapabilities, AggregateCapabilities.run, statedCapabilities]
  rw [hids]
  refine List.filterMap_congr fun id hid => ?_
  obtain ⟨built, hbuilt⟩ := Option.isSome_iff_exists.1 (named_iff.1 (mem_sortedSet.1 hid))
  have hbuiltId := builtCapability_id _ _ _ _ hbuilt
  have hmem : built ∈ buildCapabilities repositories artifacts declared :=
    (mem_buildCapabilities _ _ _).2 (by rw [hbuiltId]; exact hbuilt)
  have hgroup := groupOf_of_nodup hnodup hmem
  rw [hbuiltId] at hgroup
  rw [hgroup, statedCapability, hbuilt]
  rfl

/-- A built record has the evidence that is kept. -/
theorem built_evidenceRefs {built : CapabilityRecord}
    (hbuilt : builtCapability repositories artifacts declared capabilityId = some built) :
    built.evidenceRefs = keptCapabilityEvidence repositories declared capabilityId := by
  unfold keptCapabilityEvidence
  cases hbase : baseCapability repositories declared capabilityId with
  | some base =>
      rw [built_of_base _ _ _ _ hbuilt hbase]
      unfold baseCapability at hbase
      split
      · next last hlast =>
          rw [hlast] at hbase
          rw [← Option.some.inj hbase]
      · next first hlast hfirst =>
          rw [hlast, hfirst] at hbase
          rw [← Option.some.inj hbase]
          rfl
      · next hlast hfirst =>
          rw [hlast, hfirst] at hbase
          cases hbase
  | none =>
      obtain ⟨hlast, hfirst⟩ := Option.or_eq_none_iff.1 hbase
      rw [Option.map_eq_none_iff] at hfirst
      rw [hlast, hfirst]
      unfold builtCapability at hbuilt
      split at hbuilt
      · rw [← Option.some.inj hbuilt, hbase]
        rfl
      · rw [hbase] at hbuilt
        cases hbuilt

theorem mem_statedCapabilities {record : CapabilityRecord} :
    record ∈ statedCapabilities repositories artifacts declared ↔
      ∃ id built, builtCapability repositories artifacts declared id = some built ∧
        record = AggregateCapabilities.merged built [built] := by
  simp only [statedCapabilities, List.mem_filterMap, mem_sortedSet, named_iff, statedCapability,
    Option.map_eq_some_iff]
  constructor
  · intro h
    obtain ⟨id, -, built, hbuilt, rfl⟩ := h
    exact ⟨id, built, hbuilt, rfl⟩
  · intro h
    obtain ⟨id, built, hbuilt, rfl⟩ := h
    exact ⟨id, by rw [hbuilt]; rfl, built, hbuilt, rfl⟩

/-- What a compiled capability cites is what is kept of it. -/
theorem mem_merged_evidenceRefs {built : CapabilityRecord}
    (hbuilt : builtCapability repositories artifacts declared capabilityId = some built)
    (ref : String) :
    ref ∈ (AggregateCapabilities.merged built [built]).evidenceRefs ↔
      ref ∈ keptCapabilityEvidence repositories declared capabilityId := by
  rw [← built_evidenceRefs hbuilt]
  exact mem_union_singleton CapabilityRecord.evidenceRefs built ref

end Capabilities

/-! ## What is inherited -/

section Inheritance

variable {c : Codec} {repositories : List RepositoryRecord} {artifacts : List ArtifactRecord}
  {declared : List CapabilityRecord} {declaredEdges : List EdgeRecord}
  {externalNodes : List GraphRecord}

theorem capabilityCitations_nonempty
    (h : FullyEvidenced repositories artifacts declared declaredEdges externalNodes)
    {x : Citation} (hx : x ∈ capabilityCitations repositories artifacts declared) :
    x.refs ≠ [] := by
  simp only [capabilityCitations, List.mem_append, List.mem_map, List.mem_flatMap] at hx
  rcases hx with (⟨d, hd, rfl⟩ | ⟨r, hr, id, -, rfl⟩) | ⟨a, ha, id, -, rfl⟩
  · exact h.declared d hd
  · exact h.repositories r hr
  · exact h.artifacts a ha

/-- Capabilities inherit exactly when the kept evidence is all there is. -/
theorem capabilities_inherited_iff
    (h : FullyEvidenced repositories artifacts declared declaredEdges externalNodes) :
    Inherited ((compileCapabilities c repositories artifacts declared).1.map capabilityCitation)
        (capabilityCitations repositories artifacts declared) ↔
      ∀ x ∈ capabilityCitations repositories artifacts declared,
        x.refs ⊆ keptCapabilityEvidence repositories declared x.entity := by
  rw [compileCapabilities_eq]
  constructor
  · intro hinherited x hx
    obtain ⟨built, hbuilt⟩ := Option.isSome_iff_exists.1
      (named_iff.1 (List.mem_map_of_mem (f := Citation.entity) hx))
    have hkept := hinherited (capabilityCitation (AggregateCapabilities.merged built [built]))
      (List.mem_map_of_mem (mem_statedCapabilities.2 ⟨_, built, hbuilt, rfl⟩))
    have hsubset := hkept.2 x hx (builtCapability_id _ _ _ _ hbuilt).symm
    exact fun ref href => (mem_merged_evidenceRefs hbuilt ref).1 (hsubset href)
  · intro hkept p hp
    obtain ⟨record, hrecord, rfl⟩ := List.mem_map.1 hp
    obtain ⟨id, built, hbuilt, rfl⟩ := mem_statedCapabilities.1 hrecord
    have hid := builtCapability_id _ _ _ _ hbuilt
    refine ⟨?_, ?_⟩
    · obtain ⟨x, hx, hentity⟩ := List.mem_map.1 (named_iff.2 (Option.isSome_iff_exists.2 ⟨_, hbuilt⟩))
      obtain ⟨ref, href⟩ := List.exists_mem_of_ne_nil _ (capabilityCitations_nonempty h hx)
      refine List.ne_nil_of_mem ((mem_merged_evidenceRefs hbuilt ref).2 ?_)
      rw [← hentity]
      exact hkept x hx href
    · intro x hx hentity ref href
      refine (mem_merged_evidenceRefs hbuilt ref).2 ?_
      have hsame : x.entity = id := hentity.trans hid
      rw [← hsame]
      exact hkept x hx href

/-- With evidenced capabilities every stated node cites something. -/
theorem statedNodes_nonempty {capabilities : List CapabilityRecord}
    (h : FullyEvidenced repositories artifacts declared declaredEdges externalNodes)
    (hcapabilities : ∀ record ∈ capabilities, record.evidenceRefs ≠ []) {node : GraphRecord}
    (hnode : node ∈ statedNodes repositories artifacts capabilities externalNodes) :
    node.evidenceRefs ≠ [] := by
  simp only [statedNodes, repositoryNodes, List.mem_append, List.mem_map, List.mem_flatMap,
    List.mem_cons] at hnode
  rcases hnode with ((hnode | ⟨r, hr, rfl | ⟨id, -, rfl⟩⟩) | ⟨a, ha, rfl⟩) | ⟨record, hrecord, rfl⟩
  · exact h.nodes node hnode
  · exact h.repositories r hr
  · exact h.repositories r hr
  · exact h.artifacts a ha
  · exact hcapabilities record hrecord

theorem builtEdge_nonempty {sourceId targetId : String} {edgeType : EdgeType} {refs : List String}
    {confidence : ConfidenceAssessment} (h : refs ≠ []) :
    (builtEdge c sourceId targetId edgeType refs confidence).evidenceRefs ≠ [] := by
  simpa [builtEdge] using h

theorem statedEdges_nonempty {capabilities : List CapabilityRecord}
    (h : FullyEvidenced repositories artifacts declared declaredEdges externalNodes)
    (hcapabilities : ∀ record ∈ capabilities, record.evidenceRefs ≠ []) {edge : EdgeRecord}
    (hedge : edge ∈ statedEdges c repositories artifacts capabilities declaredEdges) :
    edge.evidenceRefs ≠ [] := by
  simp only [statedEdges, repositoryEdges, artifactEdges, capabilityEdges, List.mem_append,
    List.mem_map, List.mem_flatMap, List.mem_cons] at hedge
  rcases hedge with ((hedge | ⟨r, hr, ⟨id, -, rfl⟩ | ⟨id, -, rfl⟩⟩) |
    ⟨a, ha, rfl | ⟨id, -, rfl⟩⟩) | ⟨record, hrecord, ⟨id, -, rfl⟩ | ⟨id, -, rfl⟩⟩
  · exact h.edges edge hedge
  · exact builtEdge_nonempty (h.repositories r hr)
  · exact builtEdge_nonempty (h.repositories r hr)
  · exact builtEdge_nonempty (h.artifacts a ha)
  · exact builtEdge_nonempty (h.artifacts a ha)
  · exact builtEdge_nonempty (hcapabilities record hrecord)
  · exact builtEdge_nonempty (hcapabilities record hrecord)

/-- Nodes inherit exactly when the last one stated cites all. -/
theorem nodes_inherited_iff {capabilities : List CapabilityRecord}
    (h : FullyEvidenced repositories artifacts declared declaredEdges externalNodes)
    (hcapabilities : ∀ record ∈ capabilities, record.evidenceRefs ≠ []) :
    Inherited
        ((buildTopologyGraph c repositories artifacts capabilities declaredEdges
          externalNodes).nodes.map nodeCitation)
        ((statedNodes repositories artifacts capabilities externalNodes).map nodeCitation) ↔
      LastCitesAll ((statedNodes repositories artifacts capabilities externalNodes).map
        nodeCitation) := by
  refine inherited_iff_lastCitesAll (mem_map_citation_iff fun node => mem_nodes_iff c) ?_
  rw [List.forall_mem_map]
  exact fun node hnode => statedNodes_nonempty h hcapabilities hnode

theorem edges_inherited_iff {capabilities : List CapabilityRecord}
    (h : FullyEvidenced repositories artifacts declared declaredEdges externalNodes)
    (hcapabilities : ∀ record ∈ capabilities, record.evidenceRefs ≠ []) :
    Inherited
        ((buildTopologyGraph c repositories artifacts capabilities declaredEdges
          externalNodes).edges.map edgeCitation)
        ((statedEdges c repositories artifacts capabilities declaredEdges).map edgeCitation) ↔
      LastCitesAll ((statedEdges c repositories artifacts capabilities declaredEdges).map
        edgeCitation) := by
  refine inherited_iff_lastCitesAll (mem_map_citation_iff fun edge => mem_edges_iff c) ?_
  rw [List.forall_mem_map]
  exact fun edge hedge => statedEdges_nonempty h hcapabilities hedge

/-- A record of the walk that cites something is not missing evidence. -/
theorem missingRequiredEvidence_eq_nil {state : TopologyState}
    (h : ∀ entry ∈ recordEvidenceRefs state, entry.2.1 ≠ []) :
    missingRequiredEvidence state = [] := by
  rw [missingRequiredEvidence, List.map_eq_nil_iff, List.filter_eq_nil_iff]
  intro entry hentry hmissing
  exact h entry hentry (of_decide_eq_true hmissing).2

theorem compiled_accepted
    (h : FullyEvidenced repositories artifacts declared declaredEdges externalNodes)
    (hcapabilities : ∀ record ∈ (compileCapabilities c repositories artifacts declared).1,
      record.evidenceRefs ≠ [])
    (hnodes : ∀ node ∈ (buildTopologyGraph c repositories artifacts
      (compileCapabilities c repositories artifacts declared).1 declaredEdges externalNodes).nodes,
      node.evidenceRefs ≠ [])
    (hedges : ∀ edge ∈ (buildTopologyGraph c repositories artifacts
      (compileCapabilities c repositories artifacts declared).1 declaredEdges externalNodes).edges,
      edge.evidenceRefs ≠ []) :
    missingRequiredEvidence
      (compiledState repositories artifacts declared c declaredEdges externalNodes) = [] := by
  refine missingRequiredEvidence_eq_nil
    ((forall_recordEvidenceRefs_iff (P := fun refs => refs ≠ [])).2 ?_)
  have hnone {ρ : Type} (refs : ρ → List String) : ∀ r ∈ ([] : List ρ), refs r ≠ [] :=
    List.forall_mem_nil _
  refine ⟨h.repositories, h.artifacts, hcapabilities, hnone _, hedges, hnone _, ?_, hnone _,
    hnone _, hnone _, hnone _, hnone _⟩
  refine List.forall_mem_append.2 ⟨hnodes, List.forall_mem_map.2 ?_⟩
  exact fun edge hedge => hedges edge hedge

/-- **Inheritance.** Of fully evidenced inputs, every derived record inherits all the evidence behind
    it exactly when the record whose evidence is kept cites all of it. -/
theorem evidence_inherited_iff (c : Codec) (repositories : List RepositoryRecord)
    (artifacts : List ArtifactRecord) (declared : List CapabilityRecord)
    (declaredEdges : List EdgeRecord) (externalNodes : List GraphRecord)
    (h : FullyEvidenced repositories artifacts declared declaredEdges externalNodes) :
    EvidenceInherited repositories artifacts declared c declaredEdges externalNodes ↔
      KeptCitesAll repositories artifacts declared c declaredEdges externalNodes := by
  have hcited : Inherited
      ((compileCapabilities c repositories artifacts declared).1.map capabilityCitation)
      (capabilityCitations repositories artifacts declared) →
        ∀ record ∈ (compileCapabilities c repositories artifacts declared).1,
          record.evidenceRefs ≠ [] :=
    fun hinherited record hrecord => (hinherited _ (List.mem_map_of_mem hrecord)).1
  constructor
  · intro hinherited
    have hcapabilities := hcited hinherited.capabilities
    refine ⟨(capabilities_inherited_iff h).1 hinherited.capabilities, ?_, ?_⟩
    · rw [← compileCapabilities_eq (c := c)]
      exact (nodes_inherited_iff h hcapabilities).1 hinherited.nodes
    · rw [← compileCapabilities_eq (c := c)]
      exact (edges_inherited_iff h hcapabilities).1 hinherited.edges
  · intro hkept
    have hcapabilities := (capabilities_inherited_iff (c := c) h).2 hkept.capabilities
    have hnonempty := hcited hcapabilities
    have hnodes := hkept.nodes
    have hedges := hkept.edges
    rw [← compileCapabilities_eq (c := c)] at hnodes hedges
    have hnodes := (nodes_inherited_iff (c := c) h hnonempty).2 hnodes
    have hedges := (edges_inherited_iff h hnonempty).2 hedges
    refine ⟨hcapabilities, hnodes, hedges, compiled_accepted h hnonempty ?_ ?_⟩
    · exact fun node hnode => (hnodes _ (List.mem_map_of_mem hnode)).1
    · exact fun edge hedge => (hedges _ (List.mem_map_of_mem hedge)).1

end Inheritance

/-! ## A capability that is declared, and one that only an artifact names -/

/-- A repository with evidence, listing some capabilities. -/
def evidencedRepository (capabilities : List String) : RepositoryRecord where
  repositoryId := "repo:a"
  name := "a"
  capabilityIds := capabilities
  sourceRevision := "r1"
  packetRef := "packet:1"
  evidenceRefs := ["evidence:repo"]

theorem readme_portable : ∃ raw, normalizeSourcePath raw = .ok "README" :=
  ⟨"README", normalizeSourcePath_name (by simp) (by simp) (by simp) (by decide) (by decide)
    (by decide)⟩

/-- An artifact with evidence, listing some capabilities. -/
def evidencedArtifact (capabilities : List String) : ArtifactRecord where
  artifactId := "artifact:a"
  repositoryId := "repo:a"
  sourcePath := "README"
  artifactType := "source"
  contentHash := "sha256:11"
  capabilities := capabilities
  evidenceRefs := ["evidence:artifact"]
  packetRef := "packet:1"
  sourcePath_portable := readme_portable

/-- The declared record of a capability. -/
def declaredSearch : CapabilityRecord where
  capabilityId := "capability:search"
  name := "search"
  description := "Full text search."
  evidenceRefs := ["evidence:artifact", "evidence:repo"]

theorem evidenced_inputs {declared : List CapabilityRecord} (listed capabilities : List String)
    (hdeclared : ∀ d ∈ declared, d.evidenceRefs ≠ []) :
    FullyEvidenced [evidencedRepository listed] [evidencedArtifact capabilities] declared [] [] := by
  refine ⟨?_, ?_, hdeclared, List.forall_mem_nil _, List.forall_mem_nil _⟩
  · exact List.forall_mem_singleton.2 (List.cons_ne_nil _ _)
  · exact List.forall_mem_singleton.2 (List.cons_ne_nil _ _)

theorem search_evidenced :
    FullyEvidenced [evidencedRepository ["capability:search"]]
      [evidencedArtifact ["capability:search"]] [declaredSearch] [] [] :=
  evidenced_inputs _ _ (List.forall_mem_singleton.2 (List.cons_ne_nil _ _))

/-- The capability is declared, and it is listed by the repository and by its artifact. -/
theorem search_keptCitesAll :
    KeptCitesAll [evidencedRepository ["capability:search"]]
      [evidencedArtifact ["capability:search"]] [declaredSearch] textCodec [] [] where
  capabilities := by decide
  nodes := lastCitesAll_of_pairwise (by decide)
  -- the relation to the capability is stated by the artifact and then by the capability
  edges := by
    have hrefs : ((statedEdges textCodec [evidencedRepository ["capability:search"]]
        [evidencedArtifact ["capability:search"]]
        (statedCapabilities [evidencedRepository ["capability:search"]]
          [evidencedArtifact ["capability:search"]] [declaredSearch]) []).map
        edgeCitation).Pairwise fun x y => x.refs ⊆ y.refs := by
      decide
    refine lastCitesAll_of_pairwise (hrefs.imp ?_)
    intro x y hsubset _
    exact hsubset

/-- A capability that is stated three times inherits the evidence of the three. -/
theorem evidence_inherited_search :
    EvidenceInherited [evidencedRepository ["capability:search"]]
      [evidencedArtifact ["capability:search"]] [declaredSearch] textCodec [] [] :=
  (evidence_inherited_iff textCodec _ _ _ _ _ search_evidenced).2 search_keptCitesAll

/-- The capability of an artifact has no evidence, and the validator refuses it. -/
theorem evidence_not_inherited :
    FullyEvidenced [evidencedRepository []] [evidencedArtifact ["capability:x"]] [] [] [] ∧
      ¬ EvidenceInherited [evidencedRepository []] [evidencedArtifact ["capability:x"]] [] textCodec
        [] [] ∧
      "capability:x" ∈ missingRequiredEvidence (compiledState [evidencedRepository []]
        [evidencedArtifact ["capability:x"]] [] textCodec [] []) := by
  have hbuilt : builtCapability [evidencedRepository []] [evidencedArtifact ["capability:x"]] []
      "capability:x" = some (artifactCapability "capability:x" ["artifact:a"]) := by
    rfl
  have hmissing : "capability:x" ∈ missingRequiredEvidence (compiledState [evidencedRepository []]
      [evidencedArtifact ["capability:x"]] [] textCodec [] []) := by
    refine List.mem_map.2 ⟨("capability:x", [], some .validatedMachine), ?_, rfl⟩
    refine List.mem_filter.2 ⟨?_, rfl⟩
    have hrecord := mem_statedCapabilities.2 ⟨_, _, hbuilt, rfl⟩
    rw [← compileCapabilities_eq (c := textCodec)] at hrecord
    simp only [recordEvidenceRefs, List.mem_append, List.mem_map]
    iterate 9 refine Or.inl ?_
    exact Or.inr ⟨_, hrecord, rfl⟩
  refine ⟨evidenced_inputs _ _ (List.forall_mem_nil _), fun hinherited => ?_, hmissing⟩
  rw [hinherited.accepted] at hmissing
  exact absurd hmissing List.not_mem_nil

end ConstellationTopology