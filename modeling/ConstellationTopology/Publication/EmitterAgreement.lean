import ConstellationTopology.CompileAcceptance
import ConstellationTopology.Publication.ProjectorProvenance
import ConstellationTopology.Stages.EvidenceIdentity
import ConstellationTopology.Stages.StatementCitation
import ConstellationTopology.Topology.EvidenceInheritance

set_option autoImplicit false

/-! # Emitters and recognizers

Ten rules emit the edges of a compiled topology, and qualification recovers the rule from the edge.
The two agree but for one rule (`emitters_agree`): an artifact states that its repository contains
it whether or not that repository was observed, and an edge from what is neither a repository nor a
corpus scope is recognized as nobody's. -/

namespace ConstellationTopology

namespace Qualification

/-! ## Edges that record nothing -/

section Bare

variable {str : Json → String} {edge : EdgeRecord} {index : QualificationIndex}

/-- The edge type admits the origin, and the rule of the origin is met. -/
def Accepts (str : Json → String) (edge : EdgeRecord) (index : QualificationIndex)
    (origin : RelationOrigin) : Prop :=
  Admits edge.edgeType origin ∧
    ∃ judged, originRule str edge index origin = some judged ∧ judged.isQualified = true

theorem qualified_iff_accepts (hevidence : resolvedEvidence edge index ≠ []) :
    (qualifyRelation str edge index).qualified = true ↔
      Accepts str edge index (relationOrigin edge index) := by
  rw [qualified_iff]
  exact ⟨fun h => ⟨h.1, h.2.2⟩, fun h => ⟨h.1, hevidence, h.2⟩⟩

/-- The rule whose record an edge mirrors. -/
def mirroredOrigin (edge : EdgeRecord) (index : QualificationIndex) : RelationOrigin :=
  ((repositoryOrigin edge index).or (capabilityOrigin edge index)).getD .unrecognized

theorem bare_origin (hbare : edge.properties = []) :
    relationOrigin edge index =
      if edge.edgeType = .contains ∧ edge.sourceId ∈ index.corpusScopeIds then .corpusScope
      else if relationFieldEvidence edge (resolvedEvidence edge index) ≠ [] then .producerDeclared
      else mirroredOrigin edge index := by
  have hnone : ∀ key, edge.hasProperty key = false := by
    intro key
    rw [EdgeRecord.hasProperty, hbare]
    rfl
  unfold relationOrigin recordedOrigin mirroredOrigin
  simp only [hnone, hbare, Bool.false_eq_true, if_false, and_false, ne_eq,
    not_true_eq_false]
  by_cases hscope : edge.edgeType = .contains ∧ edge.sourceId ∈ index.corpusScopeIds
  · simp only [if_pos hscope]
  · by_cases hfield : relationFieldEvidence edge (resolvedEvidence edge index) = []
    · simp only [if_neg hscope, hfield, not_true_eq_false, if_false]
    · simp only [if_neg hscope, hfield, not_false_eq_true, if_true]

/-- An edge that records nothing qualifies within the corpus scope, through evidence that names the
    relation, or as what the record it mirrors states. -/
theorem bare_qualified_iff (hbare : edge.properties = [])
    (hevidence : resolvedEvidence edge index ≠ [])
    (hadmits : Admits edge.edgeType .producerDeclared) :
    (qualifyRelation str edge index).qualified = true ↔
      (edge.edgeType = .contains ∧ edge.sourceId ∈ index.corpusScopeIds) ∨
        relationFieldEvidence edge (resolvedEvidence edge index) ≠ [] ∨
          Accepts str edge index (mirroredOrigin edge index) := by
  rw [qualified_iff_accepts hevidence, bare_origin hbare]
  by_cases hscope : edge.edgeType = .contains ∧ edge.sourceId ∈ index.corpusScopeIds
  · have hcontains : Admits edge.edgeType .corpusScope := by
      rw [hscope.1]
      decide
    rw [if_pos hscope]
    exact ⟨fun _ => .inl hscope, fun _ => ⟨hcontains, _, rfl, rfl⟩⟩
  · rw [if_neg hscope]
    by_cases hfield : relationFieldEvidence edge (resolvedEvidence edge index) = []
    · rw [if_neg (not_not.2 hfield)]
      simp [hscope, hfield]
    · rw [if_pos hfield]
      exact ⟨fun _ => .inr (.inl hfield), fun _ => ⟨hadmits, _, rfl, rfl⟩⟩

/-! ## The record an edge mirrors -/

theorem mirrored_upstream {repository : RepositoryRecord}
    (hsource : index.repositories.lookup edge.sourceId = some repository)
    (htype : edge.edgeType = .dependsOn)
    (htarget : edge.targetId ∈ repository.upstreamRepositoryIds) :
    mirroredOrigin edge index = .repositoryUpstream := by
  simp [mirroredOrigin, repositoryOrigin, hsource, htype, htarget, classificationPromotedTypes]

theorem mirrored_owner {repository : RepositoryRecord}
    (hsource : index.repositories.lookup edge.sourceId = some repository)
    (htype : edge.edgeType = .ownedBy) (htarget : edge.targetId ∈ repository.ownerIds) :
    mirroredOrigin edge index = .repositoryOwner := by
  simp [mirroredOrigin, repositoryOrigin, hsource, htype, htarget, classificationPromotedTypes]

/-- No repository rule emits an edge to a capability. -/
theorem repositoryOrigin_none (htype : edge.edgeType = .implements ∨ edge.edgeType = .exposes) :
    repositoryOrigin edge index = none := by
  unfold repositoryOrigin
  cases index.repositories.lookup edge.sourceId with
  | none => rfl
  | some repository =>
      rcases htype with htype | htype <;> simp [htype, classificationPromotedTypes]

theorem mirrored_implementer {capability : CapabilityRecord}
    (htarget : index.capabilities.lookup edge.targetId = some capability)
    (htype : edge.edgeType = .implements) (hsource : edge.sourceId ∈ capability.implementedBy) :
    mirroredOrigin edge index = .capabilityRecord := by
  simp [mirroredOrigin, repositoryOrigin_none (.inl htype), capabilityOrigin, htarget, htype,
    hsource]

theorem mirrored_exposer {capability : CapabilityRecord}
    (htarget : index.capabilities.lookup edge.targetId = some capability)
    (htype : edge.edgeType = .exposes) (hsource : edge.sourceId ∈ capability.exposedBy) :
    mirroredOrigin edge index = .capabilityRecord := by
  simp [mirroredOrigin, repositoryOrigin_none (.inr htype), capabilityOrigin, htarget, htype,
    hsource]

/-- A containment of an artifact mirrors its record only if its repository was observed. -/
theorem mirrored_containment {artifact : ArtifactRecord}
    (htarget : index.artifacts.lookup edge.targetId = some artifact)
    (htype : edge.edgeType = .contains) (hsource : edge.sourceId = artifact.repositoryId) :
    mirroredOrigin edge index =
      if (index.repositories.lookup artifact.repositoryId).isSome then .artifactContainment
      else .unrecognized := by
  have hcapability : capabilityOrigin edge index = none := by
    unfold capabilityOrigin
    cases index.capabilities.lookup edge.targetId with
    | none => rfl
    | some capability => simp [htype]
  unfold mirroredOrigin repositoryOrigin ownArtifact
  rw [hcapability, hsource, htarget]
  cases hrepository : index.repositories.lookup artifact.repositoryId with
  | none => rfl
  | some repository =>
      have hid : artifact.repositoryId = repository.repositoryId :=
        (Table.lookup_key hrepository).symm
      simp [hid, htype]

end Bare

/-! ## Agreement -/

section Agreement

variable (c : Codec) (text : PythonText) (stages : CompiledStages) (state : TopologyState)

/-- Strict publication qualifies the edge. -/
def Qualified (edge : EdgeRecord) : Prop :=
  (qualifyRelation text.str edge (QualificationIndex.build state)).qualified = true

/-- An edge of the state some of whose evidence resolves. -/
def Evidenced (edge : EdgeRecord) : Prop :=
  edge ∈ state.edgeRecords ∧ resolvedEvidence edge (QualificationIndex.build state) ≠ []

/-- Direct evidence about an endpoint names the relation in its field. -/
def FieldNames (edge : EdgeRecord) : Prop :=
  relationFieldEvidence edge (resolvedEvidence edge (QualificationIndex.build state)) ≠ []

/-- The repository is a record of the state. -/
def Observed (repositoryId : String) : Prop :=
  repositoryId ∈ state.repositoryRecords.map RepositoryRecord.repositoryId

/-- The id is that of a corpus or a root. -/
def InScope (scopeId : String) : Prop :=
  scopeId ∈ state.corpusRecords.map CorpusRecord.corpusId ++ state.rootRecords.map RootRecord.rootId

/-- The artifact carries the hash. -/
def ArtifactCarries (artifactId contentHash : String) : Prop :=
  ∃ artifact ∈ state.artifactRecords,
    artifact.artifactId = artifactId ∧ artifact.contentHash = contentHash

/-- What the rules emit is qualified, for every rule but that of artifact containment. -/
structure EmittersAgree : Prop where
  claim : ∀ edge ∈ stages.projection.edges, Evidenced state edge → Qualified text state edge
  work : ∀ edge ∈ stages.work.edges, Evidenced state edge →
    (Qualified text state edge ↔
      (edge.property "target_resolution").text? = some "exact-artifact")
  duplicate : ∀ edge ∈ stages.duplicateEdges, Evidenced state edge →
    ∀ contentHash, (edge.property "content_hash").text? = some contentHash →
      ArtifactCarries state edge.sourceId contentHash →
        ArtifactCarries state edge.targetId contentHash → Qualified text state edge
  corpus : ∀ edge ∈ stages.corpusGraph.2, Evidenced state edge → Qualified text state edge
  upstream : ∀ repository ∈ stages.repositories, ∀ edge ∈ repository.upstreamRepositoryIds.map
    (fun targetId => builtEdge c repository.repositoryId targetId .dependsOn
      repository.evidenceRefs repository.confidence), Evidenced state edge →
        (Qualified text state edge ↔ Observed state edge.targetId ∨ FieldNames state edge)
  owner : ∀ repository ∈ stages.repositories, ∀ edge ∈ repository.ownerIds.map
    (fun ownerId => builtEdge c repository.repositoryId ownerId .ownedBy
      repository.evidenceRefs repository.confidence), Evidenced state edge →
        Qualified text state edge
  listed : ∀ artifact ∈ stages.normalized.artifacts, ∀ edge ∈ artifact.capabilities.map
    (fun capabilityId => builtEdge c artifact.artifactId capabilityId .implements
      artifact.evidenceRefs artifact.confidence), Evidenced state edge → Qualified text state edge
  capability : ∀ capability ∈ stages.capabilities, ∀ edge ∈ capabilityEdges c capability,
    Evidenced state edge → Qualified text state edge
  unrecognized : ∀ edge, admissibleOrigins.lookup edge.edgeType = none ∨
    relationOrigin edge (QualificationIndex.build state) = .unrecognized →
      ¬ Qualified text state edge

/-- The containment an artifact states. -/
def containmentOf (artifact : ArtifactRecord) : EdgeRecord :=
  builtEdge c artifact.repositoryId artifact.artifactId .contains artifact.evidenceRefs
    artifact.confidence

/-- The containment an artifact states is qualified whatever its repository is. -/
def ContainmentQualified : Prop :=
  ∀ artifact ∈ stages.normalized.artifacts, Evidenced state (containmentOf c artifact) →
    Qualified text state (containmentOf c artifact)

/-- It is qualified when the repository is observed or a corpus scope, and otherwise only through
    evidence that names the relation. -/
def ContainmentAgrees : Prop :=
  ∀ artifact ∈ stages.normalized.artifacts, Evidenced state (containmentOf c artifact) →
    (Qualified text state (containmentOf c artifact) ↔
      Observed state artifact.repositoryId ∨ InScope state artifact.repositoryId ∨
        FieldNames state (containmentOf c artifact))

end Agreement

/-! ## Rule by rule -/

section Rules

variable {c : Codec} {text : PythonText} {inputs : CompileInputs} {stages : CompiledStages}
  {derived : DerivedDomains} {state : TopologyState} {edge : EdgeRecord}

/-- The ids that validation tells apart. -/
structure IdsDistinct (state : TopologyState) : Prop where
  repositories : (state.repositoryRecords.map RepositoryRecord.repositoryId).Nodup
  artifacts : (state.artifactRecords.map ArtifactRecord.artifactId).Nodup
  capabilities : (state.capabilityRecords.map CapabilityRecord.capabilityId).Nodup
  claims : (state.semanticClaims.map SemanticClaimRecord.claimId).Nodup

theorem idsDistinct_of_passed {engine : SchemaEngine} {packet : TopologyPacket}
    {inputBundles : List RepositoryModelBundle} {corpusBundles : List CorpusIntelligenceBundle}
    {createdAt : Timestamp}
    (hpassed : (validateTopology packet state inputBundles corpusBundles c engine
      createdAt).status = .passed) : IdsDistinct state where
  repositories := ids_nodup_of_passed hpassed "repository" "Repository" (by simp [idSets])
  artifacts := ids_nodup_of_passed hpassed "artifact" "Artifact" (by simp [idSets])
  capabilities := ids_nodup_of_passed hpassed "capability" "Capability" (by simp [idSets])
  claims := ids_nodup_of_passed hpassed "semantic-claim" "Semantic-Claim" (by simp [idSets])

theorem unrecognized_not_qualified (h : admissibleOrigins.lookup edge.edgeType = none ∨
    relationOrigin edge (QualificationIndex.build state) = .unrecognized) :
    ¬ Qualified text state edge := by
  intro hqualified
  obtain ⟨⟨admissible, hrow, -⟩, -, judged, hrule, -⟩ := qualified_iff.1 hqualified
  rcases h with h | h
  · rw [h] at hrow
    cases hrow
  · rw [h] at hrule
    cases hrule

/-- A repository is found under its id exactly when it is observed. -/
theorem lookup_repositories_isSome {repositoryId : String} :
    ((QualificationIndex.build state).repositories.lookup repositoryId).isSome = true ↔
      Observed state repositoryId := by
  rw [Option.isSome_iff_ne_none, ne_eq]
  exact not_iff_comm.1 Table.lookup_ofRows_eq_none_iff.symm

/-- An edge that records nothing and contains nothing. -/
theorem bare_relation_qualified_iff (hbare : edge.properties = []) (hedge : Evidenced state edge)
    (hadmits : Admits edge.edgeType .producerDeclared) (htype : edge.edgeType ≠ .contains) :
    Qualified text state edge ↔ FieldNames state edge ∨
      Accepts text.str edge (QualificationIndex.build state)
        (mirroredOrigin edge (QualificationIndex.build state)) := by
  refine (bare_qualified_iff hbare hedge.2 hadmits).trans ?_
  simp only [htype, false_and, false_or]
  rfl

theorem upstream_qualified_iff (hids : IdsDistinct state) {repository : RepositoryRecord}
    (hrepository : repository ∈ state.repositoryRecords) {targetId : String}
    (htarget : targetId ∈ repository.upstreamRepositoryIds)
    (hedge : edge = builtEdge c repository.repositoryId targetId .dependsOn
      repository.evidenceRefs repository.confidence)
    (hevidenced : Evidenced state edge) :
    Qualified text state edge ↔ Observed state edge.targetId ∨ FieldNames state edge := by
  subst hedge
  have hlookup := (Table.lookup_ofRows_of_nodup hids.repositories _ _).2 ⟨hrepository, rfl⟩
  refine (bare_relation_qualified_iff rfl hevidenced
    (by decide : Admits .dependsOn .producerDeclared) nofun).trans ?_
  rw [mirrored_upstream hlookup rfl htarget, or_comm, ← lookup_repositories_isSome]
  refine or_congr_left ?_
  constructor
  · rintro ⟨-, judged, hrule, hjudged⟩
    obtain rfl := Option.some.inj hrule
    unfold repositoryUpstreamRule at hjudged
    cases htargets : (QualificationIndex.build state).repositories.lookup targetId with
    | none =>
        simp only [builtEdge, htargets] at hjudged
        cases hjudged
    | some target => simp [builtEdge, htargets]
  · intro hobserved
    obtain ⟨target, htargets⟩ := Option.isSome_iff_exists.1 hobserved
    refine ⟨(by decide : Admits .dependsOn .repositoryUpstream), _, rfl, ?_⟩
    unfold repositoryUpstreamRule
    rw [htargets]
    rfl

theorem owner_qualified (hids : IdsDistinct state) {repository : RepositoryRecord}
    (hrepository : repository ∈ state.repositoryRecords) {ownerId : String}
    (howner : ownerId ∈ repository.ownerIds)
    (hedge : edge = builtEdge c repository.repositoryId ownerId .ownedBy
      repository.evidenceRefs repository.confidence)
    (hevidenced : Evidenced state edge) : Qualified text state edge := by
  subst hedge
  have hlookup := (Table.lookup_ofRows_of_nodup hids.repositories _ _).2 ⟨hrepository, rfl⟩
  refine (bare_relation_qualified_iff rfl hevidenced
    (by decide : Admits .ownedBy .producerDeclared) nofun).2 (.inr ?_)
  rw [mirrored_owner hlookup rfl howner]
  exact ⟨(by decide : Admits .ownedBy .repositoryOwner), _, rfl, rfl⟩

theorem implementer_qualified (hids : IdsDistinct state) {capability : CapabilityRecord}
    (hcapability : capability ∈ state.capabilityRecords) {sourceId : String}
    {evidenceRefs : List String} {confidence : ConfidenceAssessment}
    (hsource : sourceId ∈ capability.implementedBy)
    (hedge : edge = builtEdge c sourceId capability.capabilityId .implements evidenceRefs confidence)
    (hevidenced : Evidenced state edge) : Qualified text state edge := by
  subst hedge
  have hlookup := (Table.lookup_ofRows_of_nodup hids.capabilities _ _).2 ⟨hcapability, rfl⟩
  refine (bare_relation_qualified_iff rfl hevidenced
    (by decide : Admits .implements .producerDeclared) nofun).2 (.inr ?_)
  rw [mirrored_implementer hlookup rfl hsource]
  exact ⟨(by decide : Admits .implements .capabilityRecord), _, rfl, rfl⟩

theorem exposer_qualified (hids : IdsDistinct state) {capability : CapabilityRecord}
    (hcapability : capability ∈ state.capabilityRecords) {sourceId : String}
    {evidenceRefs : List String} {confidence : ConfidenceAssessment}
    (hsource : sourceId ∈ capability.exposedBy)
    (hedge : edge = builtEdge c sourceId capability.capabilityId .exposes evidenceRefs confidence)
    (hevidenced : Evidenced state edge) : Qualified text state edge := by
  subst hedge
  have hlookup := (Table.lookup_ofRows_of_nodup hids.capabilities _ _).2 ⟨hcapability, rfl⟩
  refine (bare_relation_qualified_iff rfl hevidenced
    (by decide : Admits .exposes .producerDeclared) nofun).2 (.inr ?_)
  rw [mirrored_exposer hlookup rfl hsource]
  exact ⟨(by decide : Admits .exposes .capabilityRecord), _, rfl, rfl⟩

/-- Containment alone can be recognized as nobody's. -/
theorem containment_qualified_iff (hids : IdsDistinct state) {artifact : ArtifactRecord}
    (hartifact : artifact ∈ state.artifactRecords)
    (hevidenced : Evidenced state (containmentOf c artifact)) :
    Qualified text state (containmentOf c artifact) ↔
      Observed state artifact.repositoryId ∨ InScope state artifact.repositoryId ∨
        FieldNames state (containmentOf c artifact) := by
  have hlookup := (Table.lookup_ofRows_of_nodup hids.artifacts _ _).2 ⟨hartifact, rfl⟩
  have hmirrored : mirroredOrigin (containmentOf c artifact) (QualificationIndex.build state) =
      if ((QualificationIndex.build state).repositories.lookup artifact.repositoryId).isSome then
        .artifactContainment
      else .unrecognized := mirrored_containment hlookup rfl rfl
  refine (bare_qualified_iff rfl hevidenced.2
    (by decide : Admits .contains .producerDeclared)).trans ?_
  rw [hmirrored, ← lookup_repositories_isSome]
  by_cases hobserved : ((QualificationIndex.build state).repositories.lookup
      artifact.repositoryId).isSome = true
  · rw [if_pos hobserved]
    simp only [hobserved, true_or, iff_true]
    exact .inr (.inr ⟨(by decide : Admits .contains .artifactContainment), _, rfl, rfl⟩)
  · rw [if_neg hobserved]
    have hrefused : ¬ Accepts text.str (containmentOf c artifact) (QualificationIndex.build state)
        .unrecognized := by
      rintro ⟨-, judged, hrule, -⟩
      cases hrule
    simp only [hobserved, hrefused, Bool.false_eq_true, false_or, or_false]
    exact or_congr_left ⟨And.right, fun h => ⟨rfl, h⟩⟩

theorem corpus_qualified (hevidenced : Evidenced state edge) {sourceId targetId : String}
    {confidence : ConfidenceAssessment} {evidenceRefs : List String}
    (hsource : InScope state sourceId)
    (hedge : edge = containmentEdge c sourceId targetId confidence evidenceRefs) :
    Qualified text state edge := by
  subst hedge
  exact (bare_qualified_iff rfl hevidenced.2
    (by decide : Admits .contains .producerDeclared)).2 (.inl ⟨rfl, hsource⟩)

/-- Every type the work projector emits admits it. -/
theorem workEdgeProjections_admitted :
    ∀ row ∈ workEdgeProjections, Admits row.2.1 .workProjector := by decide

/-- Every type the claim projector emits admits it. -/
theorem claimRelations_admitted (claim : SemanticClaimRecord) :
    ∀ row ∈ claimRelations claim, Admits row.2.2.2.1 .claimProjector := by
  simp only [claimRelations, List.forall_mem_cons, List.not_mem_nil, false_imp_iff, implies_true,
    and_true]
  decide

/-- A claim's edge of the claim projector passes the gate of the claim it names. -/
theorem claim_qualified (hstr : ∀ value, text.str (.str value) = value)
    (hcompiled : compileStages c text inputs = .ok stages)
    (hids : IdsDistinct (stages.state derived)) (h : edge ∈ stages.projection.edges)
    (hevidenced : Evidenced (stages.state derived) edge) :
    Qualified text (stages.state derived) edge := by
  rw [(compiled_projection hcompiled).1] at h
  obtain ⟨claim, hclaim, projected, hprojected, hmem⟩ := mem_projected_edges h
  obtain ⟨hfrom, hstated, hresolution, hkind, hhas⟩ := mem_projectClaim_edges hprojected hmem
  obtain ⟨entities, hnamed⟩ := namedClaim_stamped hstr hcompiled hids.claims hclaim hfrom
  have hadmits : Admits edge.edgeType .claimProjector :=
    claimRelations_admitted claim _ (mem_of_lookup hstated)
  refine (qualifiedAs_claimProjector_iff.2 ⟨claim.stamped entities, ?_⟩).1
  exact
    { no_resolution := hresolution
      has_claim := by
        rw [EdgeRecord.hasProperty, hfrom.lookup_claim]
        rfl
      has_kind := hhas
      kind := hkind
      admitted := hadmits
      evidenced := hevidenced.2
      named := hnamed
      eligible := (projectClaim_eq_some.1 hprojected).1 }

/-- An edge of the work projector stands or falls with the resolution of its target. -/
theorem work_qualified_iff (hstr : ∀ value, text.str (.str value) = value)
    (hcompiled : compileStages c text inputs = .ok stages)
    (hids : IdsDistinct (stages.state derived)) (h : edge ∈ stages.work.edges)
    (hevidenced : Evidenced (stages.state derived) edge) :
    Qualified text (stages.state derived) edge ↔
      (edge.property "target_resolution").text? = some "exact-artifact" := by
  rw [(compiled_projection hcompiled).2.1] at h
  obtain ⟨claim, hclaim, relation, hprojected, rfl⟩ := mem_work_edges h
  obtain ⟨hfrom, hstated, hresolution⟩ := projectWorkClaim_edge hprojected
  obtain ⟨entities, hnamed⟩ := namedClaim_stamped hstr hcompiled hids.claims hclaim hfrom
  have hgate : claimGate text.str relation.edge (QualificationIndex.build (stages.state derived)) =
      none := claimGate_eq_none_iff.2 ⟨_, hnamed, (projectWorkClaim_eq_some.1 hprojected).1⟩
  have hadmits : Admits relation.edge.edgeType .workProjector := by
    obtain ⟨⟨edgeType, reverse⟩, hrow, hrelation⟩ := Option.map_eq_some_iff.1 hstated
    have htype : edgeType = relation.edge.edgeType := by
      cases reverse
      · exact congrArg (fun stated : Relation => stated.2.2.1) hrelation
      · exact congrArg (fun stated : Relation => stated.2.2.1) hrelation
    rw [← htype]
    exact workEdgeProjections_admitted _ (mem_of_lookup hrow)
  unfold Qualified
  rw [qualified_iff_accepts hevidenced.2, relationOrigin_workProjector_iff.2 hresolution]
  constructor
  · rintro ⟨-, judged, hrule, hjudged⟩
    obtain rfl := Option.some.inj hrule
    exact (workProjectorRule_qualified_iff.1 hjudged).2
  · intro hexact
    exact ⟨hadmits, _, rfl, workProjectorRule_qualified_iff.2 ⟨hgate, hexact⟩⟩

/-- An exact duplicate is qualified where both artifacts carry its hash. -/
theorem duplicate_qualified (hcompiled : compileStages c text inputs = .ok stages)
    (hids : IdsDistinct state) (h : edge ∈ stages.duplicateEdges)
    (hevidenced : Evidenced state edge) {contentHash : String}
    (hhash : (edge.property "content_hash").text? = some contentHash)
    (hsource : ArtifactCarries state edge.sourceId contentHash)
    (htarget : ArtifactCarries state edge.targetId contentHash) : Qualified text state edge := by
  rw [(compiled_corpus hcompiled).1] at h
  obtain ⟨cluster, hcluster, evidenceRefs, member, rfl⟩ := mem_duplicate_edges c h
  obtain rfl : cluster.contentHash = contentHash := Option.some.inj hhash
  have hcarries : ∀ artifactId, ArtifactCarries state artifactId cluster.contentHash →
      carriesHash (QualificationIndex.build state) artifactId cluster.contentHash := by
    rintro artifactId ⟨artifact, hartifact, rfl, hsame⟩
    exact ⟨artifact, (Table.lookup_ofRows_of_nodup hids.artifacts _ _).2 ⟨hartifact, rfl⟩, hsame⟩
  have horigin : relationOrigin (starEdge c cluster evidenceRefs member)
      (QualificationIndex.build state) = .exactDuplicate :=
    (relationOrigin_recorded_iff (by decide)).2 rfl
  unfold Qualified
  rw [qualified_iff_accepts hevidenced.2, horigin]
  refine ⟨(by decide : Admits .duplicateOf .exactDuplicate), _, rfl, ?_⟩
  unfold exactDuplicateRule
  rw [hhash]
  have hmethod : ((starEdge c cluster evidenceRefs member).property "method").text? =
      some exactDuplicateMethod := rfl
  simp only [hmethod, clusterHash_nonempty hcluster, hcarries _ hsource, hcarries _ htarget, ne_eq,
    not_true_eq_false, or_self, if_false, and_self]
  rfl

/-- What an artifact lists is recognized by the capability's own record. -/
theorem listed_qualified (hcompiled : compileStages c text inputs = .ok stages)
    (hids : IdsDistinct (stages.state derived)) {artifact : ArtifactRecord}
    (hartifact : artifact ∈ stages.normalized.artifacts) {capabilityId : String}
    (hlisted : capabilityId ∈ artifact.capabilities)
    (hedge : edge = builtEdge c artifact.artifactId capabilityId .implements
      artifact.evidenceRefs artifact.confidence)
    (hevidenced : Evidenced (stages.state derived) edge) :
    Qualified text (stages.state derived) edge := by
  obtain ⟨built, hbuilt, rfl, himplements⟩ := exists_built_of_listed stages.repositories
    stages.normalized.artifacts stages.normalized.capabilities capabilityId hartifact hlisted
  have hbuilt : built ∈ stages.builtCapabilities := List.mem_append_left _ hbuilt
  obtain ⟨capability, hcapability, hid, hsubset⟩ :=
    AggregateCapabilities.exists_run_of_mem (c := c) hbuilt
  rw [← (compiled_capabilities hcompiled)] at hcapability
  rw [← hid] at hedge
  exact implementer_qualified hids (mem_sortedBy.2 hcapability) (hsubset himplements) hedge
    hevidenced

end Rules

/-- **Strict qualification agrees with the emitters** of every compiled state: what each rule emits
    is qualified as its producer's, artifact containment where the repository was observed. -/
theorem emitters_agree (c : Codec) (text : PythonText)
    (hstr : ∀ value, text.str (.str value) = value) (inputs : CompileInputs)
    (stages : CompiledStages) (derived : DerivedDomains) (engine : SchemaEngine)
    (packet : TopologyPacket) (inputBundles : List RepositoryModelBundle)
    (corpusBundles : List CorpusIntelligenceBundle) (createdAt : Timestamp)
    (hcompiled : compileStages c text inputs = .ok stages)
    (hpassed : (validateTopology packet (stages.state derived) inputBundles corpusBundles c engine
      createdAt).status = .passed) :
    EmittersAgree c text stages (stages.state derived) ∧
      ContainmentAgrees c text stages (stages.state derived) := by
  have hids := idsDistinct_of_passed hpassed
  have hrepositories : ∀ repository ∈ stages.repositories,
      repository ∈ (stages.state derived).repositoryRecords := fun _ h => mem_sortedBy.2 h
  refine ⟨?_, ?_⟩
  · exact
      { claim := fun edge h hevidenced => claim_qualified hstr hcompiled hids h hevidenced
        work := fun edge h hevidenced => work_qualified_iff hstr hcompiled hids h hevidenced
        duplicate := fun edge h hevidenced contentHash hhash hsource htarget =>
          duplicate_qualified hcompiled hids h hevidenced hhash hsource htarget
        corpus := by
          intro edge h hevidenced
          rw [(compiled_corpus hcompiled).2] at h
          obtain ⟨sourceId, hsource, targetId, confidence, evidenceRefs, hedge⟩ :=
            mem_corpusScope_edges c h
          exact corpus_qualified hevidenced
            (by simpa [InScope, CompiledStages.state] using hsource) hedge
        upstream := by
          intro repository hrepository edge h hevidenced
          obtain ⟨targetId, htarget, hedge⟩ := List.mem_map.1 h
          exact upstream_qualified_iff hids (hrepositories _ hrepository) htarget hedge.symm
            hevidenced
        owner := by
          intro repository hrepository edge h hevidenced
          obtain ⟨ownerId, howner, hedge⟩ := List.mem_map.1 h
          exact owner_qualified hids (hrepositories _ hrepository) howner hedge.symm hevidenced
        listed := by
          intro artifact hartifact edge h hevidenced
          obtain ⟨capabilityId, hlisted, hedge⟩ := List.mem_map.1 h
          exact listed_qualified hcompiled hids hartifact hlisted hedge.symm hevidenced
        capability := by
          intro capability hcapability edge h hevidenced
          have hrecord : capability ∈ (stages.state derived).capabilityRecords :=
            mem_sortedBy.2 hcapability
          rcases List.mem_append.1 h with h | h
          · obtain ⟨implementerId, hsource, hedge⟩ := List.mem_map.1 h
            exact implementer_qualified hids hrecord hsource hedge.symm hevidenced
          · obtain ⟨exposerId, hsource, hedge⟩ := List.mem_map.1 h
            exact exposer_qualified hids hrecord hsource hedge.symm hevidenced
        unrecognized := fun edge h => unrecognized_not_qualified h }
  · intro artifact hartifact hevidenced
    exact containment_qualified_iff hids (mem_sortedBy.2 hartifact) hevidenced

/-! ## A state without derived domains -/

section Underived

variable {stages : CompiledStages}

/-- What is walked in a state without derived domains. -/
theorem forall_walked {P : List String → Prop}
    (hrepositories : ∀ repository ∈ stages.repositories, P repository.evidenceRefs)
    (hartifacts : ∀ artifact ∈ stages.normalized.artifacts, P artifact.evidenceRefs)
    (hcapabilities : ∀ capability ∈ stages.capabilities, P capability.evidenceRefs)
    (hclaims : ∀ claim ∈ stages.claims, P claim.evidenceRefs)
    (hnodes : ∀ node ∈ stages.graph.nodes, P node.evidenceRefs)
    (hedges : ∀ edge ∈ stages.graph.edges, P edge.evidenceRefs)
    (hunknowns : ∀ unknown ∈ stages.unknowns, P unknown.evidenceRefs)
    (hconflicts : ∀ conflict ∈ stages.conflicts, P conflict.evidenceRefs)
    (hdiagnostics : ∀ diagnostic ∈ stages.normalized.diagnostics
      ++ stages.reconciliation.diagnostics, P diagnostic.evidenceRefs) :
    ∀ entry ∈ recordEvidenceRefs (stages.state {}), P entry.2.1 := by
  refine forall_recordEvidenceRefs_iff.2
    ⟨fun _ h => hrepositories _ (mem_sortedBy.1 h), fun _ h => hartifacts _ (mem_sortedBy.1 h),
      fun _ h => hcapabilities _ (mem_sortedBy.1 h), fun _ h => hclaims _ (mem_sortedBy.1 h),
      fun _ h => hedges _ (mem_sortedBy.1 h), List.forall_mem_nil _, ?_, List.forall_mem_nil _,
      List.forall_mem_nil _, fun _ h => hunknowns _ (mem_sortedBy.1 h),
      fun _ h => hconflicts _ (mem_sortedBy.1 h), fun _ h => hdiagnostics _ (mem_sortedBy.1 h)⟩
  intro record hrecord
  have hgraph := (stages.state_graphRecords {}).mem_iff.1 hrecord
  rw [List.append_nil] at hgraph
  rcases List.mem_append.1 hgraph with hnode | hedge
  · exact hnodes record hnode
  · obtain ⟨edge, hmem, rfl⟩ := List.mem_map.1 hedge
    exact hedges edge hmem

theorem mem_nodeIds {entityId : String} (h : ∃ node ∈ stages.graph.nodes,
    node.recordType = .node ∧ node.entityId = entityId) : entityId ∈ nodeIds (stages.state {}) := by
  obtain ⟨node, hnode, htype, rfl⟩ := h
  refine List.mem_map_of_mem (List.mem_filter.2 ⟨?_, decide_eq_true htype⟩)
  exact (stages.state_graphRecords {}).mem_iff.2
    (List.mem_append_left _ (List.mem_append_left _ hnode))

theorem graphIds_nodup (hnodes : (stages.graph.nodes.map GraphRecord.entityId).Nodup)
    (hedges : (stages.graph.edges.map EdgeRecord.edgeId).Nodup)
    (hapart : ∀ node ∈ stages.graph.nodes, ∀ edge ∈ stages.graph.edges,
      node.entityId ≠ edge.edgeId) :
    ((stages.state {}).graphRecords.map GraphRecord.entityId).Nodup := by
  refine ((stages.state_graphRecords {}).map _).nodup_iff.2 ?_
  rw [List.append_nil, TopologyGraph.graphRecords, List.map_append, List.map_map]
  refine List.nodup_append.2 ⟨hnodes, hedges, ?_⟩
  intro nodeId hnodeId edgeId hedgeId
  obtain ⟨node, hnode, rfl⟩ := List.mem_map.1 hnodeId
  obtain ⟨edge, hedge, rfl⟩ := List.mem_map.1 hedgeId
  exact hapart node hnode edge hedge

end Underived

/-! ## A repository with dependencies

It contains a file and refers to it, requires a package, and builds on another repository. -/

/-- A repository that was observed with the file. -/
def linkedRecord (repositoryId : String) (upstream : List String) : RepositoryRecord :=
  { linkedRepository repositoryId upstream with evidenceRefs := ["observed:plan"] }

/-- The file of the repository. -/
def linkedFile : ArtifactRecord :=
  { planArtifact with repositoryId := "repo:a" }

/-- The statement that the repository refers to the file. -/
def workAssertion : RepositoryModelAssertion :=
  { packageAssertion with
    assertionId := "assertion:2"
    predicate := "work.references"
    object := "artifact:plan"
    evidenceExcerpt := "PLAN" }

/-- What is stated of the repository. -/
def linkedAssertions : List RepositoryModelAssertion := [packageAssertion, workAssertion]

/-- Two repositories, and the file and the statements of the first. -/
def linkedPayload : RepositoryModelPayload where
  repositories := [linkedRecord "repo:a" ["repo:b"], linkedRecord "repo:b" []]
  artifacts := [linkedFile]
  evidence := [planEvidence]
  assertions := some linkedAssertions

/-- The packet that holds them, before it has a hash. -/
def linkedPacket : RepositoryModelPacket :=
  { planPacket with payload := some linkedPayload }

/-- The packet under its own hash, with the receipt about it. -/
def linkedInput (c : Codec) : RepositoryInput where
  packet := linkedPacket.identified c
  receipt := { (planInput c).receipt with
    subjectSemanticHash := (linkedPacket.identified c).semanticHash }

/-- The stages, given the evidence of the statements. -/
def linkedStages (c : Codec) (records : List EvidenceRecord) : CompiledStages :=
  runStages c plainText (stageInputs [linkedInput c] [] [])
    { repositories := linkedPayload.repositories
      artifacts := [linkedFile]
      evidence := planEvidence :: records } []

/-- The evidence of the statements: a record for each, none of which takes the place of another. -/
structure LinkedRecords (c : Codec) (records : List EvidenceRecord) : Prop where
  built : assertionEvidenceRecords c (linkedInput c).packet = .ok records
  ids : ((planEvidence :: records).map EvidenceRecord.evidenceId).Nodup
  keyed : ∀ assertion ∈ linkedAssertions, ∃ record ∈ records,
    statementKey record = some (assertionSemanticInput assertion).key
  stated : ∀ record ∈ records,
    record.stage ∈ statementEvidenceStages ∧ record.sourceType = .file

theorem exists_linkedRecords {c : Codec} (hc : c.Faithful) :
    ∃ records, LinkedRecords c records := by
  have hpath : normalizeSourcePath "setup.py" = .ok "setup.py" :=
    normalizeSourcePath_name (by simp) (by simp) (by simp) (by decide) (by decide) (by decide)
  obtain ⟨first, hfirst, hkey, ref, -, hmake⟩ := assertionEvidenceRecord_spec c
    (linkedInput c).packet packageAssertion hpath
  obtain ⟨second, hsecond, hkey', ref', -, hmake'⟩ := assertionEvidenceRecord_spec c
    (linkedInput c).packet workAssertion hpath
  refine ⟨[first, second], ?_, ?_, ?_, ?_⟩
  · show linkedAssertions.mapM (assertionEvidenceRecord c (linkedInput c).packet) = _
    simp only [linkedAssertions, List.mapM_cons, List.mapM_nil, hfirst, hsecond]
    rfl
  · -- the records are about different predicates, and the id of the other one is not a hash
    have hne : first.evidenceId ≠ second.evidenceId := by
      rw [hmake, hmake']
      intro heq
      have hsame := (EvidenceArguments.evidenceId_eq_iff hc
        (a := ⟨_, _, _, _, _, ref, _, _, _, _, _⟩)
        (b := ⟨_, _, _, _, _, ref', _, _, _, _, _⟩)).1 heq
      have hfield := hsame.1.field
      exact absurd (Option.some.inj hfield) (by decide)
    have hplan : ∀ identity, "observed:plan" ≠ c.stableId "evidence" identity := by
      intro identity heq
      have hhead := congrArg (fun text => text.toList.head?) heq
      simp [Codec.stableId] at hhead
    have hids : "observed:plan" ∉ [first, second].map EvidenceRecord.evidenceId := by
      rw [hmake, hmake']
      simp [makeEvidenceRecord, hplan]
    exact List.nodup_cons.2 ⟨hids, by simp [hne]⟩
  · exact List.forall_mem_cons.2 ⟨⟨first, List.mem_cons_self, hkey⟩,
      List.forall_mem_singleton.2 ⟨second, List.mem_cons_of_mem _ List.mem_cons_self, hkey'⟩⟩
  · rw [hmake, hmake']
    exact List.forall_mem_cons.2
      ⟨⟨List.mem_cons_self, rfl⟩, List.forall_mem_singleton.2 ⟨List.mem_cons_self, rfl⟩⟩

/-- The nodes of the graph. -/
def linkedIds : List String := ["repo:a", "repo:b", "artifact:plan", "package:numpy"]

/-- Evidence is cited, all of it in the state. -/
def LinkedCited (c : Codec) (records : List EvidenceRecord) (refs : List String) : Prop :=
  refs ≠ [] ∧ Resolves ((linkedStages c records).state {}) refs

/-- The profile of the packets. -/
def notesProfile : ProfileRef := ⟨"constellation", "1.0.0", "sha256:profiles"⟩

/-- The packet of the state. -/
def linkedTopology (c : Codec) (records : List EvidenceRecord) : TopologyPacket :=
  (validateState (notesEnvironment c plainEnvironment.policies) plainConfiguration notesProfile
    [linkedInput c] [] canonicalCreatedAt ((linkedStages c records).state {})).1

theorem linked_supported : ∀ statement ∈ linkedAssertions.map assertionSemanticInput,
    predicateSupport statement.predicate ≠ .unsupported := by
  decide +kernel

theorem linked_repositories (c : Codec) (records : List EvidenceRecord) :
    (linkedStages c records).repositories =
      linkedPayload.repositories.map (classifyRepository plainText.lower []) := by
  have haggregated : (AggregateRepositories.run c plainText.lower plainText.repr
    linkedPayload.repositories).1 = linkedPayload.repositories := rfl
  exact congrArg (classifyRoles plainText.lower []) haggregated

theorem mem_linked_repositories {c : Codec} {records : List EvidenceRecord}
    {repository : RepositoryRecord}
    (hrepository : repository ∈ (linkedStages c records).repositories) :
    repository = classifyRepository plainText.lower [] (linkedRecord "repo:a" ["repo:b"]) ∨
      repository = classifyRepository plainText.lower [] (linkedRecord "repo:b" []) := by
  rw [linked_repositories] at hrepository
  simpa [linkedPayload] using hrepository

section Linked

variable {c : Codec} {records : List EvidenceRecord} (h : LinkedRecords c records)

include h

theorem linked_compiled :
    compileStages c plainText (stageInputs [linkedInput c] [] []) =
      .ok (linkedStages c records) := by
  have haccepted : RepositoryModelV1Adapter.Accepts c (linkedInput c).packet :=
    RepositoryModelPacket.accepts_identified c (List.mem_cons_of_mem _ List.mem_cons_self) rfl
      (show "r1" ≠ "" by decide) rfl
  have hevidence : adaptedEvidence c (linkedInput c).packet = .ok (planEvidence :: records) := by
    simp only [adaptedEvidence, h.built]
    rfl
  refine (compileStages_eq_ok _ _).2 ⟨_, normalizeModels_eq_ok.2
    ⟨List.forall_mem_singleton.2 haccepted, [planEvidence :: records], ?_, rfl⟩, [], rfl, ?_⟩
  · show List.mapM (adaptedEvidence c) [(linkedInput c).packet] = _
    simp only [List.mapM_cons, List.mapM_nil, hevidence]
    rfl
  · rw [linkedStages]
    simp only [normalizedFrom, List.flatten_cons, List.flatten_nil, List.append_nil]
    rfl

theorem mem_linked_evidence {record : EvidenceRecord} :
    record ∈ (linkedStages c records).evidence.evidence ↔ record ∈ planEvidence :: records := by
  show record ∈ (ReconcileEvidence.run c plainText.str (planEvidence :: records ++ [])).evidence ↔ _
  rw [List.append_nil]
  exact ReconcileEvidence.mem_evidence_of_nodup h.ids

/-- What a record of the pool stands for resolves. -/
theorem linked_resolves {evidenceId : String}
    (hid : evidenceId ∈ (planEvidence :: records).map EvidenceRecord.evidenceId) :
    evidenceId ∈ evidenceIds ((linkedStages c records).state {}) := by
  obtain ⟨record, hrecord, rfl⟩ := List.mem_map.1 hid
  exact List.mem_map_of_mem (mem_sortedBy.2 ((mem_linked_evidence h).2 hrecord))

theorem plan_cited : LinkedCited c records ["observed:plan"] :=
  ⟨List.cons_ne_nil _ _, List.forall_mem_singleton.2 (linked_resolves h List.mem_cons_self)⟩

/-- The only record that was no statement speaks to no field, so nothing diverges. -/
theorem linked_undivided (cardinality : Cardinality) :
    ReconcileEvidence.divergentSlots c cardinality (planEvidence :: records) = [] := by
  have hplan := (List.nodup_cons.1 h.ids).1
  have hclassified : ReconcileEvidence.classified (planEvidence :: records) = [planEvidence] := by
    have hown : ∀ record ∈ [planEvidence], record.stage ∉ statementEvidenceStages := by decide
    have hnodup : ([planEvidence].map EvidenceRecord.evidenceId).Nodup := List.nodup_singleton _
    refine ReconcileEvidence.classified_append hnodup hown
      (fun record hrecord => (h.stated record hrecord).1) ?_
    intro record hrecord other hother heq
    obtain rfl := List.mem_singleton.1 hother
    exact hplan (heq ▸ List.mem_map_of_mem hrecord)
  rw [ReconcileEvidence.divergentSlots, ReconcileEvidence.slots, hclassified]
  rfl

/-- Each claim answers one of the statements, alone, and cites its evidence. -/
theorem linked_claims {claim : SemanticClaimRecord}
    (hclaim : claim ∈ (linkedStages c records).reconciliation.claims) :
    (∃ assertion ∈ linkedAssertions, claim.subjectId = assertion.subjectId ∧
        claim.predicate = assertion.predicate ∧ claim.object = assertion.object) ∧
      eligibleForCanonicalProjection claim = true ∧ LinkedCited c records claim.evidenceRefs := by
  obtain ⟨statement, hstatement, rfl⟩ := (ReconcileAssertions.mem_claims c).1 hclaim
  obtain ⟨assertion, hassertion, rfl⟩ := List.mem_map.1
    (show statement ∈ linkedAssertions.map assertionSemanticInput from hstatement)
  have hprojectable : ∀ assertion ∈ linkedAssertions, isProjectable assertion.predicate = true := by
    decide +kernel
  refine ⟨⟨assertion, hassertion, rfl, rfl, rfl⟩, ?_, ?_, ?_⟩
  · refine eligible_iff.2 ⟨hprojectable assertion hassertion, ?_⟩
    rcases List.mem_cons.1 hassertion with rfl | hassertion
    · rfl
    · rw [List.mem_singleton.1 hassertion]
      rfl
  · obtain ⟨record, hrecord, hkey⟩ := h.keyed assertion hassertion
    obtain ⟨evidenceId, hresolve⟩ := exists_resolve
      ((mem_linked_evidence h).2 (List.mem_cons_of_mem _ hrecord)) hkey
    refine List.ne_nil_of_mem (mem_sortedSet.2 (List.mem_filterMap.2 ⟨_, ?_, hresolve⟩))
    exact ReconcileAssertions.mem_supporting.2 ⟨hstatement, rfl⟩
  · intro ref href
    obtain ⟨other, -, hresolve⟩ := List.mem_filterMap.1 (mem_sortedSet.1 href)
    obtain ⟨record, hrecord, -, rfl⟩ := mem_of_resolve hresolve
    exact linked_resolves h (List.mem_map_of_mem ((mem_linked_evidence h).1 hrecord))

/-- A projected claim requires the package. -/
theorem linked_projected {claim : SemanticClaimRecord}
    (hclaim : claim ∈ (linkedStages c records).reconciliation.claims)
    {projected : ProjectedEntities}
    (hprojected : projectClaim c plainText.repr claim = some projected) :
    claim.subjectId = "repo:a" ∧ claim.object = "numpy" ∧
      projected = projectDependency c claim := by
  obtain ⟨⟨assertion, hassertion, hsubject, hpredicate, hobject⟩, -⟩ := linked_claims h hclaim
  obtain ⟨-, projector, hprojector, rfl⟩ := projectClaim_eq_some.1 hprojected
  rw [hpredicate] at hprojector
  rcases List.mem_cons.1 hassertion with rfl | hassertion
  · have hdependency : (projectors c plainText.repr).lookup "package.dependency" =
      some (projectDependency c) := rfl
    exact ⟨hsubject, hobject, by rw [Option.some.inj (hprojector.symm.trans hdependency)]⟩
  · rw [List.mem_singleton.1 hassertion] at hprojector
    have hnone : (projectors c plainText.repr).lookup "work.references" = none := rfl
    exact absurd (hprojector.symm.trans hnone) (Option.some_ne_none _)

/-- A work claim refers to the file. -/
theorem linked_worked {claim : SemanticClaimRecord}
    (hclaim : claim ∈ (linkedStages c records).reconciliation.claims) {relation : WorkRelation}
    (hrelation : projectWorkClaim c (WorkTargetIndex.build [linkedFile]) claim = some relation) :
    claim.subjectId = "repo:a" ∧
      relation =
        ⟨relationEdge c claim "artifact:plan" .references false "exact-artifact", none, none⟩ := by
  obtain ⟨⟨assertion, hassertion, hsubject, hpredicate, hobject⟩, -⟩ := linked_claims h hclaim
  obtain ⟨-, row, hrow, rfl⟩ := projectWorkClaim_eq_some.1 hrelation
  rw [hpredicate] at hrow
  rcases List.mem_cons.1 hassertion with rfl | hassertion
  · have hnone : workEdgeProjections.lookup "package.dependency" = none := rfl
    exact absurd (hrow.symm.trans hnone) (Option.some_ne_none _)
  · obtain rfl := List.mem_singleton.1 hassertion
    obtain rfl : (EdgeType.references, false) = row := Option.some.inj hrow
    refine ⟨hsubject, ?_⟩
    have hresolve : (WorkTargetIndex.build [linkedFile]).resolve claim.object =
        (some "artifact:plan", ["artifact:plan"]) := by
      rw [hobject]
      rfl
    rw [workRelation, hresolve]

/-- Nothing is claimed but relations. -/
theorem linked_capabilities : (linkedStages c records).projection.capabilities = [] := by
  refine List.eq_nil_iff_forall_not_mem.2 fun capability hcapability => ?_
  obtain ⟨claim, hclaim, projected, hprojected, hmem⟩ := mem_projected_capabilities hcapability
  obtain ⟨-, -, rfl⟩ := linked_projected h hclaim hprojected
  exact List.not_mem_nil hmem

theorem linked_aggregated :
    AggregateCapabilities.run c (linkedStages c records).builtCapabilities = ([], []) := by
  rw [CompiledStages.builtCapabilities, linked_capabilities h, linked_repositories]
  rfl

theorem linked_conflicts : (linkedStages c records).conflicts = [] := by
  have hcapabilities : (linkedStages c records).capabilityConflicts = [] := by
    rw [compiled_capabilityConflicts (linked_compiled h), linked_aggregated h]
  have hevidence : (linkedStages c records).evidence.conflicts = [] := by
    show List.map _
      (ReconcileEvidence.divergentSlots c .single (planEvidence :: records ++ [])) = []
    rw [List.append_nil, linked_undivided h]
    rfl
  have halone : ∀ statement ∈ linkedAssertions.map assertionSemanticInput,
      ¬ Contradicts (predicateCardinality statement.predicate) (groupObjects
        (ReconcileAssertions.groupAt (linkedAssertions.map assertionSemanticInput) statement)) := by
    decide +kernel
  have hreconciled : (linkedStages c records).reconciliation.conflicts = [] := by
    refine List.eq_nil_iff_forall_not_mem.2 fun conflict hconflict => ?_
    obtain ⟨statement, hstatement, hcontradicts, -⟩ :=
      (ReconcileAssertions.mem_conflicts c).1 hconflict
    exact halone statement hstatement hcontradicts
  rw [CompiledStages.conflicts, hevidence, hcapabilities, hreconciled]
  rfl

theorem linked_unknowns : (linkedStages c records).unknowns = [] := by
  have hevidence : (linkedStages c records).evidence.unknowns = [] := by
    show List.map _
      (ReconcileEvidence.divergentSlots c .unknown (planEvidence :: records ++ [])) = []
    rw [List.append_nil, linked_undivided h]
    rfl
  have hreconciled : (linkedStages c records).reconciliation.unknowns = [] := by
    refine List.eq_nil_iff_forall_not_mem.2 fun unknown hunknown => ?_
    obtain ⟨statement, hstatement, hunsupported, -⟩ :=
      (ReconcileAssertions.mem_unknowns c).1 hunknown
    exact linked_supported statement hstatement hunsupported
  have hwork : (linkedStages c records).work.unknowns = [] := by
    refine List.eq_nil_iff_forall_not_mem.2 fun unknown hunknown => ?_
    obtain ⟨claim, hclaim, relation, hrelation, hsome⟩ := mem_work_unknowns hunknown
    obtain ⟨-, rfl⟩ := linked_worked h hclaim hrelation
    exact absurd hsome (Option.some_ne_none _).symm
  rw [CompiledStages.unknowns, hevidence, hreconciled, hwork]
  rfl

theorem linked_noCapabilities : (linkedStages c records).capabilities = [] := by
  rw [compiled_capabilities (linked_compiled h), linked_aggregated h]

/-- The edges run between the nodes. -/
theorem linked_edges {edge : EdgeRecord} (hedge : edge ∈ (linkedStages c records).graph.edges) :
    edge.edgeId.toList.head? = some 'e' ∧ edge.sourceId ∈ linkedIds ∧
      edge.targetId ∈ linkedIds ∧ LinkedCited c records edge.evidenceRefs := by
  obtain ⟨hprojection, hwork, -⟩ := compiled_projection (linked_compiled h)
  have hrecord : edge ∈ ((linkedStages c records).state {}).edgeRecords := by
    rw [CompiledStages.state_edgeRecords]
    exact mem_sortedBy.2 hedge
  cases compiled_emitted (linked_compiled h) hrecord with
  | declared hmem => cases hmem
  | claim hmem =>
      rw [hprojection] at hmem
      obtain ⟨claim, hclaim, projected, hprojected, hmem⟩ := mem_projected_edges hmem
      obtain ⟨hsubject, hobject, rfl⟩ := linked_projected h hclaim hprojected
      obtain rfl := List.mem_singleton.1 hmem
      refine ⟨stableEdgeId_head .., ?_, ?_, (linked_claims h hclaim).2.2⟩
      · show claim.subjectId ∈ linkedIds
        rw [hsubject]
        decide
      · show externalId externalPackageMarker claim.object ∈ linkedIds
        rw [hobject]
        decide
  | work hmem =>
      rw [hwork] at hmem
      obtain ⟨claim, hclaim, relation, hrelation, rfl⟩ := mem_work_edges hmem
      obtain ⟨hsubject, rfl⟩ := linked_worked h hclaim hrelation
      refine ⟨stableEdgeId_head .., ?_, (by decide : "artifact:plan" ∈ linkedIds),
        (linked_claims h hclaim).2.2⟩
      show claim.subjectId ∈ linkedIds
      rw [hsubject]
      decide
  | duplicate hmem => cases hmem
  | corpus hmem => cases hmem
  | upstream hrepository htarget =>
      rcases mem_linked_repositories hrepository with rfl | rfl
      · rw [List.mem_singleton.1 htarget]
        exact ⟨stableEdgeId_head .., (by decide : "repo:a" ∈ linkedIds),
          (by decide : "repo:b" ∈ linkedIds), plan_cited h⟩
      · cases htarget
  | owner hrepository howner =>
      rcases mem_linked_repositories hrepository with rfl | rfl <;> cases howner
  | containment hartifact =>
      obtain rfl := List.mem_singleton.1 hartifact
      exact ⟨stableEdgeId_head .., (by decide : "repo:a" ∈ linkedIds),
        (by decide : "artifact:plan" ∈ linkedIds), plan_cited h⟩
  | listed hartifact hcapability =>
      obtain rfl := List.mem_singleton.1 hartifact
      cases hcapability
  | implementer hcapability =>
      rw [linked_noCapabilities h] at hcapability
      cases hcapability
  | exposer hcapability =>
      rw [linked_noCapabilities h] at hcapability
      cases hcapability

/-- The nodes of the graph cite evidence. -/
theorem linked_nodes {node : GraphRecord} (hnode : node ∈ (linkedStages c records).graph.nodes) :
    node.recordType = .node ∧ node.entityId ∈ linkedIds ∧
      LinkedCited c records node.evidenceRefs := by
  obtain ⟨hprojection, hwork, -⟩ := compiled_projection (linked_compiled h)
  cases compiled_stated (linked_compiled h) hnode with
  | claim hmem =>
      rw [hprojection] at hmem
      obtain ⟨claim, hclaim, projected, hprojected, hmem⟩ := mem_projected_nodes hmem
      obtain ⟨-, hobject, rfl⟩ := linked_projected h hclaim hprojected
      obtain rfl := List.mem_singleton.1 hmem
      refine ⟨rfl, ?_, (linked_claims h hclaim).2.2⟩
      show externalId externalPackageMarker claim.object ∈ linkedIds
      rw [hobject]
      decide
  | work hmem =>
      rw [hwork] at hmem
      obtain ⟨claim, hclaim, relation, hrelation, hsome⟩ := mem_work_nodes hmem
      obtain ⟨-, rfl⟩ := linked_worked h hclaim hrelation
      cases hsome
  | corpus hmem => cases hmem
  | repository hrepository hmem =>
      rcases mem_linked_repositories hrepository with rfl | rfl
      · obtain rfl := List.mem_singleton.1 hmem
        exact ⟨rfl, (by decide : "repo:a" ∈ linkedIds), plan_cited h⟩
      · obtain rfl := List.mem_singleton.1 hmem
        exact ⟨rfl, (by decide : "repo:b" ∈ linkedIds), plan_cited h⟩
  | artifact hartifact =>
      obtain rfl := List.mem_singleton.1 hartifact
      exact ⟨rfl, (by decide : "artifact:plan" ∈ linkedIds), plan_cited h⟩
  | capability hcapability =>
      rw [linked_noCapabilities h] at hcapability
      cases hcapability

/-- Each statement has its claim. -/
theorem exists_linked_claim {assertion : RepositoryModelAssertion}
    (hassertion : assertion ∈ linkedAssertions) :
    ∃ claim ∈ (linkedStages c records).reconciliation.claims,
      eligibleForCanonicalProjection claim = true ∧ claim.predicate = assertion.predicate ∧
        claim.object = assertion.object := by
  have hstatement : assertionSemanticInput assertion ∈
      compiledInputs (stageInputs [linkedInput c] [] []).packets [] :=
    List.mem_map_of_mem (show assertion ∈ linkedAssertions from hassertion)
  have hstated : (assertionSemanticInput assertion).triple ∈
      (linkedStages c records).reconciliation.claims.map SemanticClaimRecord.triple :=
    (ReconcileAssertions.claims_exact c _).2 (List.mem_map_of_mem hstatement)
  obtain ⟨claim, hclaim, htriple⟩ := List.mem_map.1 hstated
  exact ⟨claim, hclaim, (linked_claims h hclaim).2.1, congrArg (fun t => t.2.1) htriple,
    congrArg (fun t => t.2.2) htriple⟩

/-- The package is projected, with the edge to it. -/
theorem linked_package :
    (∃ node ∈ (linkedStages c records).projection.nodes, node.entityId = "package:numpy") ∧
      (linkedStages c records).projection.edges ≠ [] := by
  obtain ⟨hprojection, -⟩ := compiled_projection (linked_compiled h)
  obtain ⟨claim, hclaim, heligible, hpredicate, hobject⟩ :=
    exists_linked_claim h (List.mem_cons_self : packageAssertion ∈ linkedAssertions)
  have hprojector : (projectors c plainText.repr).lookup claim.predicate =
      some (projectDependency c) := by
    rw [hpredicate]
    rfl
  have hprojected := projectClaim_eq_some.2 ⟨heligible, _, hprojector, rfl⟩
  obtain ⟨node, hnode, hid⟩ := exists_projected_node hclaim hprojected List.mem_cons_self
  obtain ⟨edge, hedge, -⟩ := exists_projected_edge hclaim hprojected List.mem_cons_self
  rw [hprojection]
  refine ⟨⟨node, hnode, hid.trans ?_⟩, List.ne_nil_of_mem hedge⟩
  show externalId externalPackageMarker claim.object = "package:numpy"
  rw [hobject]
  rfl

theorem linked_workEdges : (linkedStages c records).work.edges ≠ [] := by
  obtain ⟨-, hwork, -⟩ := compiled_projection (linked_compiled h)
  obtain ⟨claim, hclaim, heligible, hpredicate, -⟩ :=
    exists_linked_claim h (List.mem_cons_of_mem _ List.mem_cons_self)
  have hrow : workEdgeProjections.lookup claim.predicate = some (.references, false) := by
    rw [hpredicate]
    rfl
  obtain ⟨edge, hedge, -⟩ :=
    exists_work_edge hclaim (projectWorkClaim_eq_some.2 ⟨heligible, _, hrow, rfl⟩)
  rw [hwork]
  exact List.ne_nil_of_mem hedge

theorem exists_linked_node {entityId : String} (hid : entityId ∈ linkedIds) :
    ∃ node ∈ (linkedStages c records).graph.nodes, node.entityId = entityId := by
  have hrepositories : ∀ repository ∈ linkedPayload.repositories,
      classifyRepository plainText.lower [] repository ∈ (linkedStages c records).repositories := by
    intro repository hrepository
    rw [linked_repositories]
    exact List.mem_map_of_mem hrepository
  have hstated : ∃ node, StatedNode (linkedStages c records) node ∧ node.entityId = entityId := by
    simp only [linkedIds, List.mem_cons, List.not_mem_nil, or_false] at hid
    rcases hid with rfl | rfl | rfl | rfl
    · exact ⟨_, .repository (hrepositories _ List.mem_cons_self) List.mem_cons_self, rfl⟩
    · exact ⟨_, .repository (hrepositories _ (List.mem_cons_of_mem _ List.mem_cons_self))
        List.mem_cons_self, rfl⟩
    · exact ⟨_, .artifact List.mem_cons_self, rfl⟩
    · obtain ⟨node, hnode, hid⟩ := (linked_package h).1
      exact ⟨node, .claim hnode, hid⟩
  obtain ⟨node, hnode, rfl⟩ := hstated
  exact exists_node_of_stated (linked_compiled h) hnode

/-- Whatever is walked cites evidence. -/
theorem linked_walk : ∀ entry ∈ recordEvidenceRefs ((linkedStages c records).state {}),
    LinkedCited c records entry.2.1 := by
  obtain ⟨-, -, entities, hclaims⟩ := compiled_projection (linked_compiled h)
  refine forall_walked ?_ (List.forall_mem_singleton.2 (plan_cited h)) ?_ ?_
    (fun _ hnode => (linked_nodes h hnode).2.2) (fun _ hedge => (linked_edges h hedge).2.2.2)
    ?_ ?_ ?_
  · intro repository hrepository
    rcases mem_linked_repositories hrepository with rfl | rfl
    · exact plan_cited h
    · exact plan_cited h
  · rw [linked_noCapabilities h]
    exact List.forall_mem_nil _
  · rw [hclaims]
    exact List.forall_mem_map.2 fun claim hclaim => (linked_claims h hclaim).2.2
  · rw [linked_unknowns h]
    exact List.forall_mem_nil _
  · rw [linked_conflicts h]
    exact List.forall_mem_nil _
  · intro diagnostic hdiagnostic
    obtain ⟨statement, hstatement, hunsupported, -⟩ :=
      (ReconcileAssertions.mem_diagnostics c).1 hdiagnostic
    exact absurd hunsupported (linked_supported statement hstatement)

theorem linked_graphIds :
    (((linkedStages c records).state {}).graphRecords.map GraphRecord.entityId).Nodup := by
  have hnodes : ((linkedStages c records).graph.nodes.map GraphRecord.entityId).Nodup := by
    rw [compiled_graph (linked_compiled h)]
    exact nodes_ids_nodup
  have hnames : ∀ entityId ∈ linkedIds, entityId.toList.head? ≠ some 'e' := by decide
  refine graphIds_nodup hnodes (compiled_edgeIds (linked_compiled h)) ?_
  intro node hnode edge hedge heq
  refine hnames _ (linked_nodes h hnode).2.1 ?_
  rw [heq]
  exact (linked_edges h hedge).1

theorem linked_evidenced : ∀ assertion ∈ linkedAssertions,
    assertion.assertionId ∈ evidencedAssertionIds ((linkedStages c records).state {}) := by
  intro assertion hassertion
  obtain ⟨record, hrecord, hkey⟩ := h.keyed assertion hassertion
  obtain ⟨entry, hentry, hentryKey⟩ := Option.map_eq_some_iff.1 hkey
  have hid : entry.assertionId = assertion.assertionId := congrArg Prod.snd hentryKey
  rw [← hid]
  refine List.mem_map_of_mem (List.mem_filterMap.2 ⟨record, mem_sortedBy.2 ?_, hentry⟩)
  exact (mem_linked_evidence h).2 (List.mem_cons_of_mem _ hrecord)

theorem linked_publishable : Publishable quietEngine
    (linkedAssertions.map RepositoryModelAssertion.assertionId)
      ((linkedStages c records).state {}) where
  schemas := recordErrors_quiet _
  artifactIds := List.nodup_singleton _
  flowIds := List.nodup_nil
  graphIds := linked_graphIds h
  riskIds := List.nodup_nil
  unknownIds := by
    rw [CompiledStages.state_unknowns, linked_unknowns h]
    exact List.nodup_nil
  conflictIds := by
    rw [CompiledStages.state_conflicts, linked_conflicts h]
    exact List.nodup_nil
  endpoints := by
    intro edge hedge
    rw [CompiledStages.state_edgeRecords] at hedge
    obtain ⟨-, hsource, htarget, -⟩ := linked_edges h (mem_sortedBy.1 hedge)
    have hnode : ∀ entityId ∈ linkedIds,
        entityId ∈ nodeIds ((linkedStages c records).state {}) := by
      intro entityId hid
      obtain ⟨node, hnode, hid⟩ := exists_linked_node h hid
      exact mem_nodeIds ⟨node, hnode, (linked_nodes h hnode).1, hid⟩
    exact ⟨hnode _ hsource, hnode _ htarget⟩
  revisions := by
    intro repository hrepository
    rcases mem_linked_repositories (mem_sortedBy.1 hrepository) with rfl | rfl
    · exact (by decide : "r1" ≠ "")
    · exact (by decide : "r1" ≠ "")
  settled := by
    rw [CompiledStages.state_conflicts, linked_conflicts h]
    exact List.forall_mem_nil _
  resolved := fun entry hentry => (linked_walk h entry hentry).2
  backed := fun entry hentry _ _ _ => (linked_walk h entry hentry).1
  labelled := by
    intro record hrecord hinference
    rcases List.mem_cons.1 ((mem_linked_evidence h).1 (mem_sortedBy.1 hrecord)) with rfl | hrecord
    · cases hinference
    · rw [(h.stated record hrecord).2] at hinference
      cases hinference
  evidenced := List.forall_mem_map.2 (linked_evidenced h)

theorem linked_passed (hc : c.Faithful) :
    (validateTopology (linkedTopology c records) ((linkedStages c records).state {})
      [(linkedInput c).toRepositoryModelBundle] [] c quietEngine canonicalCreatedAt).status =
        .passed := by
  have hc : (notesEnvironment c plainEnvironment.policies).codec.Faithful := hc
  have hcompiled : compileStages (notesEnvironment c plainEnvironment.policies).codec
      (notesEnvironment c plainEnvironment.policies).text (stageInputs [linkedInput c] [] []) =
        .ok (linkedStages c records) := linked_compiled h
  refine (validateStages_passed_iff hc {} hcompiled _ notesProfile canonicalCreatedAt).2
    ⟨rfl, ?_, ?_⟩
  · exact List.forall_mem_singleton.2 ⟨rfl, rfl⟩
  · exact linked_publishable h

end Linked

theorem topic_proposed : [planTopic].Sublist [planTopic] := List.Sublist.refl _

/-- The packet of a corpus over one file. -/
def notesTopology (c : Codec) : TopologyPacket :=
  (validateState (notesEnvironment c plainEnvironment.policies) plainConfiguration notesProfile
    [planInput c] [notesPacket c [planTopic] topic_proposed] canonicalCreatedAt
    (notesState c [planTopic] topic_proposed plainEnvironment.policies)).1

theorem notes_validated (c : Codec) (hc : c.Faithful) :
    (validateTopology (notesTopology c)
      (notesState c [planTopic] topic_proposed plainEnvironment.policies)
      [(planInput c).toRepositoryModelBundle]
      [CorpusIntelligenceBundle.mk (notesScope c [planTopic] topic_proposed)] c quietEngine
      canonicalCreatedAt).status = .passed :=
  notes_passed c _ _ _ hc notesProfile canonicalCreatedAt

/-- The emitters agree over a repository with a dependency on another, a claimed one and a claimed
    reference to its file, and over a corpus whose root contains a file. -/
theorem emitters_agree_linked :
    (∃ records, compileStages textCodec plainText (stageInputs [linkedInput textCodec] [] []) =
        .ok (linkedStages textCodec records) ∧
      (linkedStages textCodec records).projection.edges ≠ [] ∧
      (linkedStages textCodec records).work.edges ≠ [] ∧
      EmittersAgree textCodec plainText (linkedStages textCodec records)
        ((linkedStages textCodec records).state {}) ∧
      ContainmentAgrees textCodec plainText (linkedStages textCodec records)
        ((linkedStages textCodec records).state {})) ∧
    (notesStages textCodec [planTopic] topic_proposed).corpusGraph.2 ≠ [] ∧
      EmittersAgree textCodec plainText (notesStages textCodec [planTopic] topic_proposed)
        (notesState textCodec [planTopic] topic_proposed plainEnvironment.policies) ∧
      ContainmentAgrees textCodec plainText
        (notesStages textCodec [planTopic] topic_proposed)
        (notesState textCodec [planTopic] topic_proposed plainEnvironment.policies) := by
  obtain ⟨records, h⟩ := exists_linkedRecords textCodec_faithful
  refine ⟨⟨records, linked_compiled h, (linked_package h).2, linked_workEdges h, ?_⟩,
    List.cons_ne_nil _ _, ?_⟩
  · exact emitters_agree textCodec plainText (fun _ => rfl) _ _ {} quietEngine _ _ _ _
      (linked_compiled h) (linked_passed h textCodec_faithful)
  · exact emitters_agree textCodec plainText (fun _ => rfl) _ _ _ quietEngine _ _ _ _
      (notes_stages textCodec _ _)
      (notes_validated textCodec textCodec_faithful)

/-! ## An artifact of no repository -/

/-- An artifact recorded under itself: what contains it is a node of the graph and no repository. -/
def looseArtifact : ArtifactRecord where
  artifactId := "artifact:a"
  repositoryId := "artifact:a"
  sourcePath := "README"
  artifactType := "source"
  contentHash := "sha256:11"
  evidenceRefs := ["evidence:1"]
  packetRef := "packet:in"
  sourcePath_portable := readme_portable

/-- The evidence that it was seen. -/
def looseEvidence : EvidenceRecord :=
  { packageEvidence with
    subjectId := "artifact:a", field := none, stage := "observe", value := .null }

/-- The payload that states both. -/
def loosePayload : RepositoryModelPayload where
  artifacts := [looseArtifact]
  evidence := [looseEvidence]

/-- What the stages are given. -/
def looseInputs (c : Codec) : CompileInputs where
  packets := [(validatedBundle loosePayload).packet.identified c]

/-- The stages over the payload. -/
def looseStages (c : Codec) : CompiledStages :=
  runStages c plainText { packets := [] }
    { artifacts := [looseArtifact], evidence := [looseEvidence] } []

theorem loose_compiled (c : Codec) :
    compileStages c plainText (looseInputs c) = .ok (looseStages c) := by
  have haccepted : RepositoryModelV1Adapter.Accepts c
      ((validatedBundle loosePayload).packet.identified c) :=
    RepositoryModelPacket.accepts_identified c (List.mem_cons_of_mem _ List.mem_cons_self) rfl
      (show "r1" ≠ "" by decide) rfl
  have hstatements : compiledInputs (looseInputs c).packets [] = [] := rfl
  have hstages : runStages c plainText (looseInputs c)
      { artifacts := [looseArtifact], evidence := [looseEvidence] } [] = looseStages c := by
    unfold looseStages runStages
    rw [show (looseInputs c).corpusPackets = [] from rfl, hstatements]
    rfl
  exact (compileStages_eq_ok _ _).2 ⟨_, normalizeModels_eq_ok.2
    ⟨List.forall_mem_singleton.2 haccepted, [[looseEvidence]], rfl, rfl⟩, [], rfl, hstages⟩

/-- The state that is compiled. -/
def looseState (c : Codec) : TopologyState := (looseStages c).state {}

theorem loose_records (c : Codec) : (looseState c).repositoryRecords = [] ∧
    (looseState c).artifactRecords = [looseArtifact] ∧ (looseState c).capabilityRecords = [] ∧
      (looseState c).semanticClaims = [] ∧ (looseState c).unknowns = [] ∧
        (looseState c).conflicts = [] ∧ (looseState c).diagnostics = [] ∧
          (looseState c).evidence = [looseEvidence] :=
  ⟨rfl, rfl, rfl, rfl, rfl, rfl, rfl, rfl⟩

/-- Without claims and without a corpus, the graph is what the artifact states. -/
theorem loose_graph (c : Codec) : (looseStages c).graph =
    ⟨[artifactNode looseArtifact], [containmentOf c looseArtifact]⟩ := by
  have hclaims : (looseStages c).reconciliation.claims = [] := rfl
  obtain ⟨hprojection, hwork, -⟩ := compiled_projection (loose_compiled c)
  rw [hclaims] at hprojection hwork
  have hduplicates : (looseStages c).duplicateEdges = [] := rfl
  have hcorpus : (looseStages c).corpusGraph = ([], []) := rfl
  have hcapabilities : (looseStages c).capabilities = [] := rfl
  have hgraph : (looseStages c).graph = buildTopologyGraph c (looseStages c).repositories
      [looseArtifact] (looseStages c).capabilities
      ([] ++ (looseStages c).projection.edges ++ (looseStages c).work.edges
        ++ (looseStages c).duplicateEdges ++ (looseStages c).corpusGraph.2)
      ((looseStages c).projection.nodes ++ (looseStages c).work.nodes
        ++ (looseStages c).corpusGraph.1) := rfl
  have hedges : statedEdges c [] [looseArtifact] [] [] = [containmentOf c looseArtifact] := rfl
  have hnodes : statedNodes [] [looseArtifact] [] [] = [artifactNode looseArtifact] := rfl
  have hbuilt : (looseStages c).graph = buildTopologyGraph c [] [looseArtifact] [] [] [] := by
    rw [hgraph, hprojection, hwork, hduplicates, hcorpus, hcapabilities]
    rfl
  rw [hbuilt, buildTopologyGraph, hedges, hnodes, Table.rows_ofRows_singleton,
    Table.rows_ofRows_singleton, sortedBy_singleton, sortedBy_singleton]

theorem loose_edgeRecords (c : Codec) :
    (looseState c).edgeRecords = [containmentOf c looseArtifact] := by
  rw [looseState, CompiledStages.state_edgeRecords, loose_graph, sortedBy_singleton]

/-- An edge has another id than the artifact. -/
theorem looseEdge_ne (c : Codec) : "artifact:a" ≠ (containmentOf c looseArtifact).edgeId := by
  intro h
  have hhead : (containmentOf c looseArtifact).edgeId.toList.head? = some 'e' :=
    stableEdgeId_head ..
  rw [← h] at hhead
  exact absurd hhead (by decide)

/-- Every record the validator walks cites the one piece of evidence. -/
theorem loose_walk (c : Codec) {P : List String → Prop} (h : P ["evidence:1"]) :
    ∀ entry ∈ recordEvidenceRefs (looseState c), P entry.2.1 := by
  refine forall_walked (List.forall_mem_nil _) (List.forall_mem_singleton.2 h)
    (List.forall_mem_nil _) (List.forall_mem_nil _) ?_ ?_ (List.forall_mem_nil _)
    (List.forall_mem_nil _) (List.forall_mem_nil _)
  · rw [loose_graph]
    exact List.forall_mem_singleton.2 h
  · rw [loose_graph]
    exact List.forall_mem_singleton.2 h

theorem loose_passable (c : Codec) : Passable loosePayload (looseState c) := by
  obtain ⟨hrepositories, hartifacts, hcapabilities, hclaims, hunknowns, hconflicts, hdiagnostics,
    hevidence⟩ := loose_records c
  have hedges := loose_edgeRecords c
  exact
    { ids := by
        have hgraph : ((looseState c).graphRecords.map GraphRecord.entityId).Nodup := by
          refine graphIds_nodup ?_ ?_ ?_
          all_goals rw [loose_graph]
          · exact List.nodup_singleton _
          · exact List.nodup_singleton _
          · exact List.forall_mem_singleton.2 (List.forall_mem_singleton.2 (looseEdge_ne c))
        simp only [idSets, List.forall_mem_cons, hrepositories, hartifacts, hcapabilities, hclaims,
          hunknowns, hconflicts, hedges]
        exact ⟨List.nodup_nil, List.nodup_singleton _, List.nodup_nil, List.nodup_nil,
          List.nodup_singleton _, List.nodup_nil, hgraph, List.nodup_nil, List.nodup_nil,
          List.nodup_nil, List.forall_mem_nil _⟩
      endpoints := by
        have hnode : "artifact:a" ∈ nodeIds (looseState c) := by
          refine mem_nodeIds ⟨artifactNode looseArtifact, ?_, rfl, rfl⟩
          rw [loose_graph]
          exact List.mem_singleton_self _
        rw [unresolvedEndpoints_eq_nil_iff, hedges]
        exact List.forall_mem_singleton.2 ⟨hnode, hnode⟩
      revisions := by
        rw [revisionsMissing, hrepositories]
        rfl
      paths := by
        rw [invalidPaths, hartifacts]
        decide
      conflicts := by
        rw [blockingConflicts, hconflicts]
        rfl
      evidence := by
        refine unresolvedEvidence_eq_nil_iff.2 (loose_walk c (P := Resolves (looseState c)) ?_)
        intro ref href
        rw [evidenceIds, hevidence]
        exact href
      backed := missingRequiredEvidence_eq_nil
        (loose_walk c (P := fun refs => refs ≠ []) (by decide))
      inference := rfl
      diagnosed := rfl
      diagnostics := by
        rw [preservedDiagnosticCount, hdiagnostics]
        rfl
      evidenced := rfl
      claimed := rfl
      stated := by
        rw [claimedAssertionIds, hclaims]
        rfl }

theorem loose_passed (c : Codec) :
    (validateTopology (statePacket c (looseState c)) (looseState c) [validatedBundle loosePayload]
      [] c quietEngine ⟨"1970-01-01T00:00:00Z"⟩).status = .passed := (loose_passable c).passed c

/-- The containment of the artifact has evidence that resolves, and is not qualified. -/
theorem containment_not_qualified :
    compileStages textCodec plainText (looseInputs textCodec) = .ok (looseStages textCodec) ∧
      (validateTopology (statePacket textCodec (looseState textCodec)) (looseState textCodec)
        [validatedBundle loosePayload] [] textCodec quietEngine
        ⟨"1970-01-01T00:00:00Z"⟩).status = .passed ∧
      ¬ ContainmentQualified textCodec plainText (looseStages textCodec)
        (looseState textCodec) := by
  refine ⟨loose_compiled _, loose_passed _, fun h => ?_⟩
  obtain ⟨-, hartifacts, -, -, -, -, -, hevidence⟩ := loose_records textCodec
  have hnodup : ((looseState textCodec).evidence.map EvidenceRecord.evidenceId).Nodup := by
    rw [hevidence]
    exact List.nodup_singleton _
  have hlookup : (QualificationIndex.build (looseState textCodec)).evidenceById.lookup
      "evidence:1" = some looseEvidence := by
    refine (Table.lookup_ofRows_of_nodup hnodup _ _).2 ⟨?_, rfl⟩
    rw [hevidence]
    exact List.mem_singleton_self _
  have hevidenced : Evidenced (looseState textCodec) (containmentOf textCodec looseArtifact) := by
    refine ⟨?_, List.ne_nil_of_mem (List.mem_filterMap.2 ⟨"evidence:1", ?_, hlookup⟩)⟩
    · rw [loose_edgeRecords]
      exact List.mem_singleton_self _
    · exact mem_sortedSet.2 (mem_sortedSet.2 (List.mem_singleton_self _))
  have hqualified := h looseArtifact (List.mem_singleton_self _) hevidenced
  have hartifact : looseArtifact ∈ (looseState textCodec).artifactRecords := by
    rw [hartifacts]
    exact List.mem_singleton_self _
  have hids := idsDistinct_of_passed (loose_passed textCodec)
  rcases (containment_qualified_iff hids hartifact hevidenced).1 hqualified with h | h | h
  · cases h
  · cases h
  · obtain ⟨record, hrecord⟩ := List.exists_mem_of_ne_nil _ h
    obtain ⟨hresolved, hfield⟩ := List.mem_filter.1 hrecord
    obtain ⟨ref, -, hfound⟩ := List.mem_filterMap.1 hresolved
    have hmem := (Table.mem_of_lookup_ofRows hfound).1
    rw [hevidence] at hmem
    obtain rfl := List.mem_singleton.1 hmem
    simp [looseEvidence] at hfield

end Qualification

end ConstellationTopology
