import ConstellationTopology.Publication.ProjectedRelation
import ConstellationTopology.Topology.Emitters
import ConstellationTopology.Validation.ReferenceClosure

set_option autoImplicit false

/-! # Whether a projected edge was projected

`relation_origin` recognizes the two projectors by the properties an edge carries, and their rules
ask only whether the claim the edge names may be projected. What the edge relates is not compared
with that claim, as `_exact_duplicate_rule` compares both endpoints with their hashes. So an edge
qualified under a projector is one the projector derives exactly when no edge carries its marks
beside another relation (`qualified_provenance_iff`). -/

namespace ConstellationTopology

namespace Qualification

/-! ## Provenance -/

section Provenance

variable (c : Codec) (text : PythonText) (state : TopologyState)

/-- Qualification accepts the edge as one of the producer. -/
def QualifiedAs (origin : RelationOrigin) (edge : EdgeRecord) : Prop :=
  (qualifyRelation text.str edge (QualificationIndex.build state)).qualified = true ∧
    (qualifyRelation text.str edge (QualificationIndex.build state)).origin = origin

/-- One of the derived edges names the claim and relates what the edge relates. -/
def DerivedFrom (derived : List EdgeRecord) (claim : SemanticClaimRecord) (edge : EdgeRecord) :
    Prop :=
  ∃ real ∈ derived, real.NamesClaim claim ∧ real.relation = edge.relation

/-- An edge accepted as a projector's is one that the projector derives from the claim the edge
    names, over the claims and artifacts of the state. -/
structure QualifiedProvenance : Prop where
  claims : ∀ edge ∈ state.edgeRecords, QualifiedAs text state .claimProjector edge →
    ∃ claim ∈ state.semanticClaims,
      namedClaim text.str edge (QualificationIndex.build state) = some claim ∧
        DerivedFrom (projectClaims c text.repr state.semanticClaims).edges claim edge
  work : ∀ edge ∈ state.edgeRecords, QualifiedAs text state .workProjector edge →
    ∃ claim ∈ state.semanticClaims,
      namedClaim text.str edge (QualificationIndex.build state) = some claim ∧
        DerivedFrom (projectWorkRelations c state.semanticClaims state.artifactRecords).edges
          claim edge

/-! ## Marks -/

/-- What qualification asks of an edge of the claim projector. -/
structure ClaimMarks (edge : EdgeRecord) (claim : SemanticClaimRecord) : Prop where
  no_resolution : edge.hasProperty "target_resolution" = false
  has_claim : edge.hasProperty "projected_from_claim_id" = true
  has_kind : edge.hasProperty "endpoint_kind" = true
  kind : endpointMatches edge
  admitted : Admits edge.edgeType .claimProjector
  evidenced : resolvedEvidence edge (QualificationIndex.build state) ≠ []
  named : namedClaim text.str edge (QualificationIndex.build state) = some claim
  eligible : eligibleForCanonicalProjection claim = true

/-- What qualification asks of an edge of the work projector. -/
structure WorkMarks (edge : EdgeRecord) (claim : SemanticClaimRecord) : Prop where
  exact_artifact : (edge.property "target_resolution").text? = some "exact-artifact"
  admitted : Admits edge.edgeType .workProjector
  evidenced : resolvedEvidence edge (QualificationIndex.build state) ≠ []
  named : namedClaim text.str edge (QualificationIndex.build state) = some claim
  eligible : eligibleForCanonicalProjection claim = true

/-- The edge carries the marks of a projector and names a claim that states another relation, or
    none. -/
def LookAlike (edge : EdgeRecord) : Prop :=
  (∃ claim, ClaimMarks text state edge claim ∧ claimRelation claim ≠ some edge.relation) ∨
    ∃ claim, WorkMarks text state edge claim ∧
      workStatedRelation c state.artifactRecords claim ≠ some edge.relation

end Provenance

section Marks

variable {text : PythonText} {state : TopologyState} {edge : EdgeRecord}

/-- An edge is accepted as the claim projector's exactly when it carries its marks. -/
theorem qualifiedAs_claimProjector_iff :
    QualifiedAs text state .claimProjector edge ↔ ∃ claim, ClaimMarks text state edge claim := by
  constructor
  · rintro ⟨hqualified, horigin⟩
    change relationOrigin edge _ = _ at horigin
    obtain ⟨hadmits, hevidence, judged, hrule, hjudged⟩ := qualified_iff.1 hqualified
    rw [horigin] at hadmits hrule
    obtain rfl := Option.some.inj hrule
    obtain ⟨hkind, hgate⟩ := claimProjectorRule_qualified_iff.1 hjudged
    obtain ⟨claim, hnamed, heligible⟩ := claimGate_eq_none_iff.1 hgate
    obtain ⟨hresolution, hclaim, hhas⟩ := relationOrigin_claimProjector_iff.1 horigin
    exact ⟨claim, hresolution, hclaim, hhas, hkind, hadmits, hevidence, hnamed, heligible⟩
  · rintro ⟨claim, hmarks⟩
    have horigin : relationOrigin edge (QualificationIndex.build state) = .claimProjector :=
      relationOrigin_claimProjector_iff.2
        ⟨hmarks.no_resolution, hmarks.has_claim, hmarks.has_kind⟩
    refine ⟨qualified_iff.2 ?_, horigin⟩
    rw [horigin]
    exact ⟨hmarks.admitted, hmarks.evidenced, _, rfl, claimProjectorRule_qualified_iff.2
      ⟨hmarks.kind, claimGate_eq_none_iff.2 ⟨claim, hmarks.named, hmarks.eligible⟩⟩⟩

/-- An edge is accepted as the work projector's exactly when it carries its marks. -/
theorem qualifiedAs_workProjector_iff :
    QualifiedAs text state .workProjector edge ↔ ∃ claim, WorkMarks text state edge claim := by
  constructor
  · rintro ⟨hqualified, horigin⟩
    change relationOrigin edge _ = _ at horigin
    obtain ⟨hadmits, hevidence, judged, hrule, hjudged⟩ := qualified_iff.1 hqualified
    rw [horigin] at hadmits hrule
    obtain rfl := Option.some.inj hrule
    obtain ⟨hgate, hexact⟩ := workProjectorRule_qualified_iff.1 hjudged
    obtain ⟨claim, hnamed, heligible⟩ := claimGate_eq_none_iff.1 hgate
    exact ⟨claim, hexact, hadmits, hevidence, hnamed, heligible⟩
  · rintro ⟨claim, hmarks⟩
    have horigin : relationOrigin edge (QualificationIndex.build state) = .workProjector :=
      relationOrigin_workProjector_iff.2 (hasProperty_of_text hmarks.exact_artifact)
    refine ⟨qualified_iff.2 ?_, horigin⟩
    rw [horigin]
    exact ⟨hmarks.admitted, hmarks.evidenced, _, rfl, workProjectorRule_qualified_iff.2
      ⟨claimGate_eq_none_iff.2 ⟨claim, hmarks.named, hmarks.eligible⟩, hmarks.exact_artifact⟩⟩

end Marks

/-! ## What the projectors derive -/

section Derived

variable {c : Codec} {claims : List SemanticClaimRecord} {claim : SemanticClaimRecord}
  {edge : EdgeRecord}

/-- Two edges of the projectors with one id relate the same and name the same claim. -/
theorem same_of_edgeId (hc : c.Faithful) {claim' : SemanticClaimRecord} {edge' : EdgeRecord}
    (h : ProjectedFrom c claim edge) (h' : ProjectedFrom c claim' edge')
    (hid : edge.edgeId = edge'.edgeId) :
    edge.relation = edge'.relation ∧ claim.claimId = claim'.claimId := by
  rw [h.id_stated, h'.id_stated] at hid
  obtain ⟨hsource, htarget, htype, hproperties⟩ := stableEdgeId_inj hc hid
  refine ⟨?_, ?_⟩
  · unfold EdgeRecord.relation
    rw [hsource, htarget, htype, h.outbound, h'.outbound]
  · have hnames := hproperties "projected_from_claim_id" (by decide)
    rw [h.lookup_claim, h'.lookup_claim] at hnames
    exact Json.str.inj (Option.some.inj hnames)

/-- Keeping one edge per id loses no relation of a claim. -/
theorem exists_kept (hc : c.Faithful) {rows : List EdgeRecord}
    (hrows : ∀ row ∈ rows, ∃ claim ∈ claims, ProjectedFrom c claim row)
    (hfrom : ProjectedFrom c claim edge) (hedge : edge ∈ rows) :
    DerivedFrom (sortedBy EdgeRecord.edgeId (Table.ofRows EdgeRecord.edgeId rows).rows)
      claim edge := by
  have hkept : (Table.ofRows EdgeRecord.edgeId rows).lookup edge.edgeId ≠ none := by
    rw [ne_eq, Table.lookup_ofRows_eq_none_iff]
    exact fun hnone => hnone (List.mem_map_of_mem hedge)
  obtain ⟨kept, hlookup⟩ := Option.ne_none_iff_exists'.1 hkept
  obtain ⟨hmem, hid⟩ := Table.mem_of_lookup_ofRows hlookup
  obtain ⟨claim', -, hfrom'⟩ := hrows kept hmem
  obtain ⟨hrelation, hsame⟩ := same_of_edgeId hc hfrom' hfrom hid
  refine ⟨kept, mem_sortedBy.2 (Table.lookup_mem hlookup), ?_, hrelation⟩
  have hnames := hfrom'.names
  rwa [EdgeRecord.NamesClaim, hsame] at hnames

/-- A projected edge that names a claim comes from it. -/
theorem eq_of_names (hunique : (claims.map SemanticClaimRecord.claimId).Nodup)
    {claim' : SemanticClaimRecord} (hclaim : claim ∈ claims) (hclaim' : claim' ∈ claims)
    (hfrom : ProjectedFrom c claim' edge) (hnames : edge.NamesClaim claim) : claim' = claim := by
  have hid : claim'.claimId = claim.claimId := Json.str.inj (hfrom.names.symm.trans hnames)
  exact List.inj_on_of_nodup_map hunique hclaim' hclaim hid

theorem derivedFrom_claims_iff (hc : c.Faithful) {repr : String → String}
    (hunique : (claims.map SemanticClaimRecord.claimId).Nodup) (hclaim : claim ∈ claims)
    (heligible : eligibleForCanonicalProjection claim = true) :
    DerivedFrom (projectClaims c repr claims).edges claim edge ↔
      claimRelation claim = some edge.relation := by
  constructor
  · rintro ⟨real, hreal, hnames, hrelation⟩
    obtain ⟨claim', hclaim', projected, hprojected, hmem⟩ := mem_projected_edges hreal
    obtain ⟨hfrom, hstated, -⟩ := mem_projectClaim_edges hprojected hmem
    obtain rfl := eq_of_names hunique hclaim hclaim' hfrom hnames
    rw [hstated, hrelation]
  · intro hstated
    obtain ⟨projected, real, hprojected, hmem, hrelation⟩ :=
      exists_projectClaim_edge c repr heligible hstated
    have hfrom := (mem_projectClaim_edges hprojected hmem).1
    have hrows : ∀ row ∈ (projectedClaims c repr claims).flatMap (fun entry => entry.2.edges),
        ∃ claim ∈ claims, ProjectedFrom c claim row := by
      intro row hrow
      obtain ⟨⟨claim', projected'⟩, hentry, hedge⟩ := List.mem_flatMap.1 hrow
      obtain ⟨hclaim', hprojected'⟩ := mem_projectedClaims.1 hentry
      exact ⟨claim', hclaim', (mem_projectClaim_edges hprojected' hedge).1⟩
    obtain ⟨kept, hkept, hnames, hsame⟩ := exists_kept hc hrows hfrom
      (List.mem_flatMap.2 ⟨_, mem_projectedClaims.2 ⟨hclaim, hprojected⟩, hmem⟩)
    exact ⟨kept, hkept, hnames, hsame.trans hrelation⟩

theorem derivedFrom_work_iff (hc : c.Faithful) {artifacts : List ArtifactRecord}
    (hunique : (claims.map SemanticClaimRecord.claimId).Nodup) (hclaim : claim ∈ claims)
    (heligible : eligibleForCanonicalProjection claim = true) :
    DerivedFrom (projectWorkRelations c claims artifacts).edges claim edge ↔
      workStatedRelation c artifacts claim = some edge.relation := by
  constructor
  · rintro ⟨real, hreal, hnames, hrelation⟩
    obtain ⟨claim', hclaim', relation, hprojected, rfl⟩ := mem_work_edges hreal
    obtain ⟨hfrom, hstated, -⟩ := projectWorkClaim_edge hprojected
    obtain rfl := eq_of_names hunique hclaim hclaim' hfrom hnames
    rw [hstated, hrelation]
  · intro hstated
    obtain ⟨relation, hprojected, hrelation⟩ := exists_projectWorkClaim_edge heligible hstated
    have hfrom := (projectWorkClaim_edge hprojected).1
    have hrows : ∀ row ∈ (projectedWork c (WorkTargetIndex.build artifacts) claims).map
        (fun entry => entry.2.edge), ∃ claim ∈ claims, ProjectedFrom c claim row := by
      intro row hrow
      obtain ⟨⟨claim', relation'⟩, hentry, rfl⟩ := List.mem_map.1 hrow
      obtain ⟨hclaim', hprojected'⟩ := mem_projectedWork.1 hentry
      exact ⟨claim', hclaim', (projectWorkClaim_edge hprojected').1⟩
    obtain ⟨kept, hkept, hnames, hsame⟩ := exists_kept hc hrows hfrom
      (List.mem_map.2 ⟨_, mem_projectedWork.2 ⟨hclaim, hprojected⟩, rfl⟩)
    exact ⟨kept, hkept, hnames, hsame.trans hrelation⟩

end Derived

/-! ## The result -/

section Result

variable {c : Codec} {text : PythonText} {state : TopologyState} {edge : EdgeRecord}

theorem namedClaim_mem {claim : SemanticClaimRecord}
    (h : namedClaim text.str edge (QualificationIndex.build state) = some claim) :
    claim ∈ state.semanticClaims := (Table.mem_of_lookup_ofRows h).1

/-- With the claims told apart by their ids, provenance is real where no edge is a look-alike. -/
theorem qualifiedProvenance_iff (hc : c.Faithful)
    (hunique : (state.semanticClaims.map SemanticClaimRecord.claimId).Nodup) :
    QualifiedProvenance c text state ↔ ∀ edge ∈ state.edgeRecords, ¬ LookAlike c text state edge := by
  constructor
  · intro h edge hedge hlook
    rcases hlook with ⟨claim, hmarks, hother⟩ | ⟨claim, hmarks, hother⟩
    · obtain ⟨claim', hclaim', hnamed, hderived⟩ :=
        h.claims edge hedge (qualifiedAs_claimProjector_iff.2 ⟨claim, hmarks⟩)
      obtain rfl := Option.some.inj (hnamed.symm.trans hmarks.named)
      exact hother ((derivedFrom_claims_iff hc hunique hclaim' hmarks.eligible).1 hderived)
    · obtain ⟨claim', hclaim', hnamed, hderived⟩ :=
        h.work edge hedge (qualifiedAs_workProjector_iff.2 ⟨claim, hmarks⟩)
      obtain rfl := Option.some.inj (hnamed.symm.trans hmarks.named)
      exact hother ((derivedFrom_work_iff hc hunique hclaim' hmarks.eligible).1 hderived)
  · intro h
    refine ⟨?_, ?_⟩
    · intro edge hedge hqualified
      obtain ⟨claim, hmarks⟩ := qualifiedAs_claimProjector_iff.1 hqualified
      have hclaim := namedClaim_mem hmarks.named
      refine ⟨claim, hclaim, hmarks.named, ?_⟩
      refine (derivedFrom_claims_iff hc hunique hclaim hmarks.eligible).2 ?_
      by_contra hother
      exact h edge hedge (.inl ⟨claim, hmarks, hother⟩)
    · intro edge hedge hqualified
      obtain ⟨claim, hmarks⟩ := qualifiedAs_workProjector_iff.1 hqualified
      have hclaim := namedClaim_mem hmarks.named
      refine ⟨claim, hclaim, hmarks.named, ?_⟩
      refine (derivedFrom_work_iff hc hunique hclaim hmarks.eligible).2 ?_
      by_contra hother
      exact h edge hedge (.inr ⟨claim, hmarks, hother⟩)

end Result

/-! ## In a compiled state -/

section Compiled

variable {c : Codec} {text : PythonText} {inputs : CompileInputs} {stages : CompiledStages}
  {derived : DerivedDomains} {edge : EdgeRecord}

/-- An edge without the two properties that mark the projectors looks like neither's. -/
theorem not_lookAlike_of_unmarked {state : TopologyState}
    (hresolution : edge.hasProperty "target_resolution" = false)
    (hkind : edge.hasProperty "endpoint_kind" = false) : ¬ LookAlike c text state edge := by
  intro hlook
  rcases hlook with ⟨claim, hmarks, -⟩ | ⟨claim, hmarks, -⟩
  · rw [hmarks.has_kind] at hkind
    cases hkind
  · rw [hasProperty_of_text hmarks.exact_artifact] at hresolution
    cases hresolution

/-- A projected edge names, in the state, the stamped claim it was projected from. -/
theorem namedClaim_stamped (hstr : ∀ value, text.str (.str value) = value)
    (hcompiled : compileStages c text inputs = .ok stages)
    (hunique : ((stages.state derived).semanticClaims.map SemanticClaimRecord.claimId).Nodup)
    {claim : SemanticClaimRecord} (hclaim : claim ∈ stages.reconciliation.claims)
    (hfrom : ProjectedFrom c claim edge) :
    ∃ entities, namedClaim text.str edge (QualificationIndex.build (stages.state derived)) =
      some (claim.stamped entities) := by
  obtain ⟨-, -, entities, hclaims⟩ := compiled_projection hcompiled
  refine ⟨entities, ?_⟩
  unfold namedClaim
  rw [hfrom.names, hstr]
  refine (Table.lookup_ofRows_of_nodup hunique _ _).2 ⟨mem_sortedBy.2 ?_, rfl⟩
  rw [hclaims]
  exact List.mem_map_of_mem hclaim

/-- **In a compiled state only a declared relationship can be a look-alike.** -/
theorem lookAlike_declared (hstr : ∀ value, text.str (.str value) = value)
    (hcompiled : compileStages c text inputs = .ok stages)
    (hunique : ((stages.state derived).semanticClaims.map SemanticClaimRecord.claimId).Nodup)
    (hedge : edge ∈ (stages.state derived).edgeRecords)
    (hlook : LookAlike c text (stages.state derived) edge) :
    ∃ packet ∈ inputs.packets, ∃ payload ∈ packet.payload, edge ∈ payload.relationships := by
  obtain ⟨hprojection, hwork, -⟩ := compiled_projection hcompiled
  obtain ⟨hduplicates, hcorpus⟩ := compiled_corpus hcompiled
  have hemitted := compiled_emitted hcompiled hedge
  cases hemitted with
  | declared h => exact mem_normalized_relationships hcompiled h
  | claim h =>
      rw [hprojection] at h
      obtain ⟨claim, hclaim, projected, hprojected, hmem⟩ := mem_projected_edges h
      obtain ⟨hfrom, hstated, hresolution, -, -⟩ := mem_projectClaim_edges hprojected hmem
      rcases hlook with ⟨named, hmarks, hother⟩ | ⟨named, hmarks, -⟩
      · obtain ⟨entities, hnamed⟩ := namedClaim_stamped hstr hcompiled hunique hclaim hfrom
        obtain rfl := Option.some.inj (hnamed.symm.trans hmarks.named)
        exact absurd hstated hother
      · rw [hasProperty_of_text hmarks.exact_artifact] at hresolution
        cases hresolution
  | work h =>
      rw [hwork] at h
      obtain ⟨claim, hclaim, relation, hprojected, rfl⟩ := mem_work_edges h
      obtain ⟨hfrom, hstated, hresolution⟩ := projectWorkClaim_edge hprojected
      rcases hlook with ⟨named, hmarks, -⟩ | ⟨named, hmarks, hother⟩
      · rw [hmarks.no_resolution] at hresolution
        cases hresolution
      · obtain ⟨entities, hnamed⟩ := namedClaim_stamped hstr hcompiled hunique hclaim hfrom
        obtain rfl := Option.some.inj (hnamed.symm.trans hmarks.named)
        refine absurd ?_ hother
        rw [← hstated]
        exact workStatedRelation_perm (sortedBy_perm _ _) claim
  | duplicate h =>
      rw [hduplicates] at h
      obtain ⟨cluster, -, evidenceRefs, member, rfl⟩ := mem_duplicate_edges c h
      exact absurd hlook (not_lookAlike_of_unmarked rfl rfl)
  | corpus h =>
      rw [hcorpus] at h
      obtain ⟨sourceId, -, targetId, confidence, evidenceRefs, rfl⟩ := mem_corpusScope_edges c h
      exact absurd hlook (not_lookAlike_of_unmarked rfl rfl)
  | upstream => exact absurd hlook (not_lookAlike_of_unmarked rfl rfl)
  | owner => exact absurd hlook (not_lookAlike_of_unmarked rfl rfl)
  | containment => exact absurd hlook (not_lookAlike_of_unmarked rfl rfl)
  | listed => exact absurd hlook (not_lookAlike_of_unmarked rfl rfl)
  | implementer => exact absurd hlook (not_lookAlike_of_unmarked rfl rfl)
  | exposer => exact absurd hlook (not_lookAlike_of_unmarked rfl rfl)

end Compiled

/-- **Qualified provenance.** In a state that passes validation, the edges accepted as a projector's
    are ones it derives exactly when no edge is a look-alike; and in a compiled state only a
    relationship that a packet declares can be one. -/
theorem qualified_provenance_iff (c : Codec) (hc : c.Faithful) (text : PythonText)
    (hstr : ∀ value, text.str (.str value) = value) (engine : SchemaEngine)
    (packet : TopologyPacket) (state : TopologyState) (inputBundles : List RepositoryModelBundle)
    (corpusBundles : List CorpusIntelligenceBundle) (createdAt : Timestamp)
    (hpassed : (validateTopology packet state inputBundles corpusBundles c engine
      createdAt).status = .passed) :
    (QualifiedProvenance c text state ↔
        ∀ edge ∈ state.edgeRecords, ¬ LookAlike c text state edge) ∧
      ∀ inputs stages derived, compileStages c text inputs = .ok stages →
        state = stages.state derived → ∀ edge ∈ state.edgeRecords, LookAlike c text state edge →
          ∃ packet ∈ inputs.packets, ∃ payload ∈ packet.payload, edge ∈ payload.relationships := by
  have hunique : (state.semanticClaims.map SemanticClaimRecord.claimId).Nodup :=
    ids_nodup_of_passed hpassed "semantic-claim" "Semantic-Claim" (by simp [idSets])
  refine ⟨qualifiedProvenance_iff hc hunique, ?_⟩
  intro inputs stages derived hcompiled hstate edge hedge hlook
  subst hstate
  exact lookAlike_declared hstr hcompiled hunique hedge hlook

/-! ## A dependency on another repository -/

/-- The statement that a repository depends on a package. -/
def packageAssertion : RepositoryModelAssertion where
  assertionId := "assertion:1"
  subjectId := "repo:a"
  predicate := "package.dependency"
  object := "numpy"
  sourcePath := "setup.py"
  startLine := 1
  endLine := 1
  evidenceExcerpt := "numpy"
  sourceContentHash := "sha256:11"
  extractorId := "setup"
  evidenceClass := .declared
  authority := "source"
  confidence := "high"
  startLine_positive := Nat.one_pos
  endLine_positive := Nat.one_pos

/-- The evidence of the statement. -/
def packageEvidence : EvidenceRecord where
  evidenceId := "evidence:1"
  subjectId := "repo:a"
  field := some "package.dependency"
  stage := assertionEvidenceStage
  evidenceClass := .declared
  sourceType := .file
  sourceRef :=
    { packetId := some "packet:in"
      sourcePath_portable := noPath_portable
      lineNumber_positive := noLine_positive
      locator_valid := noLocator_valid
      lineNumber_agrees := noLocator_agrees }
  value := assertionEvidenceValue packageAssertion
  confidence := .deterministic
  producer := "repo-model"
  producerVersion := "1.0.0"
  createdAt := assertionEvidenceCreatedAt

/-- The claim of the statement. -/
def packageClaim : SemanticClaimRecord where
  claimId := "claim:1"
  subjectId := "repo:a"
  predicate := "package.dependency"
  object := "numpy"
  sourceAssertionIds := ["assertion:1"]
  evidenceRefs := ["evidence:1"]
  confidence := .deterministic
  authority := .validatedMachine
  cardinality := .set
  support := .set
  authority_agrees := rfl
  conflictIds_confirmed := noConflict_confirmed

/-- A dependency that carries the marks of the claim's projection. -/
def markedEdge (targetId : String) : EdgeRecord where
  edgeId := "edge:1"
  sourceId := "repo:a"
  targetId := targetId
  edgeType := .dependsOn
  properties := [("projected_from_claim_id", .str "claim:1"),
    ("endpoint_kind", .str "external-package-reference")]
  evidenceRefs := ["evidence:1"]

/-- The state in which the edge runs to `targetId`. -/
def markedState (targetId : String) : TopologyState where
  semanticClaims := [packageClaim]
  edgeRecords := [markedEdge targetId]
  graphRecords :=
    [{ recordType := .node, label := "Repository", entityId := "repo:a" },
      { recordType := .node, label := "Target", entityId := targetId },
      edgeGraphRecord (markedEdge targetId)]
  evidence := [packageEvidence]

/-- The payload that makes the statement. -/
def packagePayload : RepositoryModelPayload where
  assertions := some [packageAssertion]

/-- Validation passes wherever the edge runs to. -/
theorem marked_passed (c : Codec) (targetId : String) (hsource : targetId ≠ "repo:a")
    (hedge : targetId ≠ "edge:1") :
    (validateTopology (statePacket c (markedState targetId)) (markedState targetId)
      [validatedBundle packagePayload] [] c quietEngine ⟨"1970-01-01T00:00:00Z"⟩).status =
        .passed := by
  have hpassable : Passable packagePayload (markedState targetId) :=
    { ids := by simp [idSets, markedState, markedEdge, edgeGraphRecord, hsource.symm, hedge]
      endpoints := by
        rw [unresolvedEndpoints_eq_nil_iff]
        simp [markedState, markedEdge, nodeIds]
      revisions := rfl
      paths := rfl
      conflicts := rfl
      evidence := rfl
      backed := rfl
      inference := rfl
      diagnosed := rfl
      diagnostics := rfl
      evidenced := rfl
      claimed := rfl
      stated := rfl }
  exact hpassable.passed c

theorem markedClaim_named (targetId : String) :
    namedClaim plainText.str (markedEdge targetId)
      (QualificationIndex.build (markedState targetId)) = some packageClaim := by
  have hnodup : ([packageClaim].map SemanticClaimRecord.claimId).Nodup := List.nodup_singleton _
  exact (Table.lookup_ofRows_of_nodup hnodup _ _).2 ⟨List.mem_singleton_self _, rfl⟩

/-- The edge carries every mark of the claim projector wherever it runs to. -/
theorem marked_marks (targetId : String) :
    ClaimMarks plainText (markedState targetId) (markedEdge targetId) packageClaim where
  no_resolution := rfl
  has_claim := rfl
  has_kind := rfl
  kind := rfl
  admitted := (by decide : Admits .dependsOn .claimProjector)
  evidenced := by
    intro hnone
    have hnodup : ([packageEvidence].map EvidenceRecord.evidenceId).Nodup := List.nodup_singleton _
    have hlookup : (QualificationIndex.build (markedState targetId)).evidenceById.lookup
        "evidence:1" = some packageEvidence :=
      (Table.lookup_ofRows_of_nodup hnodup _ _).2 ⟨List.mem_singleton_self _, rfl⟩
    have hmem : packageEvidence ∈ resolvedEvidence (markedEdge targetId)
        (QualificationIndex.build (markedState targetId)) :=
      List.mem_filterMap.2 ⟨_, mem_sortedSet.2 (List.mem_singleton_self _), hlookup⟩
    rw [hnone] at hmem
    cases hmem
  named := markedClaim_named targetId
  eligible := eligible_iff.2 ⟨by decide +kernel, rfl⟩

/-- Where the edge runs to the package the claim names, provenance is real. -/
theorem qualified_provenance_package :
    (validateTopology (statePacket textCodec (markedState "package:numpy"))
        (markedState "package:numpy") [validatedBundle packagePayload] [] textCodec quietEngine
        ⟨"1970-01-01T00:00:00Z"⟩).status = .passed ∧
      QualifiedProvenance textCodec plainText (markedState "package:numpy") := by
  have hpassed := marked_passed textCodec "package:numpy" (by decide) (by decide)
  refine ⟨hpassed, (qualified_provenance_iff textCodec textCodec_faithful plainText (fun _ => rfl)
    quietEngine _ _ _ _ _ hpassed).1.2 ?_⟩
  intro edge hedge hlook
  obtain rfl := List.mem_singleton.1 hedge
  rcases hlook with ⟨claim, hmarks, hother⟩ | ⟨claim, hmarks, -⟩
  · obtain rfl := Option.some.inj ((markedClaim_named _).symm.trans hmarks.named)
    exact hother rfl
  · cases hmarks.exact_artifact

/-- A dependency on another repository that carries the marks of the claim passes validation and is
    qualified as the claim projector's, which derives no such edge. -/
theorem provenance_not_real :
    (validateTopology (statePacket textCodec (markedState "repo:b")) (markedState "repo:b")
        [validatedBundle packagePayload] [] textCodec quietEngine ⟨"1970-01-01T00:00:00Z"⟩).status =
          .passed ∧
      QualifiedAs plainText (markedState "repo:b") .claimProjector (markedEdge "repo:b") ∧
        ¬ QualifiedProvenance textCodec plainText (markedState "repo:b") := by
  have hpassed := marked_passed textCodec "repo:b" (by decide) (by decide)
  refine ⟨hpassed, qualifiedAs_claimProjector_iff.2 ⟨_, marked_marks _⟩, fun hreal => ?_⟩
  have hunique : ((markedState "repo:b").semanticClaims.map SemanticClaimRecord.claimId).Nodup :=
    List.nodup_singleton _
  refine (qualifiedProvenance_iff textCodec_faithful hunique).1 hreal _
    (List.mem_singleton_self _) (.inl ⟨packageClaim, marked_marks _, ?_⟩)
  decide

end Qualification

end ConstellationTopology
