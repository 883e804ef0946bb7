import ConstellationTopology.Library.Fallible
import ConstellationTopology.Library.JsonText
import ConstellationTopology.Topology.WorkProjection

set_option autoImplicit false

/-! # What the work projection emits

Each eligible claim of `topology/work_projection.py` has one edge, and whatever else is emitted
belongs to one of them. The object of a claim is an artifact by its id or by the path of exactly
one, and else a reference that is never an artifact, as long as no artifact bears the id of the
reference (`work_exact_iff`). -/

namespace ConstellationTopology

/-! ## What an object names -/

section Named

variable (artifacts : List ArtifactRecord) (object : String)

/-- The object is the id of an artifact, or the path of exactly one. -/
def NamesArtifact : Prop :=
  object ∈ artifacts.map ArtifactRecord.artifactId ∨
    (groupOf ArtifactRecord.sourcePath object artifacts).length = 1

instance : Decidable (NamesArtifact artifacts object) := by
  unfold NamesArtifact
  infer_instance

/-- The artifact the object names; an id goes before a path. -/
def IsNamed (artifact : ArtifactRecord) : Prop :=
  artifact ∈ artifacts ∧ (artifact.artifactId = object ∨
    object ∉ artifacts.map ArtifactRecord.artifactId ∧
      groupOf ArtifactRecord.sourcePath object artifacts = [artifact])

variable {artifacts object}

theorem exists_isNamed (h : NamesArtifact artifacts object) :
    ∃ artifact, IsNamed artifacts object artifact := by
  by_cases hid : object ∈ artifacts.map ArtifactRecord.artifactId
  · obtain ⟨artifact, hmem, hartifact⟩ := List.mem_map.1 hid
    exact ⟨artifact, hmem, .inl hartifact⟩
  · obtain ⟨artifact, hgroup⟩ := List.length_eq_one_iff.1 (h.resolve_left hid)
    have hmem : artifact ∈ groupOf ArtifactRecord.sourcePath object artifacts := by
      rw [hgroup]
      exact List.mem_singleton_self _
    exact ⟨artifact, (mem_groupOf.1 hmem).1, .inr ⟨hid, hgroup⟩⟩

theorem namesArtifact_of_isNamed {artifact : ArtifactRecord}
    (h : IsNamed artifacts object artifact) : NamesArtifact artifacts object := by
  rcases h.2 with hid | ⟨_, hgroup⟩
  · exact .inl (List.mem_map.2 ⟨artifact, h.1, hid⟩)
  · exact .inr (by rw [hgroup, List.length_singleton])

theorem length_artifactsAt : (artifactsAt artifacts object).length =
    (groupOf ArtifactRecord.sourcePath object artifacts).length := by
  rw [artifactsAt, (sortedBy_perm _ _).length_eq, List.length_map]

/-- The archive paths are paths, so the object is looked up among the ids and the paths only. -/
theorem resolve_eq : (WorkTargetIndex.build artifacts).resolve object =
    if object ∈ artifacts.map ArtifactRecord.artifactId then (some object, [object])
    else (resolveMatches (artifactsAt artifacts object)).getD (none, []) := by
  unfold WorkTargetIndex.resolve WorkTargetIndex.build
  by_cases harchive : isArchiveMember object
  · -- an archive path is looked up again, among the same paths
    simp [harchive]
  · simp [harchive, resolveMatches]

theorem resolve_of_isNamed {artifact : ArtifactRecord} (h : IsNamed artifacts object artifact) :
    ∃ found, (WorkTargetIndex.build artifacts).resolve object =
      (some artifact.artifactId, found) := by
  rw [resolve_eq]
  by_cases hid : object ∈ artifacts.map ArtifactRecord.artifactId
  · rw [if_pos hid]
    rcases h.2 with rfl | ⟨hnot, _⟩
    · exact ⟨_, rfl⟩
    · exact absurd hid hnot
  · rw [if_neg hid]
    rcases h.2 with rfl | ⟨_, hgroup⟩
    · exact absurd (List.mem_map_of_mem h.1) hid
    · rw [artifactsAt, hgroup]
      exact ⟨_, rfl⟩

theorem isNamed_unique {artifact other : ArtifactRecord} (h : IsNamed artifacts object artifact)
    (hother : IsNamed artifacts object other) : artifact.artifactId = other.artifactId := by
  obtain ⟨found, hresolve⟩ := resolve_of_isNamed h
  obtain ⟨found', hresolve'⟩ := resolve_of_isNamed hother
  exact Option.some.inj (congrArg Prod.fst (hresolve.symm.trans hresolve'))

theorem resolve_of_not_named (h : ¬ NamesArtifact artifacts object) :
    (WorkTargetIndex.build artifacts).resolve object = (none, artifactsAt artifacts object) := by
  obtain ⟨hid, hlength⟩ := not_or.1 h
  rw [resolve_eq, if_neg hid]
  rw [← length_artifactsAt] at hlength
  match hfound : artifactsAt artifacts object with
  | [] => rfl
  | [only] =>
      rw [hfound] at hlength
      exact absurd rfl hlength
  | first :: second :: rest => rfl

/-- Where an object names no artifact, it matches several or none. -/
theorem artifactsAt_eq_nil_iff (h : ¬ NamesArtifact artifacts object) :
    artifactsAt artifacts object = [] ↔
      ¬ 2 ≤ (groupOf ArtifactRecord.sourcePath object artifacts).length := by
  have hlength := (not_or.1 h).2
  rw [← List.length_eq_zero_iff, length_artifactsAt]
  omega

end Named

/-! ## What a claim states -/

/-- The row of the taxonomy for an eligible claim. -/
def workRow (claim : SemanticClaimRecord) : Option (EdgeType × Bool) :=
  if eligibleForCanonicalProjection claim then workEdgeProjections.lookup claim.predicate else none

/-- The endpoint of an edge that stands for the subject of the claim. -/
def EdgeRecord.subjectEnd (edge : EdgeRecord) (reverse : Bool) : String :=
  if reverse then edge.targetId else edge.sourceId

/-- The endpoint of an edge that stands for the object of the claim. -/
def EdgeRecord.objectEnd (edge : EdgeRecord) (reverse : Bool) : String :=
  if reverse then edge.sourceId else edge.targetId

section Stated

variable {c : Codec} {artifacts : List ArtifactRecord} {claim : SemanticClaimRecord}

theorem projectWorkClaim_eq_map {index : WorkTargetIndex} :
    projectWorkClaim c index claim =
      (workRow claim).map fun row => workRelation c index claim row.1 row.2 := by
  unfold projectWorkClaim workRow
  split
  · rfl
  · rfl

@[simp] theorem subjectEnd_relationEdge (targetId : String) (edgeType : EdgeType) (reverse : Bool)
    (resolution : String) :
    (relationEdge c claim targetId edgeType reverse resolution).subjectEnd reverse =
      claim.subjectId := by
  cases reverse with
  | false => rfl
  | true => rfl

@[simp] theorem objectEnd_relationEdge (targetId : String) (edgeType : EdgeType) (reverse : Bool)
    (resolution : String) :
    (relationEdge c claim targetId edgeType reverse resolution).objectEnd reverse = targetId := by
  cases reverse with
  | false => rfl
  | true => rfl

theorem workRelation_of_isNamed {artifact : ArtifactRecord} (edgeType : EdgeType) (reverse : Bool)
    (h : IsNamed artifacts claim.object artifact) :
    workRelation c (WorkTargetIndex.build artifacts) claim edgeType reverse =
      ⟨relationEdge c claim artifact.artifactId edgeType reverse "exact-artifact", none, none⟩ := by
  obtain ⟨found, hresolve⟩ := resolve_of_isNamed h
  unfold workRelation
  rw [hresolve]

theorem workRelation_of_not_named (edgeType : EdgeType) (reverse : Bool)
    (h : ¬ NamesArtifact artifacts claim.object) :
    ∃ resolution, workRelation c (WorkTargetIndex.build artifacts) claim edgeType reverse =
      ⟨relationEdge c claim (externalTargetId c claim.object) edgeType reverse resolution,
        some (externalTarget claim (externalTargetId c claim.object)
          (artifactsAt artifacts claim.object) resolution),
        if artifactsAt artifacts claim.object = [] then none
        else some (ambiguousUnknown c claim (artifactsAt artifacts claim.object))⟩ := by
  unfold workRelation
  rw [resolve_of_not_named h]
  exact ⟨_, rfl⟩

end Stated

/-! ## Exactness -/

section Exact

variable (c : Codec) (claims : List SemanticClaimRecord) (artifacts : List ArtifactRecord)

/-- The id of the unknown about the object of a claim. -/
def workUnknownId (claim : SemanticClaimRecord) : String :=
  (ambiguousUnknown c claim (artifactsAt artifacts claim.object)).unknownId

/-- An edge, and what is emitted beside it, is what a claim with a row of the taxonomy states. -/
structure ProjectsExactly (projection : WorkProjection) (claim : SemanticClaimRecord)
    (row : EdgeType × Bool) (edge : EdgeRecord) : Prop where
  names : edge.properties.lookup "projected_from_claim_id" = some (.str claim.claimId)
  edgeType : edge.edgeType = row.1
  outbound : edge.direction = .outbound
  subject : edge.subjectEnd row.2 = claim.subjectId
  artifact_iff : edge.objectEnd row.2 ∈ artifacts.map ArtifactRecord.artifactId ↔
    NamesArtifact artifacts claim.object
  named : ∀ artifact, IsNamed artifacts claim.object artifact →
    edge.objectEnd row.2 = artifact.artifactId
  reference : ¬ NamesArtifact artifacts claim.object →
    ∃ node ∈ projection.nodes, node.entityId = edge.objectEnd row.2 ∧ node.label = "WorkReference"
  unknown_iff : ¬ NamesArtifact artifacts claim.object →
    ((∃ unknown ∈ projection.unknowns, unknown.unknownId = workUnknownId c artifacts claim) ↔
      2 ≤ (groupOf ArtifactRecord.sourcePath claim.object artifacts).length)
  entities : ∃ ids, projection.entitiesByClaim.lookup claim.claimId = some (claim.claimId, ids) ∧
    ∀ id, id ∈ ids ↔ id = edge.edgeId ∨
      ¬ NamesArtifact artifacts claim.object ∧ id = edge.objectEnd row.2

/-- Each eligible claim has one edge and there is no other one, every node, unknown and entry
belongs to such a claim, and nothing depends on the order of claims and artifacts. -/
structure WorkExact : Prop where
  edges : ∃ projecting, projecting.Perm (claims.filter fun claim => (workRow claim).isSome) ∧
    List.Forall₂ (fun claim edge => ∃ row, workRow claim = some row ∧
      ProjectsExactly c artifacts (projectWorkRelations c claims artifacts) claim row edge)
        projecting (projectWorkRelations c claims artifacts).edges
  nodes_from : ∀ node ∈ (projectWorkRelations c claims artifacts).nodes, ∃ claim ∈ claims,
    (workRow claim).isSome ∧ ¬ NamesArtifact artifacts claim.object ∧
      node.entityId = externalTargetId c claim.object ∧ node.label = "WorkReference"
  unknowns_from : ∀ unknown ∈ (projectWorkRelations c claims artifacts).unknowns,
    ∃ claim ∈ claims, (workRow claim).isSome ∧ ¬ NamesArtifact artifacts claim.object ∧
      2 ≤ (groupOf ArtifactRecord.sourcePath claim.object artifacts).length ∧
        unknown.unknownId = workUnknownId c artifacts claim
  entities_from : ∀ entry ∈ (projectWorkRelations c claims artifacts).entitiesByClaim.rows,
    ∃ claim ∈ claims, (workRow claim).isSome ∧ entry.1 = claim.claimId
  order_free : ∀ claims' artifacts', claims.Perm claims' → artifacts.Perm artifacts' →
    projectWorkRelations c claims artifacts = projectWorkRelations c claims' artifacts'

end Exact

section Emitted

variable {c : Codec} {claims : List SemanticClaimRecord} {artifacts : List ArtifactRecord}

/-- An entry of the loop: the claim, its row, and what it projects. -/
theorem mem_projectedWork_iff {entry : SemanticClaimRecord × WorkRelation} :
    entry ∈ projectedWork c (WorkTargetIndex.build artifacts) claims ↔
      entry.1 ∈ claims ∧ ∃ row, workRow entry.1 = some row ∧
        workRelation c (WorkTargetIndex.build artifacts) entry.1 row.1 row.2 = entry.2 := by
  obtain ⟨claim, relation⟩ := entry
  rw [mem_projectedWork, projectWorkClaim_eq_map, Option.map_eq_some_iff]

theorem projectedWork_claimIds_nodup (hclaims : (claims.map SemanticClaimRecord.claimId).Nodup)
    (index : WorkTargetIndex) :
    ((projectedWork c index claims).map fun entry => entry.1.claimId).Nodup := by
  have hsorted : ((sortedBy SemanticClaimRecord.claimId claims).map
      SemanticClaimRecord.claimId).Nodup :=
    ((sortedBy_perm _ _).map _).nodup_iff.2 hclaims
  refine List.Nodup.sublist (map_filterMap_sublist _ _ fun claim entry hentry => ?_) hsorted
  obtain ⟨relation, -, rfl⟩ := Option.map_eq_some_iff.1 hentry
  rfl

/-- The claims of the loop are those with a row. -/
theorem projectedWork_claims (index : WorkTargetIndex) :
    ((projectedWork c index claims).map Prod.fst).Perm
      (claims.filter fun claim => (workRow claim).isSome) := by
  have hloop : ∀ xs : List SemanticClaimRecord, (xs.filterMap fun claim =>
      (projectWorkClaim c index claim).map fun relation => (claim, relation)).map Prod.fst =
        xs.filter fun claim => (workRow claim).isSome := by
    intro xs
    induction xs with
    | nil => rfl
    | cons claim rest ih =>
        rw [List.filterMap_cons, projectWorkClaim_eq_map, List.filter_cons]
        cases workRow claim with
        | none => exact ih
        | some row => exact congrArg (claim :: ·) ih
  rw [projectedWork, hloop]
  exact (sortedBy_perm _ _).filter _

theorem names_of_mem_projectedWork {entry : SemanticClaimRecord × WorkRelation}
    (h : entry ∈ projectedWork c (WorkTargetIndex.build artifacts) claims) :
    entry.2.edge.properties.lookup "projected_from_claim_id" = some (.str entry.1.claimId) ∧
      entry.2.edge.edgeId = stableEdgeId c entry.2.edge.sourceId entry.2.edge.targetId
        entry.2.edge.edgeType entry.2.edge.properties := by
  obtain ⟨-, row, -, hrelation⟩ := mem_projectedWork_iff.1 h
  rw [← hrelation]
  by_cases hnamed : NamesArtifact artifacts entry.1.object
  · obtain ⟨artifact, hartifact⟩ := exists_isNamed hnamed
    rw [workRelation_of_isNamed _ _ hartifact]
    exact ⟨rfl, rfl⟩
  · obtain ⟨resolution, hexternal⟩ := workRelation_of_not_named (c := c) row.1 row.2 hnamed
    rw [hexternal]
    exact ⟨rfl, rfl⟩

/-- The id of an edge fixes the claim it was projected from. -/
theorem projectedWork_edgeIds_nodup (hc : c.Faithful)
    (hclaims : (claims.map SemanticClaimRecord.claimId).Nodup) :
    ((projectedWork c (WorkTargetIndex.build artifacts) claims).map
      fun entry => entry.2.edge.edgeId).Nodup := by
  have hkeys := projectedWork_claimIds_nodup (c := c) hclaims (WorkTargetIndex.build artifacts)
  refine List.pairwise_map.2 ((List.pairwise_map.1 hkeys).imp_of_mem ?_)
  intro entry other hentry hother hne heq
  obtain ⟨hnames, hid⟩ := names_of_mem_projectedWork hentry
  obtain ⟨hnames', hid'⟩ := names_of_mem_projectedWork hother
  rw [hid, hid'] at heq
  -- the id hashes the properties, and one of them is the id of the claim
  have hproperties := (stableEdgeId_inj hc heq).2.2.2 "projected_from_claim_id" (by decide)
  rw [hnames, hnames'] at hproperties
  exact hne (Json.str.inj (Option.some.inj hproperties))

/-- One edge for each entry of the loop. -/
theorem work_edges_eq (hc : c.Faithful) (hclaims : (claims.map SemanticClaimRecord.claimId).Nodup) :
    (projectWorkRelations c claims artifacts).edges =
      (sortedBy (fun entry => entry.2.edge.edgeId)
        (projectedWork c (WorkTargetIndex.build artifacts) claims)).map
          fun entry => entry.2.edge := by
  have hnodup : ((projectedWork c (WorkTargetIndex.build artifacts) claims).map
      fun entry => entry.2.edge.edgeId).Nodup := projectedWork_edgeIds_nodup hc hclaims
  rw [projectWorkRelations, Table.rows_ofRows_of_nodup]
  · exact sortedBy_map _ fun _ _ => rfl
  · rw [List.map_map]
    exact hnodup

/-- What a claim produced stands under its id. -/
theorem work_entities_lookup (hclaims : (claims.map SemanticClaimRecord.claimId).Nodup)
    {entry : SemanticClaimRecord × WorkRelation}
    (h : entry ∈ projectedWork c (WorkTargetIndex.build artifacts) claims) :
    (projectWorkRelations c claims artifacts).entitiesByClaim.lookup entry.1.claimId =
      some (entry.1.claimId, sortedSet entry.2.ids) := by
  have hkeys := projectedWork_claimIds_nodup (c := c) hclaims (WorkTargetIndex.build artifacts)
  have hproduced : (entry.1.claimId, entry.2.ids) ∈
      (projectedWork c (WorkTargetIndex.build artifacts) claims).map fun entry =>
        (entry.1.claimId, entry.2.ids) := List.mem_map_of_mem h
  have hgroup : groupOf Prod.fst entry.1.claimId
      ((projectedWork c (WorkTargetIndex.build artifacts) claims).map fun entry =>
        (entry.1.claimId, entry.2.ids)) = [(entry.1.claimId, entry.2.ids)] :=
    groupOf_of_nodup (by rwa [List.map_map]) hproduced
  rw [projectWorkRelations, Table.lookup_ofRows_of_nodup]
  · refine ⟨List.mem_map.2 ⟨entry.1.claimId, ?_, ?_⟩, rfl⟩
    · exact mem_sortedSet.2 (List.mem_map_of_mem hproduced)
    · simp only [hgroup, List.flatMap_singleton]
  · rw [List.map_map]
    exact (List.map_id _).symm ▸ sortedSet_nodup _

theorem exists_work_node {entry : SemanticClaimRecord × WorkRelation} {node : GraphRecord}
    (h : entry ∈ projectedWork c (WorkTargetIndex.build artifacts) claims)
    (hnode : entry.2.node = some node) :
    ∃ kept ∈ (projectWorkRelations c claims artifacts).nodes, kept.entityId = node.entityId := by
  have hmem : node ∈ (projectedWork c (WorkTargetIndex.build artifacts) claims).flatMap
      fun entry => entry.2.node.toList := List.mem_flatMap.2 ⟨entry, h, Option.mem_toList.2 hnode⟩
  simp only [projectWorkRelations, mem_sortedBy]
  exact Table.exists_mem_firstRows hmem

theorem exists_work_unknown {entry : SemanticClaimRecord × WorkRelation} {unknown : UnknownRecord}
    (h : entry ∈ projectedWork c (WorkTargetIndex.build artifacts) claims)
    (hunknown : entry.2.unknown = some unknown) :
    ∃ kept ∈ (projectWorkRelations c claims artifacts).unknowns,
      kept.unknownId = unknown.unknownId := by
  have hmem : unknown ∈ (projectedWork c (WorkTargetIndex.build artifacts) claims).flatMap
      fun entry => entry.2.unknown.toList :=
    List.mem_flatMap.2 ⟨entry, h, Option.mem_toList.2 hunknown⟩
  simp only [projectWorkRelations, mem_sortedBy]
  exact Table.exists_mem_firstRows hmem

/-- A node stands for the object of a claim that names no artifact. -/
theorem work_nodes_from {node : GraphRecord}
    (h : node ∈ (projectWorkRelations c claims artifacts).nodes) :
    ∃ claim ∈ claims, (workRow claim).isSome ∧ ¬ NamesArtifact artifacts claim.object ∧
      node.entityId = externalTargetId c claim.object ∧ node.label = "WorkReference" := by
  obtain ⟨claim, hclaim, relation, hrelation, hnode⟩ := mem_work_nodes h
  rw [projectWorkClaim_eq_map, Option.map_eq_some_iff] at hrelation
  obtain ⟨row, hrow, rfl⟩ := hrelation
  by_cases hnamed : NamesArtifact artifacts claim.object
  · obtain ⟨artifact, hartifact⟩ := exists_isNamed hnamed
    rw [workRelation_of_isNamed _ _ hartifact] at hnode
    cases hnode
  · obtain ⟨resolution, hexternal⟩ := workRelation_of_not_named (c := c) row.1 row.2 hnamed
    rw [hexternal] at hnode
    obtain rfl := Option.some.inj hnode
    exact ⟨claim, hclaim, by rw [hrow]; rfl, hnamed, rfl, rfl⟩

/-- An unknown is about the object of a claim that several artifacts match. -/
theorem work_unknowns_from {unknown : UnknownRecord}
    (h : unknown ∈ (projectWorkRelations c claims artifacts).unknowns) :
    ∃ claim ∈ claims, (workRow claim).isSome ∧ ¬ NamesArtifact artifacts claim.object ∧
      2 ≤ (groupOf ArtifactRecord.sourcePath claim.object artifacts).length ∧
        unknown.unknownId = workUnknownId c artifacts claim := by
  obtain ⟨claim, hclaim, relation, hrelation, hunknown⟩ := mem_work_unknowns h
  rw [projectWorkClaim_eq_map, Option.map_eq_some_iff] at hrelation
  obtain ⟨row, hrow, rfl⟩ := hrelation
  by_cases hnamed : NamesArtifact artifacts claim.object
  · obtain ⟨artifact, hartifact⟩ := exists_isNamed hnamed
    rw [workRelation_of_isNamed _ _ hartifact] at hunknown
    cases hunknown
  · obtain ⟨resolution, hexternal⟩ := workRelation_of_not_named (c := c) row.1 row.2 hnamed
    rw [hexternal] at hunknown
    by_cases hnil : artifactsAt artifacts claim.object = []
    · simp [hnil] at hunknown
    · simp only [hnil, if_false, Option.some.injEq] at hunknown
      have htwo := not_not.1 (mt (artifactsAt_eq_nil_iff hnamed).2 hnil)
      exact ⟨claim, hclaim, by rw [hrow]; rfl, hnamed, htwo, by rw [← hunknown]; rfl⟩

/-- The id of an unknown fixes the object it is about. -/
theorem object_of_workUnknownId (hc : c.Faithful) {claim other : SemanticClaimRecord}
    (h : workUnknownId c artifacts claim = workUnknownId c artifacts other) :
    claim.object = other.object :=
  Json.str.inj (Json.field_of_semantic_eq ((hc.stableId_inj "unknown").1 h) "target" rfl rfl)

theorem work_entities_from {entry : String × List String}
    (h : entry ∈ (projectWorkRelations c claims artifacts).entitiesByClaim.rows) :
    ∃ claim ∈ claims, (workRow claim).isSome ∧ entry.1 = claim.claimId := by
  obtain ⟨id, hid, rfl⟩ := List.mem_map.1 (Table.mem_of_mem_ofRows h)
  rw [mem_sortedSet, List.map_map] at hid
  obtain ⟨entry, hentry, rfl⟩ := List.mem_map.1 hid
  obtain ⟨hclaim, row, hrow, -⟩ := mem_projectedWork_iff.1 hentry
  exact ⟨entry.1, hclaim, by rw [hrow]; rfl, rfl⟩

theorem projectWorkRelations_perm (hclaims : (claims.map SemanticClaimRecord.claimId).Nodup)
    {claims' : List SemanticClaimRecord} {artifacts' : List ArtifactRecord}
    (h : claims.Perm claims') (hartifacts : artifacts.Perm artifacts') :
    projectWorkRelations c claims artifacts = projectWorkRelations c claims' artifacts' := by
  have hindex : projectWorkClaim c (WorkTargetIndex.build artifacts) =
      projectWorkClaim c (WorkTargetIndex.build artifacts') := by
    funext claim
    unfold projectWorkClaim workRelation
    rw [resolve_perm hartifacts]
  have hsorted : sortedBy SemanticClaimRecord.claimId claims =
      sortedBy SemanticClaimRecord.claimId claims' :=
    sortedBy_congr (fun _ hx _ hy heq => List.inj_on_of_nodup_map hclaims hx hy heq) h
  simp only [projectWorkRelations, projectedWork, hindex, hsorted]

section Entry

variable {claim : SemanticClaimRecord} {relation : WorkRelation} {row : EdgeType × Bool}

/-- An entry whose object names an artifact is exact: the relation goes to that artifact. -/
theorem projectsExactly_of_named (hclaims : (claims.map SemanticClaimRecord.claimId).Nodup)
    (h : (claim, relation) ∈ projectedWork c (WorkTargetIndex.build artifacts) claims)
    (hrow : workRow claim = some row) (hnamed : NamesArtifact artifacts claim.object) :
    ProjectsExactly c artifacts (projectWorkRelations c claims artifacts) claim row
      relation.edge := by
  obtain ⟨-, row', hrow', hrelation⟩ := mem_projectedWork_iff.1 h
  obtain rfl : row' = row := Option.some.inj (hrow'.symm.trans hrow)
  have hlookup := work_entities_lookup (c := c) hclaims h
  have hnames := (names_of_mem_projectedWork h).1
  obtain ⟨artifact, hartifact⟩ := exists_isNamed hnamed
  rw [workRelation_of_isNamed _ _ hartifact] at hrelation
  subst hrelation
  refine
    { names := hnames
      edgeType := rfl
      outbound := rfl
      subject := subjectEnd_relationEdge ..
      artifact_iff := iff_of_true ?_ hnamed
      named := fun other hother => ?_
      reference := fun hnot => absurd hnamed hnot
      unknown_iff := fun hnot => absurd hnamed hnot
      entities := ⟨_, hlookup, fun id => ?_⟩ }
  · rw [objectEnd_relationEdge]
    exact List.mem_map_of_mem hartifact.1
  · rw [objectEnd_relationEdge]
    exact isNamed_unique hartifact hother
  · simp [WorkRelation.ids, hnamed]

/-- The loop reports a gap about the object of an entry without a target exactly if two artifacts
    answer to it. -/
theorem unknown_of_reference_iff (hc : c.Faithful)
    (h : (claim, relation) ∈ projectedWork c (WorkTargetIndex.build artifacts) claims)
    (hnamed : ¬ NamesArtifact artifacts claim.object) :
    (∃ unknown ∈ (projectWorkRelations c claims artifacts).unknowns,
        unknown.unknownId = workUnknownId c artifacts claim) ↔
      2 ≤ (groupOf ArtifactRecord.sourcePath claim.object artifacts).length := by
  constructor
  · intro hunknown
    -- the gap may be reported for another claim about the same object
    obtain ⟨unknown, hmem, hid⟩ := hunknown
    obtain ⟨other, _, _, _, htwo, hother⟩ := work_unknowns_from hmem
    rwa [object_of_workUnknownId hc (hother.symm.trans hid)] at htwo
  · intro htwo
    obtain ⟨-, row, -, hrelation⟩ := mem_projectedWork_iff.1 h
    obtain ⟨resolution, hexternal⟩ := workRelation_of_not_named (c := c) row.1 row.2 hnamed
    rw [hexternal] at hrelation
    subst hrelation
    have hmatched := mt (artifactsAt_eq_nil_iff hnamed).1 (not_not_intro htwo)
    exact exists_work_unknown h (if_neg hmatched)

/-- An entry whose object names none is exact if no artifact bears the id of its reference. -/
theorem projectsExactly_of_free (hc : c.Faithful)
    (hclaims : (claims.map SemanticClaimRecord.claimId).Nodup)
    (h : (claim, relation) ∈ projectedWork c (WorkTargetIndex.build artifacts) claims)
    (hrow : workRow claim = some row) (hnamed : ¬ NamesArtifact artifacts claim.object)
    (hfree : externalTargetId c claim.object ∉ artifacts.map ArtifactRecord.artifactId) :
    ProjectsExactly c artifacts (projectWorkRelations c claims artifacts) claim row
      relation.edge := by
  have hunknown := unknown_of_reference_iff hc h hnamed
  obtain ⟨-, row', hrow', hrelation⟩ := mem_projectedWork_iff.1 h
  obtain rfl : row' = row := Option.some.inj (hrow'.symm.trans hrow)
  have hlookup := work_entities_lookup (c := c) hclaims h
  have hnames := (names_of_mem_projectedWork h).1
  obtain ⟨resolution, hexternal⟩ := workRelation_of_not_named (c := c) row'.1 row'.2 hnamed
  rw [hexternal] at hrelation
  subst hrelation
  refine
    { names := hnames
      edgeType := rfl
      outbound := rfl
      subject := subjectEnd_relationEdge ..
      artifact_iff := ?_
      named := fun artifact hartifact => absurd (namesArtifact_of_isNamed hartifact) hnamed
      reference := fun _ => ?_
      unknown_iff := fun _ => hunknown
      entities := ⟨_, hlookup, fun id => ?_⟩ }
  · rw [objectEnd_relationEdge]
    exact iff_of_false hfree hnamed
  · -- of the nodes with this id the first is kept, whichever claim it came from
    obtain ⟨kept, hkept, hid⟩ := exists_work_node h rfl
    obtain ⟨_, _, _, _, _, hlabel⟩ := work_nodes_from hkept
    exact ⟨kept, hkept, hid.trans (objectEnd_relationEdge ..).symm, hlabel⟩
  · simp [WorkRelation.ids, hnamed, externalTarget, claimNode]

/-- An entry of the loop is exact exactly if no artifact bears the id of its reference. -/
theorem projectsExactly_iff (hc : c.Faithful)
    (hclaims : (claims.map SemanticClaimRecord.claimId).Nodup)
    (h : (claim, relation) ∈ projectedWork c (WorkTargetIndex.build artifacts) claims)
    (hrow : workRow claim = some row) :
    ProjectsExactly c artifacts (projectWorkRelations c claims artifacts) claim row
        relation.edge ↔
      (¬ NamesArtifact artifacts claim.object →
        externalTargetId c claim.object ∉ artifacts.map ArtifactRecord.artifactId) := by
  constructor
  · intro hexact hnamed
    obtain ⟨-, row', hrow', hrelation⟩ := mem_projectedWork_iff.1 h
    obtain rfl : row' = row := Option.some.inj (hrow'.symm.trans hrow)
    obtain ⟨resolution, hexternal⟩ := workRelation_of_not_named (c := c) row'.1 row'.2 hnamed
    rw [hexternal] at hrelation
    subst hrelation
    have hiff := hexact.artifact_iff
    rw [objectEnd_relationEdge] at hiff
    exact mt hiff.1 hnamed
  · intro hfree
    by_cases hnamed : NamesArtifact artifacts claim.object
    · exact projectsExactly_of_named hclaims h hrow hnamed
    · exact projectsExactly_of_free hc hclaims h hrow hnamed (hfree hnamed)

end Entry

/-- The edge that names a claim is the one its entry of the loop has. -/
theorem entry_of_names (hclaims : (claims.map SemanticClaimRecord.claimId).Nodup)
    {claim : SemanticClaimRecord} (hclaim : claim ∈ claims) {edge : EdgeRecord}
    (hedge : edge ∈ (projectWorkRelations c claims artifacts).edges)
    (hnames : edge.properties.lookup "projected_from_claim_id" = some (.str claim.claimId)) :
    ∃ relation, (claim, relation) ∈ projectedWork c (WorkTargetIndex.build artifacts) claims ∧
      relation.edge = edge := by
  obtain ⟨other, hother, relation, hrelation, rfl⟩ := mem_work_edges hedge
  have hentry := mem_projectedWork.2 ⟨hother, hrelation⟩
  have hid := (names_of_mem_projectedWork hentry).1.symm.trans hnames
  obtain rfl := List.inj_on_of_nodup_map hclaims hother hclaim (Json.str.inj (Option.some.inj hid))
  exact ⟨relation, hentry, rfl⟩

/-- What is asked of the ids: no artifact bears the id of the reference of an object that names
none. -/
def ReferencesFree (c : Codec) (claims : List SemanticClaimRecord)
    (artifacts : List ArtifactRecord) : Prop :=
  ∀ claim ∈ claims, (workRow claim).isSome → ¬ NamesArtifact artifacts claim.object →
    externalTargetId c claim.object ∉ artifacts.map ArtifactRecord.artifactId

theorem referencesFree_of_exact (hc : c.Faithful)
    (hclaims : (claims.map SemanticClaimRecord.claimId).Nodup)
    (hexact : WorkExact c claims artifacts) : ReferencesFree c claims artifacts := by
  intro claim hclaim hsome
  obtain ⟨projecting, hperm, hpaired⟩ := hexact.edges
  have hmem : claim ∈ projecting := hperm.mem_iff.2 (List.mem_filter.2 ⟨hclaim, hsome⟩)
  obtain ⟨edge, hedge, row, hrow, hprojects⟩ := exists_of_mem_forall₂ hpaired.flip hmem
  obtain ⟨relation, hentry, rfl⟩ := entry_of_names hclaims hclaim hedge hprojects.names
  exact (projectsExactly_iff hc hclaims hentry hrow).1 hprojects

/-- **Work projection is exact, while no artifact poses as a reference.** -/
theorem work_exact_iff (hc : c.Faithful)
    (hclaims : (claims.map SemanticClaimRecord.claimId).Nodup) :
    WorkExact c claims artifacts ↔ ReferencesFree c claims artifacts := by
  constructor
  · exact referencesFree_of_exact hc hclaims
  · intro hfree
    refine
      { edges := ?_
        nodes_from := fun _ h => work_nodes_from h
        unknowns_from := fun _ h => work_unknowns_from h
        entities_from := fun _ h => work_entities_from h
        order_free := fun _ _ h hartifacts => projectWorkRelations_perm hclaims h hartifacts }
    refine ⟨(sortedBy (fun entry => entry.2.edge.edgeId)
      (projectedWork c (WorkTargetIndex.build artifacts) claims)).map Prod.fst, ?_, ?_⟩
    · exact ((sortedBy_perm _ _).map _).trans (projectedWork_claims _)
    · rw [work_edges_eq hc hclaims, List.forall₂_map_left_iff, List.forall₂_map_right_iff]
      refine List.forall₂_same.2 fun entry hentry => ?_
      rw [mem_sortedBy] at hentry
      obtain ⟨hclaim, row, hrow, -⟩ := mem_projectedWork_iff.1 hentry
      refine ⟨row, hrow, (projectsExactly_iff hc hclaims hentry hrow).2 ?_⟩
      exact hfree _ hclaim (by rw [hrow]; rfl)

end Emitted

/-! ## An artifact that poses as a reference -/

/-- A document that references a file the compile never saw. -/
def missingReference : SemanticClaimRecord where
  claimId := "claim:1"
  subjectId := "repo:a"
  predicate := "work.references"
  object := "missing.md"
  confidence := .deterministic
  authority := .validatedMachine
  cardinality := .set
  support := .set
  authority_agrees := rfl
  conflictIds_confirmed := noConflict_confirmed

/-- The artifact whose id is that of the reference. -/
def posingArtifact : ArtifactRecord where
  artifactId := externalTargetId textCodec "missing.md"
  repositoryId := "repo:a"
  sourcePath := "NOTES"
  artifactType := "source"
  contentHash := "sha256:11"
  packetRef := "packet:1"
  sourcePath_portable := ⟨"NOTES", normalizeSourcePath_name (by simp) (by simp) (by simp)
    (by decide) (by decide) (by decide)⟩

theorem missingReference_projects : (workRow missingReference).isSome := by decide +kernel

/-- A document that depends on another one, named by its id. -/
def designDependency : SemanticClaimRecord :=
  { missingReference with
    claimId := "claim:2"
    predicate := "work.depends_on"
    object := "artifact:design"
    authority_agrees := rfl
    conflictIds_confirmed := noConflict_confirmed }

/-- A document that references the same one, by its path. -/
def designReference : SemanticClaimRecord :=
  { missingReference with
    claimId := "claim:3"
    object := "DESIGN"
    authority_agrees := rfl
    conflictIds_confirmed := noConflict_confirmed }

/-- The document they name. -/
def designArtifact : ArtifactRecord where
  artifactId := "artifact:design"
  repositoryId := "repo:a"
  sourcePath := "DESIGN"
  artifactType := "source"
  contentHash := "sha256:12"
  packetRef := "packet:1"
  sourcePath_portable := ⟨"DESIGN", normalizeSourcePath_name (by simp) (by simp) (by simp)
    (by decide) (by decide) (by decide)⟩

/-- One claim resolves by id, one by path, and one nowhere. -/
theorem work_exact_design :
    WorkExact textCodec [missingReference, designDependency, designReference] [designArtifact] ∧
      [missingReference, designDependency, designReference].map (fun claim =>
          ((WorkTargetIndex.build [designArtifact]).resolve claim.object).1) =
        [none, some "artifact:design", some "artifact:design"] := by
  refine ⟨(work_exact_iff textCodec_faithful (by decide)).2 fun claim _ _ _ hposes => ?_, by decide⟩
  -- the id of a reference begins otherwise than that of the document
  have hhead := congrArg (fun id => id.toList.head?) (List.mem_singleton.1 hposes)
  simp [externalTargetId, designArtifact] at hhead

/-- A reference that was never observed is shown as the artifact that bears its id. -/
theorem reference_shown_observed :
    ¬ ∀ (c : Codec), c.Faithful → ∀ (claims : List SemanticClaimRecord)
      (artifacts : List ArtifactRecord), (claims.map SemanticClaimRecord.claimId).Nodup →
      (artifacts.map ArtifactRecord.artifactId).Nodup → WorkExact c claims artifacts := by
  intro h
  have hexact := h textCodec textCodec_faithful [missingReference] [posingArtifact] (by simp)
    (by simp)
  have hfree := referencesFree_of_exact textCodec_faithful (by simp) hexact missingReference
    (List.mem_singleton_self _) missingReference_projects
  refine hfree ?_ (List.mem_singleton_self _)
  decide +kernel

end ConstellationTopology
