import ConstellationTopology.Publication.Qualification
import ConstellationTopology.Topology.WorkProjection

set_option autoImplicit false

/-! # The relation a claim projects

Both projectors read a claim through a table: the predicate gives the type of the edge, and subject
and object give its endpoints. The relation is written here once from the claim alone, and the edges
of `project_claims` and `project_work_relations` are compared with it. -/

namespace ConstellationTopology

/-- Source, target, type and direction of an edge. -/
abbrev Relation := String × String × EdgeType × Direction

/-- The relation an edge states. -/
def EdgeRecord.relation (edge : EdgeRecord) : Relation :=
  (edge.sourceId, edge.targetId, edge.edgeType, edge.direction)

/-- The edge names the claim as the one it was projected from. -/
def EdgeRecord.NamesClaim (edge : EdgeRecord) (claim : SemanticClaimRecord) : Prop :=
  edge.property "projected_from_claim_id" = .str claim.claimId

/-- An edge of a projector: its id is that of what it states, and it names its claim. -/
structure ProjectedFrom (c : Codec) (claim : SemanticClaimRecord) (edge : EdgeRecord) : Prop where
  id_stated : edge.edgeId = stableEdgeId c edge.sourceId edge.targetId edge.edgeType edge.properties
  outbound : edge.direction = .outbound
  names : edge.NamesClaim claim
  cites : edge.evidenceRefs = claim.evidenceRefs

/-- The property that names the claim is there. -/
theorem ProjectedFrom.lookup_claim {c : Codec} {claim : SemanticClaimRecord} {edge : EdgeRecord}
    (h : ProjectedFrom c claim edge) :
    edge.properties.lookup "projected_from_claim_id" = some (.str claim.claimId) := by
  have hnames := h.names
  unfold EdgeRecord.NamesClaim EdgeRecord.property at hnames
  cases hvalue : edge.properties.lookup "projected_from_claim_id" with
  | none =>
      rw [hvalue] at hnames
      cases hnames
  | some value =>
      rw [hvalue] at hnames
      exact congrArg some hnames

theorem claimEdge_projectedFrom (c : Codec) (sourceId targetId : String) (edgeType : EdgeType)
    (claim : SemanticClaimRecord) (more : List (String × Json)) :
    ProjectedFrom c claim
      (claimEdge c sourceId targetId edgeType claim (claimProperties claim ++ more)) where
  id_stated := rfl
  outbound := rfl
  names := rfl
  cites := rfl

/-! ## Claims -/

section Claims

variable {c : Codec} {repr : String → String} {claim : SemanticClaimRecord}

/-- The relations the claim projector has a row for, by predicate. -/
def claimRelations (claim : SemanticClaimRecord) : List (String × Relation) :=
  [("authority.canonical_contract",
      (claim.subjectId, externalId contractReferenceMarker claim.object, .governedBy, .outbound)),
    ("package.dependency",
      (claim.subjectId, externalId externalPackageMarker claim.object, .dependsOn, .outbound)),
    ("repository.replaced_by",
      (externalId repositoryReferenceMarker claim.object, claim.subjectId, .supersedes, .outbound))]

/-- The relation a claim of the claim projector states. -/
def claimRelation (claim : SemanticClaimRecord) : Option Relation :=
  (claimRelations claim).lookup claim.predicate

/-- An edge of the claim projector states the relation of its claim and marks it as its own. -/
theorem mem_projectClaim_edges {projected : ProjectedEntities} {edge : EdgeRecord}
    (h : projectClaim c repr claim = some projected) (hedge : edge ∈ projected.edges) :
    ProjectedFrom c claim edge ∧ claimRelation claim = some edge.relation ∧
      edge.hasProperty "target_resolution" = false ∧
        Qualification.endpointMatches edge ∧ edge.hasProperty "endpoint_kind" = true := by
  obtain ⟨-, projector, hrow, rfl⟩ := projectClaim_eq_some.1 h
  have hmem := mem_of_lookup hrow
  simp only [projectors, List.mem_cons, Prod.mk.injEq, List.not_mem_nil, or_false] at hmem
  rcases hmem with ⟨hpredicate, rfl⟩ | ⟨-, rfl⟩ | ⟨hpredicate, rfl⟩ | ⟨hpredicate, rfl⟩ | ⟨-, rfl⟩
  · obtain rfl := List.mem_singleton.1 hedge
    refine ⟨claimEdge_projectedFrom .., ?_, rfl, rfl, rfl⟩
    rw [claimRelation, hpredicate]
    rfl
  · cases hedge
  · obtain rfl := List.mem_singleton.1 hedge
    refine ⟨claimEdge_projectedFrom .., ?_, rfl, rfl, rfl⟩
    rw [claimRelation, hpredicate]
    rfl
  · obtain rfl := List.mem_singleton.1 hedge
    refine ⟨claimEdge_projectedFrom .., ?_, rfl, rfl, rfl⟩
    rw [claimRelation, hpredicate]
    rfl
  · cases hedge

/-- An eligible claim with a relation has an edge that states it. -/
theorem exists_projectClaim_edge (c : Codec) (repr : String → String) {relation : Relation}
    (heligible : eligibleForCanonicalProjection claim = true)
    (hrelation : claimRelation claim = some relation) :
    ∃ projected edge, projectClaim c repr claim = some projected ∧ edge ∈ projected.edges ∧
      edge.relation = relation := by
  have hmem := mem_of_lookup hrelation
  simp only [claimRelations, List.mem_cons, Prod.mk.injEq, List.not_mem_nil, or_false] at hmem
  have hprojects : ∀ projector, (projectors c repr).lookup claim.predicate = some projector →
      projectClaim c repr claim = some (projector claim) := by
    intro projector hrow
    exact projectClaim_eq_some.2 ⟨heligible, projector, hrow, rfl⟩
  rcases hmem with ⟨hpredicate, rfl⟩ | ⟨hpredicate, rfl⟩ | ⟨hpredicate, rfl⟩
  · exact ⟨_, _, hprojects (projectCanonicalContract c) (by rw [hpredicate]; rfl),
      List.mem_singleton_self _, rfl⟩
  · exact ⟨_, _, hprojects (projectDependency c) (by rw [hpredicate]; rfl),
      List.mem_singleton_self _, rfl⟩
  · exact ⟨_, _, hprojects (projectReplacedBy c) (by rw [hpredicate]; rfl),
      List.mem_singleton_self _, rfl⟩

end Claims

/-! ## Work claims -/

section Work

variable (c : Codec) (artifacts : List ArtifactRecord)

/-- The endpoint an explicit work claim names: the one artifact it is, or an external reference. -/
def workTarget (claim : SemanticClaimRecord) : String :=
  ((WorkTargetIndex.build artifacts).resolve claim.object).1.getD (externalTargetId c claim.object)

/-- The relation a claim of the work projector states. -/
def workStatedRelation (claim : SemanticClaimRecord) : Option Relation :=
  (workEdgeProjections.lookup claim.predicate).map fun row =>
    if row.2 then (workTarget c artifacts claim, claim.subjectId, row.1, .outbound)
    else (claim.subjectId, workTarget c artifacts claim, row.1, .outbound)

variable {c artifacts} {claim : SemanticClaimRecord}

/-- The edge of a work claim, whichever way its target resolved. -/
theorem workRelation_edge (c : Codec) (artifacts : List ArtifactRecord)
    (claim : SemanticClaimRecord) (edgeType : EdgeType) (reverse : Bool) :
    ∃ resolution, (workRelation c (WorkTargetIndex.build artifacts) claim edgeType reverse).edge =
      relationEdge c claim (workTarget c artifacts claim) edgeType reverse resolution := by
  unfold workRelation workTarget
  rcases (WorkTargetIndex.build artifacts).resolve claim.object with ⟨resolved | resolved, found⟩
  · exact ⟨_, rfl⟩
  · exact ⟨_, rfl⟩

/-- The edge of the work projector states the relation of its claim and marks it as its own. -/
theorem projectWorkClaim_edge {relation : WorkRelation}
    (h : projectWorkClaim c (WorkTargetIndex.build artifacts) claim = some relation) :
    ProjectedFrom c claim relation.edge ∧
      workStatedRelation c artifacts claim = some relation.edge.relation ∧
        relation.edge.hasProperty "target_resolution" = true := by
  obtain ⟨-, ⟨edgeType, reverse⟩, hrow, rfl⟩ := projectWorkClaim_eq_some.1 h
  obtain ⟨resolution, hedge⟩ := workRelation_edge c artifacts claim edgeType reverse
  rw [hedge]
  refine ⟨claimEdge_projectedFrom .., ?_, rfl⟩
  rw [workStatedRelation, hrow]
  cases reverse <;> rfl

/-- An eligible claim with a relation has an edge that states it. -/
theorem exists_projectWorkClaim_edge {stated : Relation}
    (heligible : eligibleForCanonicalProjection claim = true)
    (hstated : workStatedRelation c artifacts claim = some stated) :
    ∃ relation, projectWorkClaim c (WorkTargetIndex.build artifacts) claim = some relation ∧
      relation.edge.relation = stated := by
  obtain ⟨row, hrow, -⟩ := Option.map_eq_some_iff.1 hstated
  have hprojects : projectWorkClaim c (WorkTargetIndex.build artifacts) claim =
      some (workRelation c (WorkTargetIndex.build artifacts) claim row.1 row.2) :=
    projectWorkClaim_eq_some.2 ⟨heligible, row, hrow, rfl⟩
  refine ⟨_, hprojects, ?_⟩
  have hedge := (projectWorkClaim_edge hprojects).2.1
  exact Option.some.inj (hedge.symm.trans hstated)

theorem workStatedRelation_perm {artifacts' : List ArtifactRecord} (h : artifacts.Perm artifacts')
    (claim : SemanticClaimRecord) :
    workStatedRelation c artifacts claim = workStatedRelation c artifacts' claim := by
  unfold workStatedRelation workTarget
  rw [resolve_perm h]

end Work

end ConstellationTopology
