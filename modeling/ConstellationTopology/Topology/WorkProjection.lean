import ConstellationTopology.Domain.Assessment
import ConstellationTopology.Topology.ClaimProjection

set_option autoImplicit false

/-! # Projecting work relations

`topology/work_projection.py`: an explicit work claim becomes an edge, whose target is the one
artifact the claim names exactly, or else an external reference. -/

namespace ConstellationTopology

/-! ## Exact targets -/

/-- The lookups, each exact; a path gives the ids of every artifact carrying it. -/
structure WorkTargetIndex where
  byArtifactId : List String
  bySourcePath : String → List String
  byArchivePath : String → List String

/-- `ARCHIVE_MEMBER_SEPARATOR in path`. -/
def isArchiveMember (path : String) : Prop := "!/".toList <:+: path.toList

instance (path : String) : Decidable (isArchiveMember path) :=
  inferInstanceAs (Decidable (_ <:+: _))

/-- The artifacts at a path. -/
def artifactsAt (artifacts : List ArtifactRecord) (path : String) : List String :=
  sortedBy id ((groupOf ArtifactRecord.sourcePath path artifacts).map ArtifactRecord.artifactId)

/-- `WorkTargetIndex.build`. -/
def WorkTargetIndex.build (artifacts : List ArtifactRecord) : WorkTargetIndex where
  byArtifactId := artifacts.map ArtifactRecord.artifactId
  bySourcePath path := artifactsAt artifacts path
  byArchivePath path := if isArchiveMember path then artifactsAt artifacts path else []

/-- One index of `resolve`: `none` where it has no match and the next one is asked. -/
def resolveMatches : List String → Option (Option String × List String)
  | [] => none
  | [only] => some (some only, [only])
  | found => some (none, found)

/-- `WorkTargetIndex.resolve`: the resolved artifact and every artifact that matched. -/
def WorkTargetIndex.resolve (index : WorkTargetIndex) (target : String) :
    Option String × List String :=
  if target ∈ index.byArtifactId then (some target, [target])
  else
    ((resolveMatches (index.byArchivePath target)).or
      (resolveMatches (index.bySourcePath target))).getD (none, [])

/-- The artifacts at a path, whatever order they come in. -/
theorem artifactsAt_perm {artifacts artifacts' : List ArtifactRecord} (h : artifacts.Perm artifacts')
    (path : String) : artifactsAt artifacts path = artifactsAt artifacts' path := by
  unfold artifactsAt
  exact sortedBy_congr (fun _ _ _ _ heq => heq) ((groupOf_perm path h).map _)

/-- A target resolves alike whatever order the artifacts come in. -/
theorem resolve_perm {artifacts artifacts' : List ArtifactRecord} (h : artifacts.Perm artifacts')
    (target : String) : (WorkTargetIndex.build artifacts).resolve target =
      (WorkTargetIndex.build artifacts').resolve target := by
  have hid : target ∈ artifacts.map ArtifactRecord.artifactId ↔
      target ∈ artifacts'.map ArtifactRecord.artifactId := (h.map _).mem_iff
  unfold WorkTargetIndex.resolve WorkTargetIndex.build
  simp only [hid, artifactsAt_perm h]

/-! ## What a claim projects -/

/-- `_WORK_EDGE_PROJECTIONS`: the type, and whether the edge runs from object to subject. -/
def workEdgeProjections : List (String × EdgeType × Bool) :=
  [("work.depends_on", .dependsOn, false),
    ("work.blocked_by", .blockedBy, false),
    ("work.references", .references, false),
    ("work.supersedes", .supersedes, false),
    ("work.superseded_by", .supersedes, true)]

/-- `AMBIGUOUS_TARGET_REASON`. -/
def ambiguousTargetReason : String :=
  "an explicit work relation named a target that matches more than one observed "
    ++ "artifact, so it was preserved as an external reference rather than resolved to "
    ++ "one of them by guessing"

section Projection

variable (c : Codec)

/-- `_external_target_id`. -/
def externalTargetId (target : String) : String :=
  "work-reference:" ++ afterFirst ':' (c.stableId "target" (.obj [("target", .str target)]))

/-- `_external_target`. -/
def externalTarget (claim : SemanticClaimRecord) (targetId : String) (found : List String)
    (resolution : String) : GraphRecord :=
  claimNode targetId "WorkReference" claim
    [("reference", .str claim.object), ("observed_in_corpus", .bool false),
      ("resolution", .str resolution), ("ambiguous_matches", Json.strings found),
      ("projected_from_claim_id", .str claim.claimId)]

/-- `_ambiguous_unknown`. -/
def ambiguousUnknown (claim : SemanticClaimRecord) (found : List String) : UnknownRecord where
  unknownId := c.stableId "unknown" (.obj [("subject_id", .str claim.subjectId),
    ("field", .str claim.predicate), ("values", Json.strings (sortedBy id found)),
    ("target", .str claim.object)])
  subjectId := claim.subjectId
  field := some claim.predicate
  reason := ambiguousTargetReason
  evidenceRefs := claim.evidenceRefs

/-- `_relation_edge`. -/
def relationEdge (claim : SemanticClaimRecord) (targetId : String) (edgeType : EdgeType)
    (reverse : Bool) (resolution : String) : EdgeRecord :=
  claimEdge c (if reverse then targetId else claim.subjectId)
    (if reverse then claim.subjectId else targetId) edgeType claim
    (claimProperties claim ++ [("target_resolution", .str resolution),
      ("declared_by", .str claim.subjectId)])

/-- What one work claim projects. -/
structure WorkRelation where
  edge : EdgeRecord
  node : Option GraphRecord
  unknown : Option UnknownRecord

/-- The body of the loop over the claims. -/
def workRelation (index : WorkTargetIndex) (claim : SemanticClaimRecord)
    (edgeType : EdgeType) (reverse : Bool) : WorkRelation :=
  match index.resolve claim.object with
  | (some resolved, _) =>
      { edge := relationEdge c claim resolved edgeType reverse "exact-artifact"
        node := none
        unknown := none }
  | (none, found) =>
      let resolution := if found = [] then "unresolved" else "ambiguous"
      let targetId := externalTargetId c claim.object
      { edge := relationEdge c claim targetId edgeType reverse resolution
        node := some (externalTarget claim targetId found resolution)
        unknown := if found = [] then none else some (ambiguousUnknown c claim found) }

/-- What the loop does with a claim: `none` where it goes on with the next one. -/
def projectWorkClaim (index : WorkTargetIndex) (claim : SemanticClaimRecord) :
    Option WorkRelation :=
  if eligibleForCanonicalProjection claim then
    (workEdgeProjections.lookup claim.predicate).map fun row =>
      workRelation c index claim row.1 row.2
  else none

/-- The claims that project, with what they project, in the order of the loop. -/
def projectedWork (index : WorkTargetIndex) (claims : List SemanticClaimRecord) :
    List (SemanticClaimRecord × WorkRelation) :=
  (sortedBy SemanticClaimRecord.claimId claims).filterMap fun claim =>
    (projectWorkClaim c index claim).map fun relation => (claim, relation)

/-- The entities of a relation: the edge, and the external endpoint. -/
def WorkRelation.ids (relation : WorkRelation) : List String :=
  relation.edge.edgeId :: relation.node.toList.map GraphRecord.entityId

/-- What the work claims project, and which claim what. -/
structure WorkProjection where
  edges : List EdgeRecord
  nodes : List GraphRecord
  unknowns : List UnknownRecord
  entitiesByClaim : EntitiesByClaim

/-- `project_work_relations`. -/
def projectWorkRelations (claims : List SemanticClaimRecord) (artifacts : List ArtifactRecord) :
    WorkProjection :=
  let projected := projectedWork c (WorkTargetIndex.build artifacts) claims
  let produced := projected.map fun entry => (entry.1.claimId, entry.2.ids)
  { edges := sortedBy EdgeRecord.edgeId (Table.ofRows EdgeRecord.edgeId
      (projected.map fun entry => entry.2.edge)).rows
    nodes := sortedBy GraphRecord.entityId (Table.firstRows GraphRecord.entityId
      (projected.flatMap fun entry => entry.2.node.toList)).rows
    unknowns := sortedBy UnknownRecord.unknownId (Table.firstRows UnknownRecord.unknownId
      (projected.flatMap fun entry => entry.2.unknown.toList)).rows
    entitiesByClaim := Table.ofRows _ ((sortedSet (produced.map Prod.fst)).map fun id =>
      (id, sortedSet ((groupOf Prod.fst id produced).flatMap Prod.snd))) }

end Projection

/-! ## Where a projected entity comes from -/

section Origin

variable {c : Codec} {claims : List SemanticClaimRecord} {artifacts : List ArtifactRecord}

theorem projectWorkClaim_eq_some {index : WorkTargetIndex} {claim : SemanticClaimRecord}
    {relation : WorkRelation} :
    projectWorkClaim c index claim = some relation ↔
      eligibleForCanonicalProjection claim = true ∧
        ∃ row, workEdgeProjections.lookup claim.predicate = some row ∧
          workRelation c index claim row.1 row.2 = relation := by
  unfold projectWorkClaim
  by_cases h : eligibleForCanonicalProjection claim = true
  · simp [h]
  · simp [h]

theorem mem_projectedWork {index : WorkTargetIndex} {claim : SemanticClaimRecord}
    {relation : WorkRelation} :
    (claim, relation) ∈ projectedWork c index claims ↔
      claim ∈ claims ∧ projectWorkClaim c index claim = some relation := by
  simp [projectedWork, and_left_comm]

theorem mem_work_edges {edge : EdgeRecord}
    (h : edge ∈ (projectWorkRelations c claims artifacts).edges) :
    ∃ claim ∈ claims, ∃ relation,
      projectWorkClaim c (WorkTargetIndex.build artifacts) claim = some relation ∧
        edge = relation.edge := by
  rw [projectWorkRelations, mem_sortedBy] at h
  obtain ⟨⟨claim, relation⟩, hentry, hedge⟩ := List.mem_map.1 (Table.mem_of_mem_ofRows h)
  obtain ⟨hclaim, hrelation⟩ := mem_projectedWork.1 hentry
  exact ⟨claim, hclaim, relation, hrelation, hedge.symm⟩

/-- The edge of a work claim is kept, or another one of its id. -/
theorem exists_work_edge {claim : SemanticClaimRecord} (hclaim : claim ∈ claims)
    {relation : WorkRelation}
    (hrelation : projectWorkClaim c (WorkTargetIndex.build artifacts) claim = some relation) :
    ∃ kept ∈ (projectWorkRelations c claims artifacts).edges,
      kept.edgeId = relation.edge.edgeId := by
  have hprojects : relation.edge ∈
      (projectedWork c (WorkTargetIndex.build artifacts) claims).map fun entry => entry.2.edge :=
    List.mem_map_of_mem (mem_projectedWork.2 ⟨hclaim, hrelation⟩)
  obtain ⟨kept, hkept, hid⟩ : ∃ kept ∈ (Table.ofRows EdgeRecord.edgeId
      ((projectedWork c (WorkTargetIndex.build artifacts) claims).map
        fun entry => entry.2.edge)).rows, kept.edgeId = relation.edge.edgeId :=
    Table.exists_mem_ofRows hprojects
  exact ⟨kept, mem_sortedBy.2 hkept, hid⟩

theorem mem_work_nodes {node : GraphRecord}
    (h : node ∈ (projectWorkRelations c claims artifacts).nodes) :
    ∃ claim ∈ claims, ∃ relation,
      projectWorkClaim c (WorkTargetIndex.build artifacts) claim = some relation ∧
        relation.node = some node := by
  rw [projectWorkRelations, mem_sortedBy] at h
  obtain ⟨⟨claim, relation⟩, hentry, hnode⟩ := List.mem_flatMap.1 (Table.mem_of_mem_firstRows h)
  obtain ⟨hclaim, hrelation⟩ := mem_projectedWork.1 hentry
  exact ⟨claim, hclaim, relation, hrelation, Option.mem_toList.1 hnode⟩

theorem mem_work_unknowns {unknown : UnknownRecord}
    (h : unknown ∈ (projectWorkRelations c claims artifacts).unknowns) :
    ∃ claim ∈ claims, ∃ relation,
      projectWorkClaim c (WorkTargetIndex.build artifacts) claim = some relation ∧
        relation.unknown = some unknown := by
  rw [projectWorkRelations, mem_sortedBy] at h
  obtain ⟨⟨claim, relation⟩, hentry, hunknown⟩ :=
    List.mem_flatMap.1 (Table.mem_of_mem_firstRows h)
  obtain ⟨hclaim, hrelation⟩ := mem_projectedWork.1 hentry
  exact ⟨claim, hclaim, relation, hrelation, Option.mem_toList.1 hunknown⟩

end Origin

end ConstellationTopology
