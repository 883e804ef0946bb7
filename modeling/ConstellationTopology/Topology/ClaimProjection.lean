import ConstellationTopology.Domain.Claim
import ConstellationTopology.Domain.Edge
import ConstellationTopology.Domain.Entities
import ConstellationTopology.Library.Collection
import ConstellationTopology.Library.Table
import ConstellationTopology.Reconciliation.Predicates
import ConstellationTopology.Run.Hashing
import ConstellationTopology.Topology.GraphBuilder

set_option autoImplicit false

/-! # Projecting claims

`topology/claim_projection.py`: the claims with a row in the projection table become relations and
capabilities, unless the registry or a conflict withholds them. Whatever is projected comes from one
claim of the list that is eligible (`mem_projected_edges`, `mem_projected_nodes`,
`mem_projected_capabilities`). -/

namespace ConstellationTopology

/-! ## The projection boundary -/

/-- Why a claim is withheld. -/
inductive ProjectionIneligibility
  | predicateNotProjectable
  | conflicted
  deriving DecidableEq, Repr

/-- `projection_ineligibility`. -/
def projectionIneligibility (claim : SemanticClaimRecord) : Option ProjectionIneligibility :=
  if ¬ isProjectable claim.predicate then some .predicateNotProjectable
  else if claim.conflictStatus ∈ projectionWithheldConflictStatuses ∨ claim.conflictIds ≠ [] then
    some .conflicted
  else none

/-- `eligible_for_canonical_projection`. -/
def eligibleForCanonicalProjection (claim : SemanticClaimRecord) : Bool :=
  projectionIneligibility claim = none

/-- An eligible claim is permitted by the registry and carries no conflict. -/
theorem eligible_iff {claim : SemanticClaimRecord} :
    eligibleForCanonicalProjection claim = true ↔
      isProjectable claim.predicate = true ∧ claim.conflictStatus = .none := by
  have hids := claim.conflictIds_confirmed
  unfold eligibleForCanonicalProjection projectionIneligibility projectionWithheldConflictStatuses
  by_cases hprojectable : isProjectable claim.predicate = true
  · cases hstatus : claim.conflictStatus with
    | confirmed => simp [hprojectable]
    | possible => simp [hprojectable]
    | none =>
        have hnil : claim.conflictIds = [] := by simpa [hstatus] using hids
        simp [hprojectable, hnil]
  · simp [hprojectable]

/-! ## The projectors -/

/-- What a projector returns for a claim. -/
structure ProjectedEntities where
  capabilities : List CapabilityRecord := []
  edges : List EdgeRecord := []
  nodes : List GraphRecord := []

/-- `_external_id`. -/
def externalId (marker value : String) : String := marker ++ ":" ++ value

/-- `EXTERNAL_PACKAGE_PREFIX`. -/
def externalPackageMarker : String := "package"

/-- `REPOSITORY_REFERENCE_PREFIX`. -/
def repositoryReferenceMarker : String := "repository-reference"

/-- `CONTRACT_REFERENCE_PREFIX`. -/
def contractReferenceMarker : String := "contract-reference"

/-- `SERVICE_ACTION_PREFIX`. -/
def serviceActionMarker : String := "capability:service-action"

/-- `HTTP_ROUTE_PREFIX`. -/
def httpRouteMarker : String := "capability:http-route"

/-- `_node`. -/
def claimNode (entityId label : String) (claim : SemanticClaimRecord)
    (properties : List (String × Json)) : GraphRecord where
  recordType := .node
  label := label
  entityId := entityId
  properties := properties
  evidenceRefs := claim.evidenceRefs
  confidence := claim.confidence

section Projectors

variable (c : Codec) (repr : String → String)

/-- `_edge`, the same function in both projectors. -/
def claimEdge (sourceId targetId : String) (edgeType : EdgeType) (claim : SemanticClaimRecord)
    (properties : List (String × Json)) : EdgeRecord where
  edgeId := stableEdgeId c sourceId targetId edgeType properties
  sourceId := sourceId
  targetId := targetId
  edgeType := edgeType
  direction := .outbound
  properties := properties
  evidenceRefs := claim.evidenceRefs
  confidence := claim.confidence

/-- `_claim_properties`. -/
def claimProperties (claim : SemanticClaimRecord) : List (String × Json) :=
  [("projected_from_claim_id", .str claim.claimId),
    ("assertion_predicate", .str claim.predicate),
    ("assertion_object", .str claim.object)]

/-- `_project_dependency`. -/
def projectDependency (claim : SemanticClaimRecord) : ProjectedEntities where
  edges := [claimEdge c claim.subjectId (externalId externalPackageMarker claim.object) .dependsOn
    claim (claimProperties claim ++
      [("endpoint_kind", .str "external-package-reference"), ("package_name", .str claim.object)])]
  nodes := [claimNode (externalId externalPackageMarker claim.object) "ExternalPackage" claim
    [("package_name", .str claim.object), ("observed_as_repository", .bool false),
      ("projected_from_claim_id", .str claim.claimId)]]

/-- `_project_canonical_contract`. -/
def projectCanonicalContract (claim : SemanticClaimRecord) : ProjectedEntities where
  edges := [claimEdge c claim.subjectId (externalId contractReferenceMarker claim.object)
    .governedBy claim (claimProperties claim ++
      [("endpoint_kind", .str "declared-contract-reference"),
        ("contract_reference", .str claim.object)])]
  nodes := [claimNode (externalId contractReferenceMarker claim.object) "ContractReference" claim
    [("contract_reference", .str claim.object), ("resolved_to_artifact", .bool false),
      ("projected_from_claim_id", .str claim.claimId)]]

/-- `_project_replaced_by`: the successor supersedes the subject. -/
def projectReplacedBy (claim : SemanticClaimRecord) : ProjectedEntities where
  edges := [claimEdge c (externalId repositoryReferenceMarker claim.object) claim.subjectId
    .supersedes claim (claimProperties claim ++
      [("endpoint_kind", .str "declared-repository-reference"),
        ("declared_by", .str claim.subjectId)])]
  nodes := [claimNode (externalId repositoryReferenceMarker claim.object) "RepositoryReference"
    claim [("reference", .str claim.object), ("observed_in_constellation", .bool false),
      ("projected_from_claim_id", .str claim.claimId)]]

/-- `_project_service_action`. -/
def projectServiceAction (claim : SemanticClaimRecord) : ProjectedEntities where
  capabilities := [{
    capabilityId := c.stableId serviceActionMarker
      (.obj [("subject_id", .str claim.subjectId), ("action", .str claim.object)])
    name := claim.object
    description := "Service action " ++ repr claim.object ++ " declared by " ++ claim.subjectId
      ++ ". Declaration only: no implementation completeness is asserted."
    implementedBy := [claim.subjectId]
    evidenceRefs := claim.evidenceRefs
    confidence := claim.confidence }]

/-- `_project_http_route`. -/
def projectHttpRoute (claim : SemanticClaimRecord) : ProjectedEntities where
  capabilities := [{
    capabilityId := c.stableId httpRouteMarker
      (.obj [("subject_id", .str claim.subjectId), ("route", .str claim.object)])
    name := claim.object
    description := "HTTP route " ++ repr claim.object ++ " observed in " ++ claim.subjectId
      ++ ". Observation only: neither production reachability nor handler completeness is asserted."
    exposedBy := [claim.subjectId]
    evidenceRefs := claim.evidenceRefs
    confidence := claim.confidence }]

/-- `_PROJECTORS`. -/
def projectors : List (String × (SemanticClaimRecord → ProjectedEntities)) :=
  [("authority.canonical_contract", projectCanonicalContract c),
    ("http.route", projectHttpRoute c repr),
    ("package.dependency", projectDependency c),
    ("repository.replaced_by", projectReplacedBy c),
    ("service.action", projectServiceAction c repr)]

/-- The check the module makes at import: the registry permits every row of the table. -/
theorem projectors_projectable : ∀ row ∈ projectors c repr, isProjectable row.1 = true := by
  intro row hrow
  have hkeys : row.1 ∈ (projectors c repr).map Prod.fst := List.mem_map_of_mem hrow
  have hall : ∀ predicate ∈ ["authority.canonical_contract", "http.route", "package.dependency",
      "repository.replaced_by", "service.action"], isProjectable predicate = true := by
    decide +kernel
  exact hall _ hkeys

/-! ## The projection -/

/-- What the loop does with a claim: `none` where it goes on with the next one. -/
def projectClaim (claim : SemanticClaimRecord) : Option ProjectedEntities :=
  if eligibleForCanonicalProjection claim then
    ((projectors c repr).lookup claim.predicate).map fun projector => projector claim
  else none

/-- The claims that project, with what they project, in the order of the loop. -/
def projectedClaims (claims : List SemanticClaimRecord) :
    List (SemanticClaimRecord × ProjectedEntities) :=
  (sortedBy SemanticClaimRecord.claimId claims).filterMap fun claim =>
    (projectClaim c repr claim).map fun projected => (claim, projected)

/-- `produced`. -/
def ProjectedEntities.ids (projected : ProjectedEntities) : List String :=
  sortedSet (projected.capabilities.map CapabilityRecord.capabilityId
    ++ projected.edges.map EdgeRecord.edgeId ++ projected.nodes.map GraphRecord.entityId)

/-- What each claim produced. -/
abbrev EntitiesByClaim := Table (Prod.fst : String × List String → String)

/-- What the claims project, and which claim what. -/
structure ClaimProjection where
  capabilities : List CapabilityRecord
  edges : List EdgeRecord
  nodes : List GraphRecord
  entitiesByClaim : EntitiesByClaim

/-- `project_claims`. -/
def projectClaims (claims : List SemanticClaimRecord) : ClaimProjection :=
  let projected := projectedClaims c repr claims
  { capabilities := sortedBy CapabilityRecord.capabilityId
      (projected.flatMap fun entry => entry.2.capabilities)
    edges := sortedBy EdgeRecord.edgeId (Table.ofRows EdgeRecord.edgeId
      (projected.flatMap fun entry => entry.2.edges)).rows
    nodes := sortedBy GraphRecord.entityId (Table.firstRows GraphRecord.entityId
      (projected.flatMap fun entry => entry.2.nodes)).rows
    entitiesByClaim := Table.ofRows _ ((projected.filter fun entry => entry.2.ids ≠ []).map
      fun entry => (entry.1.claimId, entry.2.ids)) }

end Projectors

/-! ## Stamping the claims -/

/-- `merge_projected_entities`. -/
def mergeProjectedEntities (maps : List EntitiesByClaim) : EntitiesByClaim :=
  let produced := maps.flatMap Table.rows
  Table.ofRows _ ((sortedSet (produced.map Prod.fst)).map fun id =>
    (id, sortedSet ((groupOf Prod.fst id produced).flatMap Prod.snd)))

/-- The stamp of one claim. -/
def SemanticClaimRecord.stamped (entitiesByClaim : EntitiesByClaim) (claim : SemanticClaimRecord) :
    SemanticClaimRecord :=
  { claim with
    projected := (entitiesByClaim.lookup claim.claimId).isSome
    projectedEntityIds := ((entitiesByClaim.lookup claim.claimId).map Prod.snd).getD [] }

/-- `apply_projection`. -/
def applyProjection (entitiesByClaim : EntitiesByClaim) (claims : List SemanticClaimRecord) :
    List SemanticClaimRecord :=
  claims.map (SemanticClaimRecord.stamped entitiesByClaim)

/-! ## Where a projected entity comes from -/

section Origin

variable {c : Codec} {repr : String → String} {claims : List SemanticClaimRecord}

theorem projectClaim_eq_some {claim : SemanticClaimRecord} {projected : ProjectedEntities} :
    projectClaim c repr claim = some projected ↔
      eligibleForCanonicalProjection claim = true ∧
        ∃ projector, (projectors c repr).lookup claim.predicate = some projector ∧
          projector claim = projected := by
  unfold projectClaim
  by_cases h : eligibleForCanonicalProjection claim = true
  · simp [h]
  · simp [h]

theorem mem_projectedClaims {claim : SemanticClaimRecord} {projected : ProjectedEntities} :
    (claim, projected) ∈ projectedClaims c repr claims ↔
      claim ∈ claims ∧ projectClaim c repr claim = some projected := by
  simp [projectedClaims, and_left_comm]

theorem mem_projected_edges {edge : EdgeRecord} (h : edge ∈ (projectClaims c repr claims).edges) :
    ∃ claim ∈ claims, ∃ projected, projectClaim c repr claim = some projected ∧
      edge ∈ projected.edges := by
  rw [projectClaims, mem_sortedBy] at h
  obtain ⟨⟨claim, projected⟩, hentry, hedge⟩ := List.mem_flatMap.1 (Table.mem_of_mem_ofRows h)
  obtain ⟨hclaim, hprojected⟩ := mem_projectedClaims.1 hentry
  exact ⟨claim, hclaim, projected, hprojected, hedge⟩

theorem mem_projected_nodes {node : GraphRecord} (h : node ∈ (projectClaims c repr claims).nodes) :
    ∃ claim ∈ claims, ∃ projected, projectClaim c repr claim = some projected ∧
      node ∈ projected.nodes := by
  rw [projectClaims, mem_sortedBy] at h
  obtain ⟨⟨claim, projected⟩, hentry, hnode⟩ := List.mem_flatMap.1 (Table.mem_of_mem_firstRows h)
  obtain ⟨hclaim, hprojected⟩ := mem_projectedClaims.1 hentry
  exact ⟨claim, hclaim, projected, hprojected, hnode⟩

/-- An edge that a claim projects is kept, or another one of its id. -/
theorem exists_projected_edge {claim : SemanticClaimRecord} (hclaim : claim ∈ claims)
    {projected : ProjectedEntities} (hprojected : projectClaim c repr claim = some projected)
    {edge : EdgeRecord} (hedge : edge ∈ projected.edges) :
    ∃ kept ∈ (projectClaims c repr claims).edges, kept.edgeId = edge.edgeId := by
  have hprojects : edge ∈ (projectedClaims c repr claims).flatMap fun entry => entry.2.edges :=
    List.mem_flatMap.2 ⟨_, mem_projectedClaims.2 ⟨hclaim, hprojected⟩, hedge⟩
  obtain ⟨kept, hkept, hid⟩ : ∃ kept ∈ (Table.ofRows EdgeRecord.edgeId
      ((projectedClaims c repr claims).flatMap fun entry => entry.2.edges)).rows,
        kept.edgeId = edge.edgeId := Table.exists_mem_ofRows hprojects
  exact ⟨kept, mem_sortedBy.2 hkept, hid⟩

theorem exists_projected_node {claim : SemanticClaimRecord} (hclaim : claim ∈ claims)
    {projected : ProjectedEntities} (hprojected : projectClaim c repr claim = some projected)
    {node : GraphRecord} (hnode : node ∈ projected.nodes) :
    ∃ kept ∈ (projectClaims c repr claims).nodes, kept.entityId = node.entityId := by
  have hprojects : node ∈ (projectedClaims c repr claims).flatMap fun entry => entry.2.nodes :=
    List.mem_flatMap.2 ⟨_, mem_projectedClaims.2 ⟨hclaim, hprojected⟩, hnode⟩
  obtain ⟨kept, hkept, hid⟩ : ∃ kept ∈ (Table.firstRows GraphRecord.entityId
      ((projectedClaims c repr claims).flatMap fun entry => entry.2.nodes)).rows,
        kept.entityId = node.entityId := Table.exists_mem_firstRows hprojects
  exact ⟨kept, mem_sortedBy.2 hkept, hid⟩

theorem mem_projected_capabilities {capability : CapabilityRecord}
    (h : capability ∈ (projectClaims c repr claims).capabilities) :
    ∃ claim ∈ claims, ∃ projected, projectClaim c repr claim = some projected ∧
      capability ∈ projected.capabilities := by
  rw [projectClaims, mem_sortedBy] at h
  obtain ⟨⟨claim, projected⟩, hentry, hcapability⟩ := List.mem_flatMap.1 h
  obtain ⟨hclaim, hprojected⟩ := mem_projectedClaims.1 hentry
  exact ⟨claim, hclaim, projected, hprojected, hcapability⟩

end Origin

end ConstellationTopology
