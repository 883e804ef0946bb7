import ConstellationTopology.Domain.Claim

set_option autoImplicit false

/-! # Declared cardinality of topology facts

`reconciliation/cardinality.py`: which fields admit one value, which several, and when several
values are a contradiction. -/

namespace ConstellationTopology

/-- `SINGLE_VALUED_FIELDS`. -/
def singleValuedFields : List String :=
  ["artifact_type", "body_hash", "content_hash", "default_branch", "description", "direction",
    "edge_type", "family", "license", "name", "packet_ref", "primary_role", "repository_id",
    "source", "source_path", "source_revision", "target_id", "version"]

/-- `SET_VALUED_FIELDS`. -/
def setValuedFields : List String :=
  ["adr_refs", "artifact_ids", "capabilities", "capability_ids", "declared_actions",
    "dependencies", "downstream_repository_ids", "entrypoints", "evidence_refs", "exposed_by",
    "governance_refs", "governed_by", "implemented_by", "languages", "owner_ids",
    "package_managers", "secondary_roles", "tags", "unresolved_dependencies",
    "upstream_repository_ids", "validated_by", "workflows"]

/-- The check the module makes at import. -/
theorem valuedFields_disjoint : List.Disjoint singleValuedFields setValuedFields := by
  have hdisjoint : ∀ field ∈ singleValuedFields, field ∉ setValuedFields := by decide +kernel
  exact fun field h => hdisjoint field h

/-- `cardinality_of`: unknown where none is declared. -/
def cardinalityOf (field : Option String) : Cardinality :=
  match field with
  | none => .unknown
  | some name =>
      if name ∈ setValuedFields then .set
      else if name ∈ singleValuedFields then .single
      else .unknown

/-- `is_conflicting`. -/
def isConflicting (field : Option String) (values : List String) : Bool :=
  values.length > 1 ∧ cardinalityOf field = .single

end ConstellationTopology
