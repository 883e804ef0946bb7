import ConstellationTopology.Domain.Claim

set_option autoImplicit false

/-! # Field cardinality contract

`cardinality.py`: how many values an evidence field may hold at once. It is a different table from
the one of the reconciliation policy, and the one the evidence stage reads. -/

namespace ConstellationTopology

namespace FieldCardinality

/-- `_SINGLE_VALUED`. -/
def singleValued : List String :=
  ["repository_id", "name", "source_revision", "packet_ref", "primary_role", "capability_id",
    "description", "artifact_id", "source_path", "artifact_type", "family", "content_hash",
    "body_hash"]

/-- `_SET_VALUED`. -/
def setValued : List String :=
  ["secondary_roles", "languages", "package_managers", "entrypoints", "workflows", "adr_refs",
    "governance_refs", "capability_ids", "artifact_ids", "upstream_repository_ids",
    "downstream_repository_ids", "unresolved_dependencies", "owner_ids", "evidence_refs",
    "implemented_by", "exposed_by", "validated_by", "governed_by", "capabilities",
    "declared_actions", "dependencies"]

/-- `cardinality_of`: an undeclared field is unknown, never assumed to be singular. The set-valued
    fields are entered last in the declaration. -/
def cardinalityOf (field : String) : Cardinality :=
  if field ∈ setValued then .set else if field ∈ singleValued then .single else .unknown

end FieldCardinality

end ConstellationTopology
