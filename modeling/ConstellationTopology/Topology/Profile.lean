import ConstellationTopology.Compiler
import ConstellationTopology.Library.Fallible
import ConstellationTopology.Packets.GenerationFiles

set_option autoImplicit false

/-! # Reading a profile

What `topology/risk.py` and `topology/maturity.py` ask of a profile and of a repository. A profile is
the mapping of a YAML file; what it lacks raises when it is read, not before. -/

namespace ConstellationTopology

/-- The numbers Python makes of a value: `int(value)`. -/
abbrev PythonInt := Json → Except String ℤ

/-- `int` of an integer or a truth value; nothing else is a number here. -/
def plainInt : PythonInt
  | .int value => .ok value
  | .bool value => .ok (if value then 1 else 0)
  | _ => .error "ValueError"

namespace Json

/-- `value.get(key, default)` of a mapping. -/
def getD (value : Json) (key : String) (default : Json) : Json := (value.get? key).getD default

end Json

/-- `value[key]`. -/
def profileKey (key : String) (value : Json) : Except String Json :=
  expect (value.get? key) ("KeyError: " ++ key)

/-- The entries of a mapping; nothing else has entries. -/
def mappingItems (value : Json) : Except String (List (String × Json)) :=
  match value with
  | .obj fields => .ok fields
  | _ => .error "AttributeError: items"

/-- The elements of a sequence; nothing else is walked. -/
def sequenceItems (value : Json) : Except String (List Json) :=
  match value with
  | .arr items => .ok items
  | _ => .error "TypeError: not a sequence"

/-! ## Levels -/

/-- `ConfidenceLevel(value)`. -/
def ConfidenceLevel.ofText (value : String) : Except String ConfidenceLevel :=
  expect ([low, medium, high].find? fun level => level.value = value) "ValueError: ConfidenceLevel"

/-! ## Repositories -/

/-- The fields of a record, each with its truth value. -/
def RepositoryRecord.truths (record : RepositoryRecord) : List (String × Bool) :=
  [("repository_id", record.repositoryId ≠ ""), ("name", record.name ≠ ""),
    ("source_revision", record.sourceRevision ≠ ""), ("packet_ref", record.packetRef ≠ ""),
    ("primary_role", record.primaryRole ≠ ""), ("secondary_roles", record.secondaryRoles ≠ []),
    ("languages", record.languages ≠ []), ("package_managers", record.packageManagers ≠ []),
    ("entrypoints", record.entrypoints ≠ []), ("workflows", record.workflows ≠ []),
    ("adr_refs", record.adrRefs ≠ []), ("governance_refs", record.governanceRefs ≠ []),
    ("capability_ids", record.capabilityIds ≠ []), ("artifact_ids", record.artifactIds ≠ []),
    ("upstream_repository_ids", record.upstreamRepositoryIds ≠ []),
    ("downstream_repository_ids", record.downstreamRepositoryIds ≠ []),
    ("unresolved_dependencies", record.unresolvedDependencies ≠ []),
    ("owner_ids", record.ownerIds ≠ []), ("evidence_refs", record.evidenceRefs ≠ []),
    ("confidence", true)]

/-- `bool(getattr(repository, field, ()))`, for the fields of the record. -/
def RepositoryRecord.carries (record : RepositoryRecord) (field : String) : Bool :=
  (record.truths.lookup field).getD false

end ConstellationTopology
