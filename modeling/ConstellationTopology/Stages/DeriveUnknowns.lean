import ConstellationTopology.Run.Diagnostics

set_option autoImplicit false

/-! # Unknowns that producers declare

`stages/derive_unknowns.py`: a diagnostic that says what its producer could not establish becomes an
unknown of the field it names. -/

namespace ConstellationTopology

namespace DeriveUnknowns

/-- `FIELD_BEARING_CODES`. -/
def fieldBearingCodes : List String := ["unsupported-by-evidence"]

/-- `FIXED_FIELD_BY_CODE`. -/
def fixedFieldByCode : List (String × String) := [("inventory-unknown", "artifact_type")]

/-- `UNKNOWN_BEARING_CODES`. -/
def unknownBearingCodes : List String := fieldBearingCodes ++ fixedFieldByCode.map Prod.fst

variable (c : Codec) (str : Json → String)

/-- `_declared_field`: `get?` of what is no mapping gives nothing. -/
def declaredField (diagnostic : DiagnosticRecord) : Option String :=
  match fixedFieldByCode.lookup diagnostic.code with
  | some fixed => some fixed
  | none =>
      let raw := (diagnostic.details.lookup "raw").getD .null
      let details := (raw.get? "details").getD .null
      ((details.get? "field").filter Json.isTrue).map str

/-- What identifies a declared unknown. -/
def declaredIdentity (diagnostic : DiagnosticRecord) (subjectId : String) :
    String × String × Option String :=
  (diagnostic.diagnosticId, subjectId, declaredField str diagnostic)

/-- The id of a declared unknown. -/
def declaredUnknownId (identity : String × String × Option String) : String :=
  c.stableId "unknown" (.obj [("diagnostic_id", .str identity.1),
    ("subject_id", .str identity.2.1), ("field", (identity.2.2.map .str).getD .null)])

/-- The subject of a diagnostic that declares an unknown. -/
def declaredSubject (diagnostic : DiagnosticRecord) : Option String :=
  if diagnostic.code ∈ unknownBearingCodes then diagnostic.subjectId else none

/-- The unknown of a diagnostic. -/
def declaredUnknown (diagnostic : DiagnosticRecord) (subjectId : String) : UnknownRecord where
  unknownId := declaredUnknownId c (declaredIdentity str diagnostic subjectId)
  subjectId := subjectId
  field := declaredField str diagnostic
  reason := diagnostic.message
  evidenceRefs := diagnostic.evidenceRefs

/-- `run`. -/
def run (diagnostics : List DiagnosticRecord) : List UnknownRecord :=
  sortedBy UnknownRecord.unknownId (diagnostics.filterMap fun diagnostic =>
    (declaredSubject diagnostic).map (declaredUnknown c str diagnostic))

/-- The identities of the declared unknowns. -/
def declaredIdentities (diagnostics : List DiagnosticRecord) :
    List (String × String × Option String) :=
  diagnostics.filterMap fun diagnostic =>
    (declaredSubject diagnostic).map (declaredIdentity str diagnostic)

end DeriveUnknowns

end ConstellationTopology
