import ConstellationTopology.Domain.Assessment
import ConstellationTopology.Library.Collection
import ConstellationTopology.Library.Text
import ConstellationTopology.Run.Hashing

set_option autoImplicit false

/-! # Normalizing diagnostics

`run/diagnostics.py`: a raw diagnostic of a producer, a plain dictionary, becomes a record. `str` of
a Python value is a parameter. -/

namespace ConstellationTopology

/-- The truth of a value. -/
def Json.isTrue : Json → Bool
  | .null => false
  | .bool value => value
  | .int value => value ≠ 0
  | .float value => value ≠ 0
  | .str value => value ≠ ""
  | .arr items => ¬ items.isEmpty
  | .obj fields => ¬ fields.isEmpty

/-- The three severities there are; every other text is a warning. -/
def namedSeverity (value : String) : Severity :=
  match value with
  | "info" => .info
  | "error" => .error
  | _ => .warning

section Normalize

variable (c : Codec) (str : Json → String)

/-- `str(raw.get(key, default))`. -/
def rawText (raw : List (String × Json)) (key default : String) : String :=
  ((raw.lookup key).map str).getD default

/-- `str(value) if value is not None else None`. -/
def optionalRawText (raw : List (String × Json)) (key : String) : Option String :=
  match raw.lookup key with
  | none => none
  | some .null => none
  | some value => some (str value)

/-- The evidence references of a raw diagnostic, if they are a list. -/
def rawEvidenceRefs (raw : List (String × Json)) : List String :=
  match raw.lookup "evidence_refs" with
  | some (.arr items) => sortedBy id (items.map str)
  | _ => []

/-- `normalize_diagnostic`. -/
def normalizeDiagnostic (raw : List (String × Json)) (sourcePacketId : String) (index : ℕ) :
    DiagnosticRecord :=
  let severity := namedSeverity (lowerAscii (rawText str raw "severity" "warning"))
  let code := rawText str raw "code" "upstream-diagnostic"
  let message := rawText str raw "message" "Upstream repository analysis emitted a diagnostic."
  let stage := rawText str raw "stage" "repository-model"
  let subjectId := optionalRawText str raw "subject_id"
  let canonical := (Json.obj raw).canonicalData
  let identity := Json.obj [("source_packet_id", .str sourcePacketId), ("index", .int index),
    ("stage", .str stage), ("severity", .str severity.value), ("code", .str code),
    ("message", .str message), ("subject_id", (subjectId.map .str).getD .null),
    ("raw", canonical)]
  { diagnosticId :=
      match (raw.lookup "diagnostic_id").filter Json.isTrue with
      | some given => str given
      | none => c.stableId "diagnostic" identity
    sourcePacketId := sourcePacketId
    stage := stage
    severity := severity
    code := code
    message := message
    category := rawText str raw "category" "upstream"
    subjectId := subjectId
    evidenceRefs := rawEvidenceRefs str raw
    disposition := .preserved
    details := [("raw", canonical)] }

/-- The diagnostics of a packet. -/
def normalizeDiagnostics (raws : List (List (String × Json))) (sourcePacketId : String) :
    List DiagnosticRecord :=
  raws.zipIdx.map fun entry => normalizeDiagnostic c str entry.1 sourcePacketId entry.2

end Normalize

end ConstellationTopology
