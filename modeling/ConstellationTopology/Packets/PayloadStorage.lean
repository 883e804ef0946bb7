import ConstellationTopology.Packets.BundleLoader
import ConstellationTopology.Packets.Payloads

set_option autoImplicit false

/-! # Payloads inline and in files

The data model of Repository Model packets: how a payload is read from the packet itself, and how it
is put together from the files that `payload_refs` names. The validation of single records is a
parameter, and nothing is assumed of it. -/

namespace ConstellationTopology

/-- The domains of a payload. -/
inductive RepositoryDomain
  | repositories
  | artifacts
  | capabilities
  | relationships
  | evidence
  | diagnostics
  | assertions
  deriving DecidableEq, Repr

namespace RepositoryDomain

/-- The name of the domain, under which it is stored. -/
def value : RepositoryDomain → String
  | repositories => "repositories"
  | artifacts => "artifacts"
  | capabilities => "capabilities"
  | relationships => "relationships"
  | evidence => "evidence"
  | diagnostics => "diagnostics"
  | assertions => "assertions"

/-- The fields of `RepositoryModelPayload`. -/
def members : List RepositoryDomain :=
  [repositories, artifacts, capabilities, relationships, evidence, diagnostics, assertions]

/-- What is dumped of a domain at its default: the assertions are then left out. -/
def default : RepositoryDomain → Option Json
  | assertions => none
  | _ => some (.arr [])

end RepositoryDomain

/-! ## The payload as data -/

/-- The dumped assertion. -/
def RepositoryModelAssertion.toJson (assertion : RepositoryModelAssertion) : Json :=
  .obj [("assertion_id", .str assertion.assertionId),
    ("subject_id", .str assertion.subjectId),
    ("predicate", .str assertion.predicate),
    ("object", .str assertion.object),
    ("source_path", .str assertion.sourcePath),
    ("source_range", .obj [("start_line", .int assertion.startLine),
      ("end_line", .int assertion.endLine)]),
    ("evidence_excerpt", .str assertion.evidenceExcerpt),
    ("source_content_hash", .str assertion.sourceContentHash),
    ("extractor_id", .str assertion.extractorId),
    ("evidence_class", .str assertion.evidenceClass.evidenceClass.value),
    ("authority", .str assertion.authority),
    ("confidence", .str assertion.confidence)]

namespace RepositoryModelPayload

/-- The stored records of a domain. -/
def domainJson (payload : RepositoryModelPayload) : RepositoryDomain → Option Json
  | .repositories => some (.arr (payload.repositories.map RepositoryRecord.toJson))
  | .artifacts => some (.arr (payload.artifacts.map ArtifactRecord.toJson))
  | .capabilities => some (.arr (payload.capabilities.map CapabilityRecord.toJson))
  | .relationships => some (.arr (payload.relationships.map EdgeRecord.toJson))
  | .evidence => some (.arr (payload.evidence.map EvidenceRecord.toJson))
  | .diagnostics => some (.arr (payload.diagnostics.map Json.obj))
  | .assertions => payload.assertions.map fun assertions =>
      .arr (assertions.map RepositoryModelAssertion.toJson)

def toJson (payload : RepositoryModelPayload) : Json :=
  .obj (optionalFields (RepositoryDomain.members.map fun d => (d.value, payload.domainJson d)))

theorem get?_toJson (payload : RepositoryModelPayload) (d : RepositoryDomain) :
    payload.toJson.get? d.value = payload.domainJson d := by
  refine (lookup_optionalFields ?_ d.value).trans ?_
  · show (RepositoryDomain.members.map RepositoryDomain.value).Nodup
    decide
  · cases d <;> rfl

/-- The domain holds what it holds when nothing is said of it. -/
def AtDefault (payload : RepositoryModelPayload) (d : RepositoryDomain) : Prop :=
  payload.domainJson d = d.default

/-- The payload with the other domains at their defaults. -/
def keep (stored : RepositoryDomain → Bool) (payload : RepositoryModelPayload) :
    RepositoryModelPayload where
  repositories := if stored .repositories then payload.repositories else []
  artifacts := if stored .artifacts then payload.artifacts else []
  capabilities := if stored .capabilities then payload.capabilities else []
  relationships := if stored .relationships then payload.relationships else []
  evidence := if stored .evidence then payload.evidence else []
  diagnostics := if stored .diagnostics then payload.diagnostics else []
  assertions := if stored .assertions then payload.assertions else none

theorem domainJson_keep (stored : RepositoryDomain → Bool) (payload : RepositoryModelPayload)
    (d : RepositoryDomain) :
    (payload.keep stored).domainJson d = if stored d then payload.domainJson d else d.default := by
  cases d <;> simp only [keep, domainJson, RepositoryDomain.default] <;> split <;> rfl

/-- The kept payload is the payload as far as only defaults are dropped. -/
theorem keep_toJson_iff {stored : RepositoryDomain → Bool} {payload : RepositoryModelPayload} :
    (payload.keep stored).toJson = payload.toJson ↔
      ∀ d, stored d = false → payload.AtDefault d := by
  constructor
  · intro h d hd
    have hdomain := congrArg (Json.get? d.value) h
    rw [get?_toJson, get?_toJson, domainJson_keep, hd] at hdomain
    exact hdomain.symm
  · intro h
    have hdomains : (payload.keep stored).domainJson = payload.domainJson := by
      funext d
      rw [domainJson_keep]
      split
      · rfl
      · next hd => exact (h d (by simpa using hd)).symm
    unfold toJson
    rw [hdomains]

end RepositoryModelPayload

/-! ## The data models -/

/-- Validation of the records of a packet and of its fields beside the payload, and what the
    semantic view takes of those fields. -/
structure RepositoryModels where
  packet : Json → Option PacketDocument
  repository : Json → Option RepositoryRecord
  artifact : Json → Option ArtifactRecord
  capability : Json → Option CapabilityRecord
  relationship : Json → Option EdgeRecord
  evidence : Json → Option EvidenceRecord
  assertion : Json → Option RepositoryModelAssertion
  view : PacketDocument → List (String × Json)

variable (models : RepositoryModels)

/-- A tuple of records. -/
def readTuple {α : Type} (read : Json → Option α) : Json → Option (List α)
  | .arr items => items.mapM read
  | _ => none

/-- `RepositoryModelPayload.model_validate`. -/
def inlinePayload (value : Json) : Option RepositoryModelPayload := do
  forbidExtra (RepositoryDomain.members.map RepositoryDomain.value) value
  let repositories ← tupleField models.repository "repositories" value
  let artifacts ← tupleField models.artifact "artifacts" value
  let capabilities ← tupleField models.capability "capabilities" value
  let relationships ← tupleField models.relationship "relationships" value
  let evidence ← tupleField models.evidence "evidence" value
  let diagnostics ← tupleField readMapping "diagnostics" value
  let assertions ← nullableField (readTuple models.assertion) "assertions" value
  return { repositories, artifacts, capabilities, relationships, evidence, diagnostics,
           assertions }

/-- `tuple` of a value: the keys of a mapping, the characters of a text. -/
def pythonTuple : Json → Option (List Json)
  | .arr items => some items
  | .obj fields => some (fields.map fun field => .str field.1)
  | .str text => some (text.toList.map fun ch => .str (String.singleton ch))
  | _ => none

/-- `tuple(payload_parts.get(key, ()))` as a field of the payload. -/
def partTuple {α : Type} (read : Json → Option α) (key : String) (parts : List (String × Json)) :
    Option (List α) :=
  match parts.lookup key with
  | none => some []
  | some value => (pythonTuple value).bind fun items => items.mapM read

/-- The payload of `_materialize_repository_payload`. -/
def referencedPayload (parts : List (String × Json)) : Option RepositoryModelPayload := do
  let repositories ← partTuple models.repository "repositories" parts
  let artifacts ← partTuple models.artifact "artifacts" parts
  let capabilities ← partTuple models.capability "capabilities" parts
  let relationships ← partTuple models.relationship "relationships" parts
  let evidence ← partTuple models.evidence "evidence" parts
  let diagnostics ← partTuple readMapping "diagnostics" parts
  return { repositories, artifacts, capabilities, relationships, evidence, diagnostics }

/-- The data model of Repository Model packets. -/
def repositoryPacketModel : PacketModel where
  modelValidate value := do
    let packet ← models.packet value
    let payload ← nullableField (inlinePayload models) "payload" value
    return { packet with payload := payload.map RepositoryModelPayload.toJson }
  payloadModel parts := (referencedPayload models parts).map RepositoryModelPayload.toJson
  semanticView packet := .obj (models.view packet ++
    [("payload_refs", textFields packet.payloadRefs), ("payload", packet.payload.getD .null)])

/-! ## Stored documents -/

/-- The records of a payload as the producer wrote them. -/
structure PayloadDocuments where
  repositories : List Json := []
  artifacts : List Json := []
  capabilities : List Json := []
  relationships : List Json := []
  evidence : List Json := []
  diagnostics : List Json := []
  assertions : Option (List Json) := none

namespace PayloadDocuments

/-- The document that stands for a domain. -/
def document (docs : PayloadDocuments) : RepositoryDomain → Json
  | .repositories => .arr docs.repositories
  | .artifacts => .arr docs.artifacts
  | .capabilities => .arr docs.capabilities
  | .relationships => .arr docs.relationships
  | .evidence => .arr docs.evidence
  | .diagnostics => .arr docs.diagnostics
  | .assertions => (docs.assertions.map Json.arr).getD .null

/-- The documents are those of the payload: each record validates to the one it stands for. -/
structure Describe (docs : PayloadDocuments) (payload : RepositoryModelPayload) : Prop where
  repositories : docs.repositories.mapM models.repository = some payload.repositories
  artifacts : docs.artifacts.mapM models.artifact = some payload.artifacts
  capabilities : docs.capabilities.mapM models.capability = some payload.capabilities
  relationships : docs.relationships.mapM models.relationship = some payload.relationships
  evidence : docs.evidence.mapM models.evidence = some payload.evidence
  diagnostics : docs.diagnostics.mapM readMapping = some payload.diagnostics
  assertions : docs.assertions.mapM (List.mapM models.assertion) = some payload.assertions

end PayloadDocuments

variable {models} {docs : PayloadDocuments} {payload : RepositoryModelPayload}

theorem tupleField_stored {α : Type} {read : Json → Option α} (key : String) (value : Json)
    {items : List Json} {records : List α} (hitems : items.mapM read = some records)
    (hvalue : ∀ v, value.get? key = some v → v = .arr items) :
    tupleField read key value = some (if (value.get? key).isSome then records else []) := by
  unfold tupleField
  cases hget : value.get? key with
  | none => rfl
  | some v =>
      rw [hvalue v hget]
      exact hitems

theorem partTuple_stored {α : Type} {read : Json → Option α} (key : String)
    {parts : List (String × Json)} {items : List Json} {records : List α}
    (hitems : items.mapM read = some records)
    (hvalue : ∀ v, parts.lookup key = some v → v = .arr items) :
    partTuple read key parts = some (if (parts.lookup key).isSome then records else []) := by
  unfold partTuple
  cases hget : parts.lookup key with
  | none => rfl
  | some v =>
      rw [hvalue v hget]
      exact hitems

/-- The assertions of a packet that states them inline. -/
theorem assertions_stored (value : Json) (h : docs.Describe models payload)
    (hvalue : ∀ v, value.get? "assertions" = some v → v = docs.document .assertions) :
    nullableField (readTuple models.assertion) "assertions" value =
      some (if (value.get? "assertions").isSome then payload.assertions else none) := by
  have hassertions := h.assertions
  unfold nullableField
  cases hget : value.get? "assertions" with
  | none => rfl
  | some v =>
      rw [hvalue v hget]
      unfold PayloadDocuments.document
      cases hdocs : docs.assertions with
      | none =>
          rw [hdocs] at hassertions
          exact hassertions
      | some items =>
          rw [hdocs] at hassertions
          show (items.mapM models.assertion).map some = some payload.assertions
          simpa [Option.map_eq_bind] using hassertions

/-- What an inline payload is read as: the domains in it, the others at their defaults. -/
theorem inlinePayload_stored {fields : List (String × Json)} (h : docs.Describe models payload)
    (hkeys : ∀ field ∈ fields, field.1 ∈ RepositoryDomain.members.map RepositoryDomain.value)
    (hvalue : ∀ d v, fields.lookup (RepositoryDomain.value d) = some v → v = docs.document d) :
    inlinePayload models (.obj fields) =
      some (payload.keep fun d => (fields.lookup d.value).isSome) := by
  have hforbid : forbidExtra (RepositoryDomain.members.map RepositoryDomain.value) (.obj fields) =
      some () := if_pos hkeys
  unfold inlinePayload
  rw [hforbid, tupleField_stored "repositories" (.obj fields) h.repositories (hvalue .repositories),
    tupleField_stored "artifacts" (.obj fields) h.artifacts (hvalue .artifacts),
    tupleField_stored "capabilities" (.obj fields) h.capabilities (hvalue .capabilities),
    tupleField_stored "relationships" (.obj fields) h.relationships (hvalue .relationships),
    tupleField_stored "evidence" (.obj fields) h.evidence (hvalue .evidence),
    tupleField_stored "diagnostics" (.obj fields) h.diagnostics (hvalue .diagnostics),
    assertions_stored (.obj fields) h (hvalue .assertions)]
  rfl

/-- What the files are read as: the assertions are not among the domains that are looked for. -/
theorem referencedPayload_stored {parts : List (String × Json)} (h : docs.Describe models payload)
    (hvalue : ∀ d v, parts.lookup (RepositoryDomain.value d) = some v → v = docs.document d) :
    referencedPayload models parts =
      some (payload.keep fun d => d ≠ .assertions && (parts.lookup d.value).isSome) := by
  unfold referencedPayload
  rw [partTuple_stored "repositories" h.repositories (hvalue .repositories),
    partTuple_stored "artifacts" h.artifacts (hvalue .artifacts),
    partTuple_stored "capabilities" h.capabilities (hvalue .capabilities),
    partTuple_stored "relationships" h.relationships (hvalue .relationships),
    partTuple_stored "evidence" h.evidence (hvalue .evidence),
    partTuple_stored "diagnostics" h.diagnostics (hvalue .diagnostics)]
  rfl

end ConstellationTopology
