import ConstellationTopology.Library.KeyOrder
import ConstellationTopology.Run.Hashing

set_option autoImplicit false

/-! # Transport packets

`packets/transport.py`: the envelope of every message of the worker, its JSON form, and the
validation that reads it back. A mapping holds JSON data.

How the validation library converts a number, a boolean and a date is a parameter, with what is
documented of it: it reads what it prints. -/

namespace ConstellationTopology

/-- The fields of a `dict[str, Any]`. -/
abbrev JsonMapping := List (String × Json)

/-- The kinds of messages. -/
inductive TransportPacketType
  | command
  | event
  | result
  | failure
  deriving DecidableEq, Repr

/-- The packet type as it is serialized. -/
def TransportPacketType.value : TransportPacketType → String
  | command => "command"
  | event => "event"
  | result => "result"
  | failure => "failure"

/-- The packet type a text names. -/
def TransportPacketType.ofValue? (value : String) : Option TransportPacketType :=
  [command, event, result, failure].find? fun packetType => packetType.value = value

/-- What identifies a message and its course. -/
structure TransportHeader where
  packetId : String
  packetType : TransportPacketType
  action : String
  schemaVersion : String
  idempotencyKey : String
  traceId : String
  correlationId : String
  workflowId : Option String := none
  createdAt : Option Timestamp := none
  deriving DecidableEq, Repr

/-- A document that goes with a message. -/
structure TransportAttachment where
  attachmentId : String
  uri : String
  mediaType : String
  contentHash : String
  sizeBytes : ℤ
  encrypted : Bool := false
  deriving DecidableEq, Repr

/-- A signature with the key it was made with. -/
structure TransportSignature where
  algorithm : String
  keyId : String
  value : String
  deriving DecidableEq, Repr

/-- The signatures of a message. -/
structure TransportSecurity where
  signatures : List TransportSignature := []
  deriving DecidableEq, Repr

/-- A message. -/
structure TransportPacket where
  header : TransportHeader
  provenance : JsonMapping := []
  governance : JsonMapping := []
  security : TransportSecurity := {}
  attachments : List TransportAttachment := []
  payload : JsonMapping

/-! ## The JSON form

`model_dump(mode="json", exclude_none=True)`. -/

/-- A header as it is dumped. -/
def TransportHeader.toJson (header : TransportHeader) : Json :=
  .obj ([("packet_id", .str header.packetId),
      ("packet_type", .str header.packetType.value),
      ("action", .str header.action),
      ("schema_version", .str header.schemaVersion),
      ("idempotency_key", .str header.idempotencyKey),
      ("trace_id", .str header.traceId),
      ("correlation_id", .str header.correlationId)]
    ++ optionalField "workflow_id" (header.workflowId.map .str)
    ++ optionalField "created_at" (header.createdAt.map fun time => .str time.isoformat))

/-- An attachment as it is dumped. -/
def TransportAttachment.toJson (attachment : TransportAttachment) : Json :=
  .obj [("attachment_id", .str attachment.attachmentId),
    ("uri", .str attachment.uri),
    ("media_type", .str attachment.mediaType),
    ("content_hash", .str attachment.contentHash),
    ("size_bytes", .int attachment.sizeBytes),
    ("encrypted", .bool attachment.encrypted)]

/-- A signature as it is dumped. -/
def TransportSignature.toJson (signature : TransportSignature) : Json :=
  .obj [("algorithm", .str signature.algorithm),
    ("key_id", .str signature.keyId),
    ("value", .str signature.value)]

/-- The signatures as they are dumped. -/
def TransportSecurity.toJson (security : TransportSecurity) : Json :=
  .obj [("signatures", .arr (security.signatures.map TransportSignature.toJson))]

/-- A message as it is dumped. -/
def TransportPacket.toJson (packet : TransportPacket) : Json :=
  .obj [("header", packet.header.toJson),
    ("provenance", .obj packet.provenance),
    ("governance", .obj packet.governance),
    ("security", packet.security.toJson),
    ("attachments", .arr (packet.attachments.map TransportAttachment.toJson)),
    ("payload", .obj packet.payload)]

/-! ## Validation

`model_validate_json` after the text is read, without the texts of its errors. -/

/-- How the validation library reads a number, a boolean and a date. -/
structure Pydantic where
  int : Json → Option ℤ
  bool : Json → Option Bool
  datetime : Json → Option Timestamp
  int_int : ∀ value, int (.int value) = some value
  bool_bool : ∀ value, bool (.bool value) = some value
  datetime_isoformat : ∀ time : Timestamp, datetime (.str time.isoformat) = some time

/-- `extra="forbid"`: an object without other keys. -/
def forbidExtra (keys : List String) : Json → Option Unit
  | .obj fields => if ∀ field ∈ fields, field.1 ∈ keys then some () else none
  | _ => none

/-- A field that may be missing or null. -/
def nullableField {α : Type} (read : Json → Option α) (key : String) (value : Json) :
    Option (Option α) :=
  match value.get? key with
  | none => some none
  | some .null => some none
  | some found => (read found).map some

/-- A text. -/
def readText : Json → Option String
  | .str text => some text
  | _ => none

/-- A mapping. -/
def readMapping : Json → Option JsonMapping
  | .obj fields => some fields
  | _ => none

/-- A mapping that is empty when the field is missing. -/
def mappingField (key : String) (value : Json) : Option JsonMapping :=
  match value.get? key with
  | none => some []
  | some found => readMapping found

/-- A tuple that is empty when the field is missing. -/
def tupleField {α : Type} (read : Json → Option α) (key : String) (value : Json) :
    Option (List α) :=
  match value.get? key with
  | none => some []
  | some (.arr items) => items.mapM read
  | some _ => none

variable (pydantic : Pydantic)

/-- The validation of a header. -/
def TransportHeader.ofJson (value : Json) : Option TransportHeader := do
  forbidExtra ["packet_id", "packet_type", "action", "schema_version", "idempotency_key",
    "trace_id", "correlation_id", "workflow_id", "created_at"] value
  let packetId ← value.fieldText? "packet_id"
  let packetType ← (value.fieldText? "packet_type").bind TransportPacketType.ofValue?
  let action ← value.fieldText? "action"
  let schemaVersion ← value.fieldText? "schema_version"
  let idempotencyKey ← value.fieldText? "idempotency_key"
  let traceId ← value.fieldText? "trace_id"
  let correlationId ← value.fieldText? "correlation_id"
  let workflowId ← nullableField readText "workflow_id" value
  let createdAt ← nullableField pydantic.datetime "created_at" value
  return { packetId, packetType, action, schemaVersion, idempotencyKey, traceId, correlationId,
           workflowId, createdAt }

/-- The validation of an attachment. -/
def TransportAttachment.ofJson (value : Json) : Option TransportAttachment := do
  forbidExtra ["attachment_id", "uri", "media_type", "content_hash", "size_bytes", "encrypted"]
    value
  let attachmentId ← value.fieldText? "attachment_id"
  let uri ← value.fieldText? "uri"
  let mediaType ← value.fieldText? "media_type"
  let contentHash ← value.fieldText? "content_hash"
  let sizeBytes ← (value.get? "size_bytes").bind pydantic.int
  let encrypted ← match value.get? "encrypted" with
    | none => some false
    | some found => pydantic.bool found
  return { attachmentId, uri, mediaType, contentHash, sizeBytes, encrypted }

/-- The validation of a signature. -/
def TransportSignature.ofJson (value : Json) : Option TransportSignature := do
  forbidExtra ["algorithm", "key_id", "value"] value
  let algorithm ← value.fieldText? "algorithm"
  let keyId ← value.fieldText? "key_id"
  let signatureValue ← value.fieldText? "value"
  return { algorithm, keyId, value := signatureValue }

/-- The validation of the signatures. -/
def TransportSecurity.ofJson (value : Json) : Option TransportSecurity := do
  forbidExtra ["signatures"] value
  let signatures ← tupleField TransportSignature.ofJson "signatures" value
  return { signatures }

/-- The validation of a message. -/
def TransportPacket.ofJson (value : Json) : Option TransportPacket := do
  forbidExtra ["header", "provenance", "governance", "security", "attachments", "payload"] value
  let header ← (value.get? "header").bind (TransportHeader.ofJson pydantic)
  let provenance ← mappingField "provenance" value
  let governance ← mappingField "governance" value
  let security ← match value.get? "security" with
    | none => some {}
    | some found => TransportSecurity.ofJson found
  let attachments ← tupleField (TransportAttachment.ofJson pydantic) "attachments" value
  let payload ← (value.get? "payload").bind readMapping
  return { header, provenance, governance, security, attachments, payload }

/-! ## Reading back what was written

The canonical text of a packet is that of its canonical data, so a packet comes back with its
mappings sorted. -/

/-- A mapping in canonical form. -/
def canonicalMapping (fields : JsonMapping) : JsonMapping :=
  Json.sortFields (Json.canonicalFields fields)

/-- The packet with its mappings in canonical form. -/
def TransportPacket.canonical (packet : TransportPacket) : TransportPacket :=
  { packet with
    provenance := canonicalMapping packet.provenance
    governance := canonicalMapping packet.governance
    payload := canonicalMapping packet.payload }

theorem forbidExtra_canonicalData (keys : List String) (fields : JsonMapping)
    (h : ∀ field ∈ fields, field.1 ∈ keys) :
    forbidExtra keys (Json.obj fields).canonicalData = some () := by
  rw [Json.canonicalData, forbidExtra, if_pos]
  intro field hfield
  rw [(Json.sortFields_perm _).mem_iff, Json.canonicalFields_eq_map, List.mem_map] at hfield
  obtain ⟨source, hsource, rfl⟩ := hfield
  exact h source hsource

theorem ofValue?_value (packetType : TransportPacketType) :
    TransportPacketType.ofValue? packetType.value = some packetType := by
  cases packetType <;> rfl

variable {pydantic}

theorem TransportSignature.ofJson_toJson (signature : TransportSignature) :
    ofJson signature.toJson.canonicalData = some signature := by
  have hkeys : forbidExtra ["algorithm", "key_id", "value"] signature.toJson.canonicalData =
      some () := forbidExtra_canonicalData _ _ (by simp)
  simp only [ofJson, hkeys, Json.fieldText?_canonicalData]
  rfl

theorem TransportAttachment.ofJson_toJson (attachment : TransportAttachment) :
    ofJson pydantic attachment.toJson.canonicalData = some attachment := by
  have hkeys : forbidExtra ["attachment_id", "uri", "media_type", "content_hash", "size_bytes",
      "encrypted"] attachment.toJson.canonicalData = some () :=
    forbidExtra_canonicalData _ _ (by simp)
  have hsize : (attachment.toJson.canonicalData.get? "size_bytes").bind pydantic.int =
      some attachment.sizeBytes := by
    rw [Json.get?_canonicalData]
    exact pydantic.int_int _
  have hencrypted : attachment.toJson.canonicalData.get? "encrypted" =
      some (.bool attachment.encrypted) := by
    rw [Json.get?_canonicalData]
    rfl
  simp only [ofJson, hkeys, Json.fieldText?_canonicalData, hsize, hencrypted, pydantic.bool_bool]
  rfl

theorem mapM_ofJson_toJson {α : Type} {toJson : α → Json} {ofJson : Json → Option α}
    (h : ∀ item, ofJson (toJson item).canonicalData = some item) (items : List α) :
    (Json.canonicalItems (items.map toJson)).mapM ofJson = some items := by
  induction items with
  | nil => rfl
  | cons item rest ih =>
      rw [List.map_cons, Json.canonicalItems, List.mapM_cons, h, ih]
      rfl

theorem TransportSecurity.ofJson_toJson (security : TransportSecurity) :
    ofJson security.toJson.canonicalData = some security := by
  have hkeys : forbidExtra ["signatures"] security.toJson.canonicalData = some () :=
    forbidExtra_canonicalData _ _ (by simp)
  have hfield : security.toJson.canonicalData.get? "signatures" =
      some (.arr (Json.canonicalItems (security.signatures.map TransportSignature.toJson))) := by
    rw [Json.get?_canonicalData]
    rfl
  simp only [ofJson, hkeys, tupleField, hfield,
    mapM_ofJson_toJson TransportSignature.ofJson_toJson]
  rfl

/-- A field that is left out when it is `None` is read back as it was. -/
theorem nullableField_toJson {α : Type} {read : Json → Option α} (print : α → Json) {key : String}
    {value : Json} {field : Option α} (hfield : value.get? key = field.map print)
    (hread : ∀ a, read (print a).canonicalData = some a)
    (hnull : ∀ a, (print a).canonicalData ≠ .null) :
    nullableField read key value.canonicalData = some field := by
  unfold nullableField
  rw [Json.get?_canonicalData, hfield]
  cases field with
  | none => rfl
  | some a =>
      have hfound := hread a
      have hne := hnull a
      simp only [Option.map_some]
      generalize (print a).canonicalData = found at hfound hne
      cases found with
      | null => exact absurd rfl hne
      | bool _ | int _ | float _ | str _ | arr _ | obj _ => exact congrArg (Option.map some) hfound

theorem fst_of_mem_optionalField {key : String} {value : Option Json} {field : String × Json}
    (h : field ∈ optionalField key value) : field.1 = key := by
  cases value with
  | none => cases h
  | some found => rw [List.mem_singleton.1 h]

theorem TransportHeader.get?_workflowId (header : TransportHeader) :
    header.toJson.get? "workflow_id" = header.workflowId.map .str := by
  cases hworkflow : header.workflowId <;> cases hcreated : header.createdAt <;>
    simp [toJson, hworkflow, hcreated, optionalField, List.lookup_cons]

theorem TransportHeader.get?_createdAt (header : TransportHeader) :
    header.toJson.get? "created_at" = header.createdAt.map fun time => .str time.isoformat := by
  cases hworkflow : header.workflowId <;> cases hcreated : header.createdAt <;>
    simp [toJson, hworkflow, hcreated, optionalField, List.lookup_cons]

theorem TransportHeader.ofJson_toJson (header : TransportHeader) :
    ofJson pydantic header.toJson.canonicalData = some header := by
  have hkeys : forbidExtra ["packet_id", "packet_type", "action", "schema_version",
      "idempotency_key", "trace_id", "correlation_id", "workflow_id", "created_at"]
      header.toJson.canonicalData = some () := by
    refine forbidExtra_canonicalData _ _ fun field hfield => ?_
    rcases List.mem_append.1 hfield with hfront | hcreated
    · rcases List.mem_append.1 hfront with hbase | hworkflow
      · simp only [List.mem_cons, List.not_mem_nil, or_false] at hbase
        rcases hbase with rfl | rfl | rfl | rfl | rfl | rfl | rfl <;> simp
      · rw [fst_of_mem_optionalField hworkflow]
        simp
    · rw [fst_of_mem_optionalField hcreated]
      simp
  have hworkflow : nullableField readText "workflow_id" header.toJson.canonicalData =
      some header.workflowId :=
    nullableField_toJson .str header.get?_workflowId (fun _ => rfl) fun _ => Json.noConfusion
  have hcreated : nullableField pydantic.datetime "created_at" header.toJson.canonicalData =
      some header.createdAt :=
    nullableField_toJson (fun time : Timestamp => .str time.isoformat) header.get?_createdAt
      pydantic.datetime_isoformat fun _ => Json.noConfusion
  have htype : (header.toJson.fieldText? "packet_type").bind TransportPacketType.ofValue? =
      some header.packetType := ofValue?_value header.packetType
  simp only [ofJson, hkeys, Json.fieldText?_canonicalData, htype, hworkflow, hcreated]
  rfl

/-- **A packet comes back.** Validation of the canonical data of a packet gives the packet with its
    mappings sorted. -/
theorem TransportPacket.ofJson_toJson (packet : TransportPacket) :
    ofJson pydantic packet.toJson.canonicalData = some packet.canonical := by
  have hkeys : forbidExtra ["header", "provenance", "governance", "security", "attachments",
      "payload"] packet.toJson.canonicalData = some () := forbidExtra_canonicalData _ _ (by simp)
  have hget : ∀ {key : String} {found : Json}, packet.toJson.get? key = some found →
      packet.toJson.canonicalData.get? key = some found.canonicalData := by
    intro key found h
    rw [Json.get?_canonicalData, h]
    rfl
  have hprovenance : mappingField "provenance" packet.toJson.canonicalData =
      some (canonicalMapping packet.provenance) := by
    rw [mappingField, hget rfl]
    rfl
  have hgovernance : mappingField "governance" packet.toJson.canonicalData =
      some (canonicalMapping packet.governance) := by
    rw [mappingField, hget rfl]
    rfl
  have hattachments : tupleField (TransportAttachment.ofJson pydantic) "attachments"
      packet.toJson.canonicalData = some packet.attachments := by
    rw [tupleField, hget rfl]
    exact mapM_ofJson_toJson TransportAttachment.ofJson_toJson packet.attachments
  have hheader : (packet.toJson.canonicalData.get? "header").bind
      (TransportHeader.ofJson pydantic) = some packet.header := by
    rw [hget rfl]
    exact packet.header.ofJson_toJson
  have hsecurity : packet.toJson.canonicalData.get? "security" =
      some packet.security.toJson.canonicalData := hget rfl
  have hpayload : (packet.toJson.canonicalData.get? "payload").bind readMapping =
      some (canonicalMapping packet.payload) := by
    rw [hget rfl]
    rfl
  simp only [ofJson, hkeys, hheader, hprovenance, hgovernance, hsecurity,
    packet.security.ofJson_toJson, hattachments, hpayload]
  rfl

end ConstellationTopology
