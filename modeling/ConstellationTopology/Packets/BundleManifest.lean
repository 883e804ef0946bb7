import ConstellationTopology.Packets.Transport
import ConstellationTopology.Packets.ValidationReceipt

set_option autoImplicit false

/-! # The documents of a bundle

The manifest of a packet bundle (`packets/common.py`) and the validation receipt, as they are
validated from the JSON data of their files. -/

namespace ConstellationTopology

/-! ## The manifest -/

/-- A file of a bundle, bound by its hash. -/
structure PacketFileEntry where
  path : String
  mediaType : String
  contentHash : String
  sizeBytes : ℕ
  deriving DecidableEq, Repr

/-- The manifest of a bundle. -/
structure PacketBundleManifest where
  manifestVersion : String := "1.0.0"
  packetId : String
  packetType : String
  packetVersion : String
  semanticHash : String
  artifactHash : String
  files : List PacketFileEntry
  createdAt : Timestamp
  deriving DecidableEq, Repr

/-- An entry as it is dumped. -/
def PacketFileEntry.toJson (entry : PacketFileEntry) : Json :=
  .obj [("path", .str entry.path),
    ("media_type", .str entry.mediaType),
    ("content_hash", .str entry.contentHash),
    ("size_bytes", .int entry.sizeBytes)]

/-- A text that has a default. -/
def defaultedText (key default : String) (value : Json) : Option String :=
  match value.get? key with
  | none => some default
  | some found => readText found

/-- A date that is the present when the field is missing. -/
def defaultedTime (pydantic : Pydantic) (now : Timestamp) (key : String) (value : Json) :
    Option Timestamp :=
  match value.get? key with
  | none => some now
  | some found => pydantic.datetime found

/-- An integer with `ge=0`. -/
def readCount (pydantic : Pydantic) (value : Json) : Option ℕ := do
  let count ← pydantic.int value
  if 0 ≤ count then some count.toNat else none

variable (pydantic : Pydantic) (now : Timestamp)

/-- The validation of an entry. -/
def PacketFileEntry.ofJson (value : Json) : Option PacketFileEntry := do
  forbidExtra ["path", "media_type", "content_hash", "size_bytes"] value
  let path ← value.fieldText? "path"
  let mediaType ← value.fieldText? "media_type"
  let contentHash ← value.fieldText? "content_hash"
  let sizeBytes ← (value.get? "size_bytes").bind (readCount pydantic)
  return { path, mediaType, contentHash, sizeBytes }

/-- The validation of a manifest. -/
def PacketBundleManifest.ofJson (value : Json) : Option PacketBundleManifest := do
  forbidExtra ["manifest_version", "packet_id", "packet_type", "packet_version", "semantic_hash",
    "artifact_hash", "files", "created_at"] value
  let manifestVersion ← defaultedText "manifest_version" "1.0.0" value
  let packetId ← value.fieldText? "packet_id"
  let packetType ← value.fieldText? "packet_type"
  let packetVersion ← value.fieldText? "packet_version"
  let semanticHash ← value.fieldText? "semantic_hash"
  let artifactHash ← value.fieldText? "artifact_hash"
  let files ← match value.get? "files" with
    | some (.arr items) => items.mapM (PacketFileEntry.ofJson pydantic)
    | _ => none
  let createdAt ← defaultedTime pydantic now "created_at" value
  return { manifestVersion, packetId, packetType, packetVersion, semanticHash, artifactHash, files,
           createdAt }

/-! ## The receipt -/

/-- The class of checks a text names. -/
def CheckClass.ofValue? (value : String) : Option CheckClass :=
  [schema, invariant, evidence, crossReference].find? fun checkClass => checkClass.value = value

/-- The validation status a text names. -/
def ValidationStatus.ofValue? (value : String) : Option ValidationStatus :=
  [passed, failed, notRun, blocked].find? fun status => status.value = value

/-- The validation of a producer. -/
def Producer.ofJson (value : Json) : Option Producer := do
  forbidExtra ["name", "version"] value
  let name ← value.fieldText? "name"
  let version ← value.fieldText? "version"
  return { name, version }

/-- The validation of a check. -/
def ValidationCheck.ofJson (value : Json) : Option ValidationCheck := do
  forbidExtra ["check_id", "check_class", "rule", "status", "message", "path", "evidence_refs",
    "details"] value
  let checkId ← value.fieldText? "check_id"
  let checkClass ← (value.fieldText? "check_class").bind CheckClass.ofValue?
  let rule ← value.fieldText? "rule"
  let status ← (value.fieldText? "status").bind ValidationStatus.ofValue?
  let message ← value.fieldText? "message"
  let path ← nullableField readText "path" value
  let evidenceRefs ← tupleField readText "evidence_refs" value
  let details ← mappingField "details" value
  return { checkId, checkClass, rule, status, message, path, evidenceRefs, details }

/-- The validation of a receipt. -/
def ValidationReceipt.ofJson (value : Json) : Option ValidationReceipt := do
  forbidExtra ["packet_type", "packet_version", "receipt_id", "subject_packet_id",
    "subject_semantic_hash", "validator", "status", "schema_results", "invariant_results",
    "evidence_results", "cross_reference_results", "created_at", "semantic_hash"] value
  let packetType ← defaultedText "packet_type" "l9.validation-receipt" value
  guard (packetType = "l9.validation-receipt")
  let packetVersion ← defaultedText "packet_version" "1.0.0" value
  let receiptId ← value.fieldText? "receipt_id"
  let subjectPacketId ← value.fieldText? "subject_packet_id"
  let subjectSemanticHash ← value.fieldText? "subject_semantic_hash"
  let validator ← (value.get? "validator").bind Producer.ofJson
  let status ← (value.fieldText? "status").bind ValidationStatus.ofValue?
  let schemaResults ← tupleField ValidationCheck.ofJson "schema_results" value
  let invariantResults ← tupleField ValidationCheck.ofJson "invariant_results" value
  let evidenceResults ← tupleField ValidationCheck.ofJson "evidence_results" value
  let crossReferenceResults ← tupleField ValidationCheck.ofJson "cross_reference_results" value
  let createdAt ← defaultedTime pydantic now "created_at" value
  let semanticHash ← value.fieldText? "semantic_hash"
  return { packetVersion, receiptId, subjectPacketId, subjectSemanticHash, validator, status,
           schemaResults, invariantResults, evidenceResults, crossReferenceResults, createdAt,
           semanticHash }

/-- `validate_validation_receipt`: what is wrong with the identity of a receipt. -/
def validateValidationReceipt (c : Codec) (receipt : ValidationReceipt) : Except String Unit :=
  let calculated := c.semanticHash (validationReceiptSemanticView receipt)
  let expectedId := "receipt:" ++ removeMarker "sha256:" calculated
  if receipt.semanticHash ≠ calculated then
    .error ("validation-receipt-hash-mismatch: expected " ++ receipt.semanticHash
      ++ ", calculated " ++ calculated)
  else if receipt.receiptId ≠ expectedId then
    .error ("validation-receipt-id-mismatch: expected " ++ expectedId ++ ", got "
      ++ receipt.receiptId)
  else .ok ()

end ConstellationTopology
