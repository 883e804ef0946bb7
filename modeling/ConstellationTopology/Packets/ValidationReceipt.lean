import ConstellationTopology.Library.Text
import ConstellationTopology.Packets.TopologyPacket

set_option autoImplicit false

/-! # Validation receipts

`packets/validation_receipt.py`: the checks a validator ran, and the identity of their record. -/

namespace ConstellationTopology

/-- The four groups of checks. -/
inductive CheckClass
  | schema
  | invariant
  | evidence
  | crossReference
  deriving DecidableEq, Repr

/-- The class of checks as it is serialized. -/
def CheckClass.value : CheckClass → String
  | schema => "schema"
  | invariant => "invariant"
  | evidence => "evidence"
  | crossReference => "cross-reference"

/-- The outcome of one check. -/
structure ValidationCheck where
  checkId : String
  checkClass : CheckClass
  rule : String
  status : ValidationStatus
  message : String
  path : Option String := none
  evidenceRefs : List String := []
  details : List (String × Json) := []

/-- What a validation found. -/
structure ValidationReceipt where
  packetVersion : String := "1.0.0"
  receiptId : String
  subjectPacketId : String
  subjectSemanticHash : String
  validator : Producer
  status : ValidationStatus
  schemaResults : List ValidationCheck := []
  invariantResults : List ValidationCheck := []
  evidenceResults : List ValidationCheck := []
  crossReferenceResults : List ValidationCheck := []
  createdAt : Timestamp
  semanticHash : String

/-- A check as it is dumped. -/
def ValidationCheck.toJson (check : ValidationCheck) : Json :=
  .obj ([("check_id", .str check.checkId),
      ("check_class", .str check.checkClass.value),
      ("rule", .str check.rule),
      ("status", .str check.status.value),
      ("message", .str check.message)]
    ++ optionalField "path" (check.path.map .str)
    ++ [("evidence_refs", Json.strings check.evidenceRefs), ("details", .obj check.details)])

/-- `validation_receipt_semantic_view`. -/
def validationReceiptSemanticView (receipt : ValidationReceipt) : Json :=
  .obj [("packet_type", .str "l9.validation-receipt"),
    ("packet_version", .str receipt.packetVersion),
    ("subject_packet_id", .str receipt.subjectPacketId),
    ("subject_semantic_hash", .str receipt.subjectSemanticHash),
    ("validator", receipt.validator.toJson),
    ("status", .str receipt.status.value),
    ("schema_results", .arr (receipt.schemaResults.map ValidationCheck.toJson)),
    ("invariant_results", .arr (receipt.invariantResults.map ValidationCheck.toJson)),
    ("evidence_results", .arr (receipt.evidenceResults.map ValidationCheck.toJson)),
    ("cross_reference_results", .arr (receipt.crossReferenceResults.map ValidationCheck.toJson))]

/-- `finalize_validation_receipt`. -/
def finalizeValidationReceipt (c : Codec) (candidate : ValidationReceipt) : ValidationReceipt :=
  let digest := c.semanticHash (validationReceiptSemanticView candidate)
  { candidate with
    receiptId := "receipt:" ++ removeMarker "sha256:" digest
    semanticHash := digest }

@[simp] theorem finalizeValidationReceipt_status (c : Codec) (candidate : ValidationReceipt) :
    (finalizeValidationReceipt c candidate).status = candidate.status := rfl

end ConstellationTopology
