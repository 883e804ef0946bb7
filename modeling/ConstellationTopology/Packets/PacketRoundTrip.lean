import ConstellationTopology.Packets.ManifestBinding
import ConstellationTopology.Packets.ReceiptRoundTrip
import ConstellationTopology.Run.Evidence

set_option autoImplicit false

/-! # A topology packet comes back from its file

`TopologyPacket.model_validate` of `packet.json`. The packet comes back with its dictionaries sorted
by their keys, which its semantic hash does not see. -/

namespace ConstellationTopology

/-! ## Validation -/

/-- A profile reference, read back. -/
def ProfileRef.ofJson (value : Json) : Option ProfileRef := do
  forbidExtra ["id", "version", "hash"] value
  let id ← value.fieldText? "id"
  let version ← value.fieldText? "version"
  let hash ← value.fieldText? "hash"
  return { id, version, hash }

/-- A packet reference, read back. -/
def PacketRef.ofJson (value : Json) : Option PacketRef := do
  forbidExtra ["packet_id", "packet_type", "packet_version", "uri", "semantic_hash",
    "artifact_hash", "validation_status", "subject_id", "source_revision"] value
  let packetId ← value.fieldText? "packet_id"
  let packetType ← value.fieldText? "packet_type"
  let packetVersion ← value.fieldText? "packet_version"
  let uri ← value.fieldText? "uri"
  let semanticHash ← value.fieldText? "semantic_hash"
  let artifactHash ← nullableField readText "artifact_hash" value
  let validationStatus ← (value.fieldText? "validation_status").bind ValidationStatus.ofValue?
  let subjectId ← nullableField readText "subject_id" value
  let sourceRevision ← nullableField readText "source_revision" value
  return { packetId, packetType, packetVersion, uri, semanticHash, artifactHash, validationStatus,
           subjectId, sourceRevision }

/-- The Repository Model packets have no default. -/
def TopologyInputs.ofJson (value : Json) : Option TopologyInputs := do
  forbidExtra ["repository_model_packets", "corpus_intelligence_packets"] value
  let repositoryModelPackets ← match value.get? "repository_model_packets" with
    | some (.arr items) => items.mapM PacketRef.ofJson
    | _ => none
  let corpusIntelligencePackets ← tupleField PacketRef.ofJson "corpus_intelligence_packets" value
  return { repositoryModelPackets, corpusIntelligencePackets }

/-- A validation reference, read back. -/
def PacketValidationRef.ofJson (value : Json) : Option PacketValidationRef := do
  forbidExtra ["status", "receipt_ref"] value
  let status ← (value.fieldText? "status").bind ValidationStatus.ofValue?
  let receiptRef ← nullableField readText "receipt_ref" value
  return { status, receiptRef }

variable (pydantic : Pydantic) (now : Timestamp)

/-- The lineage, read back. -/
def PacketLineage.ofJson (value : Json) : Option PacketLineage := do
  forbidExtra ["parent_packet_ids", "root_packet_id", "generation"] value
  let parentPacketIds ← tupleField readText "parent_packet_ids" value
  let rootPacketId ← nullableField readText "root_packet_id" value
  let generation ← match value.get? "generation" with
    | none => some 0
    | some found => readCount pydantic found
  return { parentPacketIds, rootPacketId, generation }

/-- A Topology Packet, read back. -/
def TopologyPacket.ofJson (value : Json) : Option TopologyPacket := do
  forbidExtra ["packet_type", "packet_version", "packet_id", "producer", "profile", "inputs",
    "schema_hash", "policy_hashes", "payload_refs", "payload_hashes", "validation",
    "semantic_hash", "artifact_hash", "lineage", "created_at"] value
  let packetType ← defaultedText "packet_type" "l9.topology" value
  guard (packetType = "l9.topology")
  let packetVersion ← defaultedText "packet_version" "1.1.0" value
  let packetId ← value.fieldText? "packet_id"
  let producer ← (value.get? "producer").bind Producer.ofJson
  let profile ← (value.get? "profile").bind ProfileRef.ofJson
  let inputs ← (value.get? "inputs").bind TopologyInputs.ofJson
  let schemaHash ← value.fieldText? "schema_hash"
  let policyHashes ← match value.get? "policy_hashes" with
    | none => some []
    | some found => readTextMapping found
  let payloadRefs ← (value.get? "payload_refs").bind readTextMapping
  let payloadHashes ← (value.get? "payload_hashes").bind readTextMapping
  let validation ← (value.get? "validation").bind PacketValidationRef.ofJson
  let semanticHash ← value.fieldText? "semantic_hash"
  let artifactHash ← value.fieldText? "artifact_hash"
  let lineage ← match value.get? "lineage" with
    | none => some {}
    | some found => PacketLineage.ofJson pydantic found
  let createdAt ← defaultedTime pydantic now "created_at" value
  return { packetVersion, packetId, producer, profile, inputs, schemaHash, policyHashes,
           payloadRefs, payloadHashes, validation, semanticHash, artifactHash, lineage, createdAt }

/-! ## Dictionaries -/

/-- A dictionary in the order of its keys. -/
def sortedTexts (fields : List (String × String)) : List (String × String) :=
  fields.insertionSort fun a b => a.1 ≤ b.1

theorem canonicalData_textFields (fields : List (String × String)) :
    (textFields fields).canonicalData = textFields (sortedTexts fields) := by
  have hvalues : Json.canonicalFields (fields.map fun field => (field.1, Json.str field.2)) =
      fields.map fun field => (field.1, Json.str field.2) := by
    rw [Json.canonicalFields_eq_map, List.map_map]
    rfl
  have hsorted : Json.sortFields (fields.map fun field => (field.1, Json.str field.2)) =
      (sortedTexts fields).map fun field => (field.1, Json.str field.2) := by
    rw [sortedTexts, Json.sortFields, List.map_insertionSort _ (fun a b => a.1 ≤ b.1)]
    exact fun _ _ _ _ => Iff.rfl
  rw [textFields, Json.canonicalData, hvalues, hsorted, textFields]

theorem readTextMapping_textFields (fields : List (String × String)) :
    readTextMapping (textFields fields) = some fields := by
  rw [textFields, readTextMapping]
  induction fields with
  | nil => rfl
  | cons field rest ih =>
      rw [List.map_cons, List.mapM_cons, ih]
      rfl

theorem get?_textFields (key : String) (fields : List (String × String)) :
    (textFields fields).get? key = (fields.lookup key).map .str := by
  rw [textFields, Json.get?_obj]
  induction fields with
  | nil => rfl
  | cons field rest ih =>
      rw [List.map_cons, List.lookup_cons, List.lookup_cons, ih]
      cases key == field.1 <;> rfl

/-- A sorted dictionary answers as before. -/
theorem lookup_sortedTexts (key : String) (fields : List (String × String)) :
    (sortedTexts fields).lookup key = fields.lookup key := by
  have hget := Json.get?_canonicalData key (textFields fields)
  rw [canonicalData_textFields, get?_textFields, get?_textFields, Option.map_map] at hget
  exact Option.map_injective (fun _ _ => Json.str.inj) hget

/-- The packet with its dictionaries sorted. -/
def TopologyPacket.canonical (packet : TopologyPacket) : TopologyPacket :=
  { packet with
    policyHashes := sortedTexts packet.policyHashes
    payloadRefs := sortedTexts packet.payloadRefs
    payloadHashes := sortedTexts packet.payloadHashes }

/-! ## Reading back -/

theorem ProfileRef.ofJson_toJson (profile : ProfileRef) :
    ofJson profile.toJson.canonicalData = some profile := by
  have hkeys : forbidExtra ["id", "version", "hash"] profile.toJson.canonicalData = some () :=
    forbidExtra_canonicalData _ _ (by simp)
  simp only [ofJson, hkeys, Json.fieldText?_canonicalData]
  rfl

namespace PacketRef

/-- The fields of a reference as a plain list. -/
def fields (ref : PacketRef) : List (String × Option Json) :=
  [("packet_id", some (.str ref.packetId)), ("packet_type", some (.str ref.packetType)),
    ("packet_version", some (.str ref.packetVersion)), ("uri", some (.str ref.uri)),
    ("semantic_hash", some (.str ref.semanticHash)), ("artifact_hash", ref.artifactHash.map .str),
    ("validation_status", some (.str ref.validationStatus.value)),
    ("subject_id", ref.subjectId.map .str), ("source_revision", ref.sourceRevision.map .str)]

theorem toJson_eq (ref : PacketRef) : ref.toJson = .obj (optionalFields ref.fields) := by
  simp [toJson, fields, optionalFields, optionalField]

theorem get?_toJson (ref : PacketRef) (key : String) :
    ref.toJson.get? key = (ref.fields.lookup key).join := by
  rw [toJson_eq, Json.get?_obj]
  refine lookup_optionalFields ?_ key
  simp [fields]

theorem keys_toJson (ref : PacketRef) :
    forbidExtra ["packet_id", "packet_type", "packet_version", "uri", "semantic_hash",
      "artifact_hash", "validation_status", "subject_id", "source_revision"]
      ref.toJson.canonicalData = some () := by
  refine forbidExtra_canonicalData _ _ fun field hfield => ?_
  simp only [List.mem_append] at hfield
  rcases hfield with (((hbase | hartifact) | hstatus) | hsubject) | hrevision
  · simp only [List.mem_cons, List.not_mem_nil, or_false] at hbase
    rcases hbase with rfl | rfl | rfl | rfl | rfl <;> simp
  · rw [fst_of_mem_optionalField hartifact]
    simp
  · rw [List.mem_singleton.1 hstatus]
    simp
  · rw [fst_of_mem_optionalField hsubject]
    simp
  · rw [fst_of_mem_optionalField hrevision]
    simp

theorem ofJson_toJson (ref : PacketRef) :
    ofJson ref.toJson.canonicalData = some ref := by
  have hartifact : nullableField readText "artifact_hash" ref.toJson.canonicalData =
      some ref.artifactHash :=
    nullableField_toJson .str (ref.get?_toJson _) (fun _ => rfl) fun _ => Json.noConfusion
  have hsubject : nullableField readText "subject_id" ref.toJson.canonicalData =
      some ref.subjectId :=
    nullableField_toJson .str (ref.get?_toJson _) (fun _ => rfl) fun _ => Json.noConfusion
  have hrevision : nullableField readText "source_revision" ref.toJson.canonicalData =
      some ref.sourceRevision :=
    nullableField_toJson .str (ref.get?_toJson _) (fun _ => rfl) fun _ => Json.noConfusion
  have hstatus : (ref.toJson.fieldText? "validation_status").bind ValidationStatus.ofValue? =
      some ref.validationStatus := by
    rw [Json.fieldText?, ref.get?_toJson]
    exact ref.validationStatus.ofValue?_value
  simp only [ofJson, ref.keys_toJson, Json.fieldText?_canonicalData, hartifact, hstatus, hsubject,
    hrevision]
  rfl

end PacketRef

theorem TopologyInputs.ofJson_toJson (inputs : TopologyInputs) :
    ofJson inputs.toJson.canonicalData = some inputs := by
  have hkeys : forbidExtra ["repository_model_packets", "corpus_intelligence_packets"]
      inputs.toJson.canonicalData = some () := forbidExtra_canonicalData _ _ (by simp)
  have hrepositories : inputs.toJson.canonicalData.get? "repository_model_packets" =
      some (.arr (Json.canonicalItems (inputs.repositoryModelPackets.map PacketRef.toJson))) := by
    rw [Json.get?_canonicalData]
    rfl
  have hcorpora : tupleField PacketRef.ofJson "corpus_intelligence_packets"
      inputs.toJson.canonicalData = some inputs.corpusIntelligencePackets := by
    rw [tupleField, Json.get?_canonicalData]
    exact mapM_ofJson_toJson PacketRef.ofJson_toJson inputs.corpusIntelligencePackets
  simp only [ofJson, hkeys, hrepositories, hcorpora, mapM_ofJson_toJson PacketRef.ofJson_toJson]
  rfl

theorem PacketValidationRef.ofJson_toJson (ref : PacketValidationRef) :
    ofJson ref.toJson.canonicalData = some ref := by
  have hkeys : forbidExtra ["status", "receipt_ref"] ref.toJson.canonicalData = some () := by
    refine forbidExtra_canonicalData _ _ fun field hfield => ?_
    rcases List.mem_append.1 hfield with hstatus | hreceipt
    · rw [List.mem_singleton.1 hstatus]
      simp
    · rw [fst_of_mem_optionalField hreceipt]
      simp
  have hget : ref.toJson.get? "receipt_ref" = ref.receiptRef.map .str := by
    cases hreceipt : ref.receiptRef <;>
      simp [toJson, hreceipt, optionalField, List.lookup_cons]
  have hreceipt : nullableField readText "receipt_ref" ref.toJson.canonicalData =
      some ref.receiptRef :=
    nullableField_toJson .str hget (fun _ => rfl) fun _ => Json.noConfusion
  have hstatus : (ref.toJson.fieldText? "status").bind ValidationStatus.ofValue? =
      some ref.status := ref.status.ofValue?_value
  simp only [ofJson, hkeys, Json.fieldText?_canonicalData, hreceipt, hstatus]
  rfl

theorem readCount_int (count : ℕ) : readCount pydantic (.int count) = some count := by
  simp [readCount, pydantic.int_int]

theorem PacketLineage.get?_toJson (lineage : PacketLineage) :
    lineage.toJson.get? "root_packet_id" = lineage.rootPacketId.map .str ∧
      lineage.toJson.get? "generation" = some (.int lineage.generation) := by
  cases hroot : lineage.rootPacketId <;>
    simp [toJson, hroot, optionalField, List.lookup_cons]

theorem PacketLineage.ofJson_toJson (lineage : PacketLineage) :
    ofJson pydantic lineage.toJson.canonicalData = some lineage := by
  obtain ⟨hroot, hgeneration⟩ := lineage.get?_toJson
  have hkeys : forbidExtra ["parent_packet_ids", "root_packet_id", "generation"]
      lineage.toJson.canonicalData = some () := by
    refine forbidExtra_canonicalData _ _ fun field hfield => ?_
    simp only [List.mem_append] at hfield
    rcases hfield with (hparents | hroot) | hgeneration
    · rw [List.mem_singleton.1 hparents]
      simp
    · rw [fst_of_mem_optionalField hroot]
      simp
    · rw [List.mem_singleton.1 hgeneration]
      simp
  have hparents : tupleField readText "parent_packet_ids" lineage.toJson.canonicalData =
      some lineage.parentPacketIds := by
    rw [tupleField, Json.get?_canonicalData]
    exact mapM_readText lineage.parentPacketIds
  have hroot : nullableField readText "root_packet_id" lineage.toJson.canonicalData =
      some lineage.rootPacketId :=
    nullableField_toJson .str hroot (fun _ => rfl) fun _ => Json.noConfusion
  have hgeneration : lineage.toJson.canonicalData.get? "generation" =
      some (.int lineage.generation) := by
    rw [Json.get?_canonicalData, hgeneration]
    rfl
  simp only [ofJson, hkeys, hparents, hroot, hgeneration, readCount_int]
  rfl

/-- **A topology packet comes back** with its dictionaries sorted. -/
theorem TopologyPacket.ofJson_toJson (packet : TopologyPacket) :
    ofJson pydantic now packet.toJson.canonicalData = some packet.canonical := by
  have hkeys : forbidExtra ["packet_type", "packet_version", "packet_id", "producer", "profile",
      "inputs", "schema_hash", "policy_hashes", "payload_refs", "payload_hashes", "validation",
      "semantic_hash", "artifact_hash", "lineage", "created_at"] packet.toJson.canonicalData =
        some () := forbidExtra_canonicalData _ _ (by simp)
  have hget : ∀ {key : String} {found : Json}, packet.toJson.get? key = some found →
      packet.toJson.canonicalData.get? key = some found.canonicalData := by
    intro key found h
    rw [Json.get?_canonicalData, h]
    rfl
  have htype : defaultedText "packet_type" "l9.topology" packet.toJson.canonicalData =
      some "l9.topology" := by
    rw [defaultedText, hget rfl]
    rfl
  have hversion : defaultedText "packet_version" "1.1.0" packet.toJson.canonicalData =
      some packet.packetVersion := by
    rw [defaultedText, hget rfl]
    rfl
  have hproducer : (packet.toJson.canonicalData.get? "producer").bind Producer.ofJson =
      some packet.producer := by
    rw [hget rfl]
    exact packet.producer.ofJson_toJson
  have hprofile : (packet.toJson.canonicalData.get? "profile").bind ProfileRef.ofJson =
      some packet.profile := by
    rw [hget rfl]
    exact packet.profile.ofJson_toJson
  have hinputs : (packet.toJson.canonicalData.get? "inputs").bind TopologyInputs.ofJson =
      some packet.inputs := by
    rw [hget rfl]
    exact packet.inputs.ofJson_toJson
  have hpolicies : packet.toJson.canonicalData.get? "policy_hashes" =
      some (textFields (sortedTexts packet.policyHashes)) :=
    (hget rfl).trans (congrArg some (canonicalData_textFields _))
  have hrefs : (packet.toJson.canonicalData.get? "payload_refs").bind readTextMapping =
      some (sortedTexts packet.payloadRefs) := by
    rw [hget rfl, canonicalData_textFields]
    exact readTextMapping_textFields _
  have hhashes : (packet.toJson.canonicalData.get? "payload_hashes").bind readTextMapping =
      some (sortedTexts packet.payloadHashes) := by
    rw [hget rfl, canonicalData_textFields]
    exact readTextMapping_textFields _
  have hvalidation : (packet.toJson.canonicalData.get? "validation").bind
      PacketValidationRef.ofJson = some packet.validation := by
    rw [hget rfl]
    exact packet.validation.ofJson_toJson
  have hlineage : packet.toJson.canonicalData.get? "lineage" =
      some packet.lineage.toJson.canonicalData := hget rfl
  have htime : defaultedTime pydantic now "created_at" packet.toJson.canonicalData =
      some packet.createdAt := by
    rw [defaultedTime, hget rfl]
    exact pydantic.datetime_isoformat _
  simp only [ofJson, hkeys, htype, hversion, Json.fieldText?_canonicalData, hproducer, hprofile,
    hinputs, hpolicies, readTextMapping_textFields, hrefs, hhashes, hvalidation, hlineage,
    packet.lineage.ofJson_toJson, htime]
  rfl

/-! ## Its identity -/

theorem canonicalData_packetView (packet : TopologyPacket) :
    (topologyPacketSemanticView packet.canonical).canonicalData =
      (topologyPacketSemanticView packet).canonicalData := by
  have htexts : ∀ fields : List (String × String),
      (textFields (sortedTexts fields)).canonicalData = (textFields fields).canonicalData := by
    intro fields
    rw [← canonicalData_textFields, Json.canonicalData_idem]
  refine canonicalData_obj_congr ?_
  simp only [Json.canonicalFields_eq_map, List.map_cons, List.map_nil, TopologyPacket.canonical,
    htexts]

/-- A packet has the semantic hash it had when it was written. -/
theorem calculateTopologySemanticHash_canonical (c : Codec) (packet : TopologyPacket) :
    calculateTopologySemanticHash c packet.canonical = calculateTopologySemanticHash c packet :=
  semanticHash_congr c (canonicalData_packetView packet)

/-! ## The data model of a bundle -/

/-- The packet as the loader sees it. -/
def TopologyPacket.loaded (packet : TopologyPacket) (document : Json) : PacketDocument where
  packetVersion := packet.packetVersion
  packetId := packet.packetId
  semanticHash := packet.semanticHash
  payloadRefs := packet.payloadRefs
  payloadHashes := packet.payloadHashes
  validation := packet.validation
  document := document

/-- The data model of topology packets; `TopologyState.model_validate` is a parameter. -/
def topologyPacketModel (payloadModel : List (String × Json) → Option Json) : PacketModel where
  modelValidate value :=
    (TopologyPacket.ofJson pydantic now value).map fun packet => packet.loaded value
  payloadModel := payloadModel
  semanticView packet :=
    match TopologyPacket.ofJson pydantic now packet.document with
    | some found => topologyPacketSemanticView found
    | none => .null

end ConstellationTopology
