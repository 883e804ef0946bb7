import ConstellationTopology.Library.Text
import ConstellationTopology.Run.Hashing

set_option autoImplicit false

/-! # The Topology Packet

`packets/topology_packet.py` with the references and value objects it is made of, and the fields
that define its meaning. -/

namespace ConstellationTopology

/-- Who made a packet. -/
structure Producer where
  name : String
  version : String
  deriving DecidableEq, Repr

/-- The profile a packet was made under. -/
structure ProfileRef where
  id : String
  version : String
  hash : String
  deriving DecidableEq, Repr

/-- Outcome a packet carries about its own validation. -/
inductive ValidationStatus
  | passed
  | failed
  | notRun
  | blocked
  deriving DecidableEq, Repr

/-- The validation status as it is serialized. -/
def ValidationStatus.value : ValidationStatus → String
  | passed => "passed"
  | failed => "failed"
  | notRun => "not_run"
  | blocked => "blocked"

/-- Reference to an immutable packet. -/
structure PacketRef where
  packetId : String
  packetType : String
  packetVersion : String
  uri : String
  semanticHash : String
  artifactHash : Option String := none
  validationStatus : ValidationStatus
  subjectId : Option String := none
  sourceRevision : Option String := none
  deriving DecidableEq, Repr

/-- The packets a topology was compiled from. -/
structure TopologyInputs where
  repositoryModelPackets : List PacketRef
  corpusIntelligencePackets : List PacketRef := []
  deriving DecidableEq, Repr

/-- What a packet says of its validation. -/
structure PacketValidationRef where
  status : ValidationStatus
  receiptRef : Option String := none
  deriving DecidableEq, Repr

/-- What a packet was derived from. -/
structure PacketLineage where
  parentPacketIds : List String := []
  rootPacketId : Option String := none
  generation : ℕ := 0
  deriving DecidableEq, Repr

/-- `TopologyPacket`; the payload is named by its hashes. -/
structure TopologyPacket where
  packetVersion : String := "1.1.0"
  packetId : String
  producer : Producer
  profile : ProfileRef
  inputs : TopologyInputs
  schemaHash : String
  policyHashes : List (String × String) := []
  payloadRefs : List (String × String)
  payloadHashes : List (String × String)
  validation : PacketValidationRef
  semanticHash : String
  artifactHash : String
  lineage : PacketLineage := {}
  createdAt : Timestamp
  deriving DecidableEq, Repr

/-! ## The semantic view -/

/-- A producer as it is dumped. -/
def Producer.toJson (producer : Producer) : Json :=
  .obj [("name", .str producer.name), ("version", .str producer.version)]

/-- A profile as it is dumped. -/
def ProfileRef.toJson (profile : ProfileRef) : Json :=
  .obj [("id", .str profile.id), ("version", .str profile.version), ("hash", .str profile.hash)]

/-- A reference as it is dumped. -/
def PacketRef.toJson (ref : PacketRef) : Json :=
  .obj ([("packet_id", .str ref.packetId), ("packet_type", .str ref.packetType),
      ("packet_version", .str ref.packetVersion), ("uri", .str ref.uri),
      ("semantic_hash", .str ref.semanticHash)]
    ++ optionalField "artifact_hash" (ref.artifactHash.map .str)
    ++ [("validation_status", .str ref.validationStatus.value)]
    ++ optionalField "subject_id" (ref.subjectId.map .str)
    ++ optionalField "source_revision" (ref.sourceRevision.map .str))

/-- The inputs as they are dumped. -/
def TopologyInputs.toJson (inputs : TopologyInputs) : Json :=
  .obj [("repository_model_packets", .arr (inputs.repositoryModelPackets.map PacketRef.toJson)),
    ("corpus_intelligence_packets",
      .arr (inputs.corpusIntelligencePackets.map PacketRef.toJson))]

/-- A lineage as it is dumped. -/
def PacketLineage.toJson (lineage : PacketLineage) : Json :=
  .obj ([("parent_packet_ids", Json.strings lineage.parentPacketIds)]
    ++ optionalField "root_packet_id" (lineage.rootPacketId.map .str)
    ++ [("generation", .int lineage.generation)])

/-- A dictionary of texts. -/
def textFields (fields : List (String × String)) : Json :=
  .obj (fields.map fun field => (field.1, .str field.2))

/-- `topology_packet_semantic_view`. -/
def topologyPacketSemanticView (packet : TopologyPacket) : Json :=
  .obj [("packet_type", .str "l9.topology"),
    ("packet_version", .str packet.packetVersion),
    ("producer", packet.producer.toJson),
    ("profile", packet.profile.toJson),
    ("inputs", packet.inputs.toJson),
    ("schema_hash", .str packet.schemaHash),
    ("policy_hashes", textFields packet.policyHashes),
    ("payload_refs", textFields packet.payloadRefs),
    ("payload_hashes", textFields packet.payloadHashes),
    ("lineage", packet.lineage.toJson)]

/-- `calculate_topology_semantic_hash`. -/
def calculateTopologySemanticHash (c : Codec) (packet : TopologyPacket) : String :=
  c.semanticHash (topologyPacketSemanticView packet)

/-- The identity the compiler stamps on a candidate packet. -/
def TopologyPacket.identified (c : Codec) (candidate : TopologyPacket) : TopologyPacket :=
  let digest := calculateTopologySemanticHash c candidate
  { candidate with
    packetId := "packet:" ++ removeMarker "sha256:" digest
    semanticHash := digest }

end ConstellationTopology
