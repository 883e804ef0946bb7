import ConstellationTopology.Io.WritePlan
import ConstellationTopology.Library.Fallible
import ConstellationTopology.Packets.BundleManifest
import ConstellationTopology.Packets.Payloads

set_option autoImplicit false

/-! # Rendering bundles

`packets/bundle.py`: the files of a Topology Packet bundle, and the manifest that lists them. Every
payload, the packet and the receipt are written as canonical JSON with a line break. -/

namespace ConstellationTopology

/-! ## The documents -/

/-- The dumped validation reference. -/
def PacketValidationRef.toJson (ref : PacketValidationRef) : Json :=
  .obj ([("status", .str ref.status.value)] ++ optionalField "receipt_ref" (ref.receiptRef.map .str))

/-- The packet as `canonical_bytes` dumps it: without its `None` fields. -/
def TopologyPacket.toJson (packet : TopologyPacket) : Json :=
  .obj [("packet_type", .str "l9.topology"),
    ("packet_version", .str packet.packetVersion),
    ("packet_id", .str packet.packetId),
    ("producer", packet.producer.toJson),
    ("profile", packet.profile.toJson),
    ("inputs", packet.inputs.toJson),
    ("schema_hash", .str packet.schemaHash),
    ("policy_hashes", textFields packet.policyHashes),
    ("payload_refs", textFields packet.payloadRefs),
    ("payload_hashes", textFields packet.payloadHashes),
    ("validation", packet.validation.toJson),
    ("semantic_hash", .str packet.semanticHash),
    ("artifact_hash", .str packet.artifactHash),
    ("lineage", packet.lineage.toJson),
    ("created_at", .str packet.createdAt.isoformat)]

/-- The dumped receipt. -/
def ValidationReceipt.toJson (receipt : ValidationReceipt) : Json :=
  .obj [("packet_type", .str "l9.validation-receipt"),
    ("packet_version", .str receipt.packetVersion),
    ("receipt_id", .str receipt.receiptId),
    ("subject_packet_id", .str receipt.subjectPacketId),
    ("subject_semantic_hash", .str receipt.subjectSemanticHash),
    ("validator", receipt.validator.toJson),
    ("status", .str receipt.status.value),
    ("schema_results", .arr (receipt.schemaResults.map ValidationCheck.toJson)),
    ("invariant_results", .arr (receipt.invariantResults.map ValidationCheck.toJson)),
    ("evidence_results", .arr (receipt.evidenceResults.map ValidationCheck.toJson)),
    ("cross_reference_results", .arr (receipt.crossReferenceResults.map ValidationCheck.toJson)),
    ("created_at", .str receipt.createdAt.isoformat),
    ("semantic_hash", .str receipt.semanticHash)]

/-- The dumped manifest. -/
def PacketBundleManifest.toJson (manifest : PacketBundleManifest) : Json :=
  .obj [("manifest_version", .str manifest.manifestVersion),
    ("packet_id", .str manifest.packetId),
    ("packet_type", .str manifest.packetType),
    ("packet_version", .str manifest.packetVersion),
    ("semantic_hash", .str manifest.semanticHash),
    ("artifact_hash", .str manifest.artifactHash),
    ("files", .arr (manifest.files.map PacketFileEntry.toJson)),
    ("created_at", .str manifest.createdAt.isoformat)]

/-! ## The files -/

section Render

variable (c : Codec)

/-- The text of a file: canonical JSON and a line break. -/
def documentText (value : Json) : String := c.canonicalJson value ++ "\n"

/-- What a file of a bundle is rendered from. -/
structure BundleDocument where
  logicalId : String
  path : String
  artifactKind : ArtifactKind
  value : Json
  semanticHash : Option String
  sourceRefs : List String

/-- `_artifact`: the destination is validated, the hash is that of the content. -/
def renderDocument (document : BundleDocument) : Except String (RenderedArtifact c) :=
  match h : normalizeSourcePath document.path with
  | .ok destination =>
      .ok { logicalId := document.logicalId
            destinationPath := destination
            artifactKind := document.artifactKind
            mediaType := "application/json"
            content := documentText c document.value
            contentHash := c.artifactHash (documentText c document.value).toUTF8
            semanticHash := document.semanticHash
            sourceRefs := document.sourceRefs
            contentHash_matches := rfl
            destination_normalized := normalized_of_eq h }
  | .error e => .error e

/-- The manifest's entry for a file. -/
def fileEntry (artifact : RenderedArtifact c) : PacketFileEntry where
  path := artifact.destinationPath
  mediaType := artifact.mediaType
  contentHash := artifact.contentHash
  sizeBytes := artifact.content.toUTF8.size

/-- The manifest of some files: they are listed in the order of their paths. -/
def manifestOf (packetId packetType packetVersion semanticHash : String) (createdAt : Timestamp)
    (artifacts : List (RenderedArtifact c)) : PacketBundleManifest :=
  let entries := (sortedBy RenderedArtifact.destinationPath artifacts).map (fileEntry c)
  { packetId := packetId
    packetType := packetType
    packetVersion := packetVersion
    semanticHash := semanticHash
    artifactHash := c.semanticHash (.arr (entries.map PacketFileEntry.toJson))
    files := entries
    createdAt := createdAt }

/-- The file of a manifest. -/
def manifestDocument (logicalId : String) (artifactKind : ArtifactKind) (packetId : String)
    (manifest : PacketBundleManifest) : BundleDocument where
  logicalId := logicalId
  path := "manifest.json"
  artifactKind := artifactKind
  value := manifest.toJson
  semanticHash := some manifest.artifactHash
  sourceRefs := [packetId]

/-! ## The topology bundle -/

/-- The file of one payload domain. -/
def payloadDocument (packet : TopologyPacket) (domain : String × Json) :
    Except String BundleDocument := do
  let digest ← expect (packet.payloadHashes.lookup domain.1) ("KeyError: " ++ domain.1)
  return {
    logicalId := "topology-payload:" ++ domain.1
    path := topologyPayloadPath domain.1
    artifactKind := .topologyPacket
    value := domain.2
    semanticHash := some digest
    sourceRefs := [packet.packetId] }

/-- The packet and the receipt. -/
def coreDocuments (packet : TopologyPacket) (receipt : ValidationReceipt) : List BundleDocument :=
  [{ logicalId := "topology-packet"
     path := "packet.json"
     artifactKind := .topologyPacket
     value := packet.toJson
     semanticHash := some packet.semanticHash
     sourceRefs := packet.inputs.repositoryModelPackets.map PacketRef.packetId },
    { logicalId := "topology-validation-receipt"
      path := "receipts/validation-receipt.json"
      artifactKind := .validationReceipt
      value := receipt.toJson
      semanticHash := some receipt.semanticHash
      sourceRefs := [packet.packetId] }]

/-- The manifest of a topology bundle. -/
def topologyManifest (packet : TopologyPacket) (createdAt : Timestamp)
    (artifacts : List (RenderedArtifact c)) : PacketBundleManifest :=
  manifestOf c packet.packetId "l9.topology" packet.packetVersion packet.semanticHash createdAt
    artifacts

/-- `build_topology_bundle_artifacts`. -/
def buildTopologyBundleArtifacts (packet : TopologyPacket) (state : TopologyState)
    (receipt : ValidationReceipt) (createdAt : Timestamp) :
    Except String (List (RenderedArtifact c)) := do
  demand (receipt.status = .passed)
    "cannot render a canonical bundle for failed topology validation"
  let payloads ← (sortedBy Prod.fst (topologyPayloads state)).mapM (payloadDocument packet)
  let artifacts ← (payloads ++ coreDocuments packet receipt).mapM (renderDocument c)
  let manifest ← renderDocument c (manifestDocument "topology-bundle-manifest" .topologyPacket
    packet.packetId (topologyManifest c packet createdAt artifacts))
  return sortedBy RenderedArtifact.destinationPath (artifacts ++ [manifest])

end Render

end ConstellationTopology
