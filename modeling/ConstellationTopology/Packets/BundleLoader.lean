import ConstellationTopology.Library.LinkedDisk
import ConstellationTopology.Packets.BundleManifest
import ConstellationTopology.Packets.CorpusIntelligence
import ConstellationTopology.Packets.WorkSignalPayload
import ConstellationTopology.Run.NormalizedPath

set_option autoImplicit false

/-! # The bundle loaders

`packets/loader.py` and the loading half of `packets/corpus_bundle.py`. A manifest is verified by
the files that it lists; the payload is read by the references of the packet.

The JSON library and the data models of packets and payloads are parameters, and nothing is assumed
of them. A loaded bundle also keeps what was read for it: each file beside the reference it was
read by. -/

namespace ConstellationTopology

/-- What ends the loading: a `PacketLoadError`, or an exception that nothing translates. -/
inductive BundleError
  | packetLoad (message : String)
  | uncaught (exception : String)

/-- What the loaders ask of a packet, and the packet as a whole. -/
structure PacketDocument where
  packetVersion : String
  packetId : String
  semanticHash : String
  payloadRefs : List (String × String)
  payloadHashes : List (String × String) := []
  validation : PacketValidationRef
  sourceRevision : String := ""
  payload : Option Json := none
  document : Json

/-- The data models of one packet type: validation of `packet.json`, validation of the payload that
    was read domain by domain, and what the semantic hash is taken of. -/
structure PacketModel where
  modelValidate : Json → Option PacketDocument
  payloadModel : List (String × Json) → Option Json
  semanticView : PacketDocument → Json

/-- What the loaders use: `json.loads`, the decoding it does of bytes, and the data models. -/
structure BundleReader where
  loads : String → Except String Json
  decode : ByteArray → Option String
  pydantic : Pydantic
  codec : Codec
  now : Timestamp
  repositoryModel : PacketModel
  topology : PacketModel
  corpusIntelligence : PacketModel

/-- A file that was read, and the reference it was read by. -/
structure BundleMember where
  reference : String
  file : OpenedFile

/-- One domain of a payload; a topology domain without a reference has no file. -/
structure PayloadPart where
  member : Option BundleMember
  key : String
  value : Json

/-- What a loader returns. -/
structure PacketBundle where
  root : Path
  manifest : PacketBundleManifest
  packet : PacketDocument
  receipt : Option ValidationReceipt := none
  packetMember : BundleMember
  payloadMembers : List BundleMember
  receiptMember : Option BundleMember := none

/-- Every file but the manifest that was read for the bundle. -/
def PacketBundle.members (bundle : PacketBundle) : List BundleMember :=
  bundle.packetMember :: (bundle.payloadMembers ++ bundle.receiptMember.toList)

/-- `repr` of a text without quotes or escapes. -/
def quotedName (name : String) : String := "'" ++ name ++ "'"

/-! ## Files -/

/-- The text of an absolute path. -/
def pathText (path : Path) : String := "/" ++ String.intercalate "/" path

/-- `root / reference`, before anything is resolved. -/
def joinPath (root : Path) (reference : String) : Path :=
  (if reference.toList.head? = some '/' then [] else root) ++ pathParts reference

/-- The reference names something that is on no disk. -/
def remoteReference (reference : String) : Bool :=
  (reference.toList.tails.any fun rest => "://".toList.isPrefixOf rest)
    || "urn:".toList.isPrefixOf reference.toList

variable (reader : BundleReader) (disk : LinkedDisk)

/-- `path.resolve()`, which raises in a circle of links. -/
def resolveBundlePath (path : Path) : Except BundleError Path :=
  expect (disk.resolve path) (.uncaught "RuntimeError")

/-- `_read_json`. -/
def readJson (path : Path) : Except BundleError (OpenedFile × Json) := do
  let message := "cannot load JSON from " ++ pathText path
  let file ← expect (disk.openFile path) (.packetLoad message)
  let text ← expect (String.fromUTF8? file.content) (.uncaught "UnicodeDecodeError")
  let value ← (reader.loads (String.ofList (universalNewlines text.toList))).mapError fun exc =>
    .packetLoad (message ++ ": " ++ exc)
  return (file, value)

/-- `_resolve_member`. -/
def resolveMember (root : Path) (reference : String) : Except BundleError Path := do
  demand (remoteReference reference = false)
    (.packetLoad ("remote packet member cannot be loaded by local loader: " ++ reference))
  let candidate ← resolveBundlePath disk (joinPath root reference)
  let base ← resolveBundlePath disk root
  demand (base <+: candidate) (.packetLoad ("packet reference escapes bundle root: " ++ reference))
  demand ((disk.openFile candidate).isSome)
    (.packetLoad ("packet member does not exist: " ++ reference))
  return candidate

/-- `path.read_bytes()` of a resolved member. -/
def readMember (root : Path) (reference : String) : Except BundleError BundleMember := do
  let candidate ← resolveMember disk root reference
  let file ← expect (disk.openFile candidate) (.uncaught "OSError")
  return { reference, file }

/-! ## The manifest -/

/-- The manifest of a bundle, before it is verified. -/
def readBundleManifest (bundleRoot : Path) : Except BundleError PacketBundleManifest := do
  let (_, value) ← readJson reader disk (joinPath bundleRoot "manifest.json")
  expect (PacketBundleManifest.ofJson reader.pydantic reader.now value)
    (.uncaught "ValidationError")

/-- One turn of the loop of `verify_bundle_manifest`. -/
def verifyBundleMember (bundleRoot : Path) (member : PacketFileEntry) : Except BundleError Unit := do
  let opened ← readMember disk bundleRoot member.path
  demand (reader.codec.artifactHash opened.file.content = member.contentHash)
    (.packetLoad ("bundle member hash mismatch: " ++ member.path))
  demand (opened.file.content.size = member.sizeBytes)
    (.packetLoad ("bundle member size mismatch: " ++ member.path))

/-- `verify_bundle_manifest`. -/
def verifyBundleManifest (path : Path) : Except BundleError PacketBundleManifest := do
  let bundleRoot ← resolveBundlePath disk path
  let manifest ← readBundleManifest reader disk bundleRoot
  let _ ← manifest.files.mapM (verifyBundleMember reader disk bundleRoot)
  let calculated := reader.codec.semanticHash (.arr (manifest.files.map PacketFileEntry.toJson))
  demand (manifest.artifactHash = calculated)
    (.packetLoad ("bundle manifest artifact hash mismatch: expected " ++ manifest.artifactHash
      ++ ", calculated " ++ calculated))
  return manifest

/-! ## The packet and the receipt -/

/-- `packet.json` of a bundle. -/
def readPacketDocument (model : PacketModel) (root : Path) :
    Except BundleError (BundleMember × PacketDocument) := do
  let (file, value) ← readJson reader disk (joinPath root "packet.json")
  let packet ← expect (model.modelValidate value) (.uncaught "ValidationError")
  return ({ reference := "packet.json", file }, packet)

/-- The manifest and the packet name one packet. -/
def matchManifest (manifest : PacketBundleManifest) (packet : PacketDocument) :
    Except BundleError Unit := do
  demand (manifest.packetId = packet.packetId)
    (.packetLoad "manifest packet_id does not match packet.json")
  demand (manifest.semanticHash = packet.semanticHash)
    (.packetLoad "manifest semantic_hash does not match packet.json")

/-- Read a receipt and check that it passed the packet. `statusMessage` and `role` are how a loader
    words its errors. -/
def readReceipt (root : Path) (packet : PacketDocument) (reference statusMessage role : String) :
    Except BundleError (BundleMember × ValidationReceipt) := do
  let candidate ← resolveMember disk root reference
  let (file, value) ← readJson reader disk candidate
  let receipt ← expect (ValidationReceipt.ofJson reader.pydantic reader.now value)
    (.uncaught "ValidationError")
  (validateValidationReceipt reader.codec receipt).mapError BundleError.uncaught
  demand (receipt.status = .passed)
    (.packetLoad (statusMessage ++ " is " ++ quotedName receipt.status.value))
  demand (receipt.subjectPacketId = packet.packetId)
    (.packetLoad (role ++ " references a different packet"))
  demand (receipt.subjectSemanticHash = packet.semanticHash)
    (.packetLoad (role ++ " references a different semantic hash"))
  return ({ reference, file }, receipt)

/-! ## Repository Model bundles -/

/-- One reference of `_materialize_repository_payload`. -/
def readRepositoryPart (root : Path) (field : String × String) :
    Except BundleError PayloadPart := do
  let candidate ← resolveMember disk root field.2
  let (file, value) ← readJson reader disk candidate
  return { member := some { reference := field.2, file }, key := field.1, value }

/-- `_materialize_repository_payload`. -/
def materializeRepositoryPayload (root : Path) (packet : PacketDocument) :
    Except BundleError (PacketDocument × List BundleMember) :=
  match packet.payload with
  | some _ => .ok (packet, [])
  | none => do
      let parts ← packet.payloadRefs.mapM (readRepositoryPart reader disk root)
      let payload ← expect
        (reader.repositoryModel.payloadModel (parts.map fun part => (part.key, part.value)))
        (.uncaught "ValidationError")
      return ({ packet with payload := some payload }, parts.filterMap PayloadPart.member)

/-- `validate_repository_model_packet`; its error is no `PacketLoadError`. -/
def validateRepositoryModelPacket (packet : PacketDocument) : Except BundleError Unit := do
  demand (packet.packetVersion ∈ ["1.0.0", "1.1.0"]) (.uncaught "unsupported-contract-version")
  demand (packet.validation.status = .passed) (.uncaught "input-validation-failed")
  demand (packet.sourceRevision ≠ "") (.uncaught "missing-source-revision")
  demand packet.payload.isSome (.uncaught "missing-payload")
  demand (reader.codec.semanticHash (reader.repositoryModel.semanticView packet)
    = packet.semanticHash) (.uncaught "semantic-hash-mismatch")

/-- The receipt a Repository Model packet names, if it is local and not empty. -/
def repositoryReceiptReference (packet : PacketDocument) : String :=
  match packet.validation.receiptRef with
  | some reference =>
      if reference ≠ "" ∧ remoteReference reference = false then reference
      else "receipts/validation-receipt.json"
  | none => "receipts/validation-receipt.json"

/-- `load_repository_model_bundle`. -/
def loadRepositoryModelBundle (path : Path) : Except BundleError PacketBundle := do
  let root ← resolveBundlePath disk path
  demand (disk.isDirectory root)
    (.packetLoad "canonical Repository Model input must be a packet bundle directory")
  let manifest ← verifyBundleManifest reader disk root
  let (packetMember, document) ← readPacketDocument reader disk reader.repositoryModel root
  let (packet, payloadMembers) ← materializeRepositoryPayload reader disk root document
  validateRepositoryModelPacket reader packet
  matchManifest manifest packet
  let (receiptMember, receipt) ← readReceipt reader disk root packet
    (repositoryReceiptReference packet) "input validation receipt status" "input validation receipt"
  return { root, manifest, packet, receipt := some receipt, packetMember, payloadMembers,
           receiptMember := some receiptMember }

/-! ## Topology bundles -/

/-- The domains of a topology state, in the order they are loaded. -/
def topologyPayloadKeys : List String :=
  ["repository_records", "artifact_records", "capability_records", "semantic_claims",
    "edge_records", "flow_records", "graph_records", "risks", "maturity", "impact_indexes",
    "corpus_records", "root_records", "candidate_relations", "candidate_clusters",
    "readiness_evidence", "topology_reasoning_candidates", "evidence", "diagnostics", "unknowns",
    "conflicts"]

/-- `load_records`. -/
def loadRecords (root : Path) (packet : PacketDocument) (key : String) :
    Except BundleError PayloadPart :=
  match packet.payloadRefs.lookup key with
  | none => .ok { member := none, key, value := .arr [] }
  | some reference => do
      let opened ← readMember disk root reference
      let expectedHash ← expect (packet.payloadHashes.lookup key)
        (.packetLoad ("topology packet is missing payload hash for " ++ key))
      demand (reader.codec.artifactHash opened.file.content = expectedHash)
        (.packetLoad ("topology payload hash mismatch for " ++ key))
      let text ← expect (reader.decode opened.file.content) (.uncaught "UnicodeDecodeError")
      let value ← (reader.loads text).mapError fun _ =>
        .packetLoad ("invalid topology payload JSON for " ++ key)
      return { member := some opened, key, value }

/-- `load_topology_bundle`. -/
def loadTopologyBundle (path : Path) : Except BundleError PacketBundle := do
  let root ← resolveBundlePath disk path
  let manifest ← verifyBundleManifest reader disk root
  let (packetMember, packet) ← readPacketDocument reader disk reader.topology root
  matchManifest manifest packet
  let calculated := reader.codec.semanticHash (reader.topology.semanticView packet)
  demand (calculated = packet.semanticHash)
    (.packetLoad ("topology packet semantic hash mismatch: expected " ++ packet.semanticHash
      ++ ", calculated " ++ calculated))
  let parts ← topologyPayloadKeys.mapM (loadRecords reader disk root packet)
  let state ← expect (reader.topology.payloadModel (parts.map fun part => (part.key, part.value)))
    (.uncaught "ValidationError")
  let reference ← expect packet.validation.receiptRef
    (.packetLoad "topology packet does not reference a validation receipt")
  let (receiptMember, receipt) ← readReceipt reader disk root packet reference
    "topology validation status" "topology receipt"
  return { root, manifest, packet := { packet with payload := some state },
           receipt := some receipt, packetMember,
           payloadMembers := parts.filterMap PayloadPart.member,
           receiptMember := some receiptMember }

/-! ## Corpus Intelligence bundles -/

/-- `CORPUS_PAYLOAD_FIELDS`. -/
def corpusPayloadFields : List CorpusPayloadField :=
  [.documentWorkSignals, .exactDuplicateRelations, .semanticPairRelations, .topicCandidates,
    .projectCandidates, .consolidationCandidates, .readinessEvidence, .reasoningCandidates,
    .reasoningEvidencePackRefs]

/-- One field of `_read_payload`: the reference is opened as it stands. -/
def readCorpusField (root : Path) (packet : PacketDocument) (field : CorpusPayloadField) :
    Except BundleError PayloadPart := do
  let reference ← expect (packet.payloadRefs.lookup field.value)
    (.packetLoad ("corpus intelligence packet is missing payload ref for " ++ field.value))
  let file ← expect (disk.openFile (joinPath root reference))
    (.packetLoad ("cannot read corpus payload " ++ reference))
  let expected ← expect (packet.payloadHashes.lookup field.value)
    (.packetLoad ("corpus intelligence packet is missing payload hash for " ++ field.value))
  demand (reader.codec.artifactHash file.content = expected)
    (.packetLoad ("corpus payload hash mismatch for " ++ field.value))
  let text ← expect (reader.decode file.content) (.uncaught "UnicodeDecodeError")
  let value ← (reader.loads text).mapError fun _ => .uncaught "JSONDecodeError"
  return { member := some { reference, file }, key := field.value, value }

/-- `_read_payload`. -/
def readCorpusPayload (root : Path) (packet : PacketDocument) :
    Except BundleError (Json × List BundleMember) := do
  let parts ← corpusPayloadFields.mapM (readCorpusField reader disk root packet)
  let payload ← expect
    (reader.corpusIntelligence.payloadModel (parts.map fun part => (part.key, part.value)))
    (.uncaught "ValidationError")
  return (payload, parts.filterMap PayloadPart.member)

/-- `load_corpus_intelligence_bundle`. -/
def loadCorpusIntelligenceBundle (path : Path) : Except BundleError PacketBundle := do
  let root ← resolveBundlePath disk path
  demand (disk.isDirectory root)
    (.packetLoad "canonical Corpus Intelligence input must be a packet bundle directory")
  let manifest ← verifyBundleManifest reader disk root
  let (packetMember, packet) ← readPacketDocument reader disk reader.corpusIntelligence root
  matchManifest manifest packet
  let (payload, payloadMembers) ← readCorpusPayload reader disk root packet
  let materialized := { packet with payload := some payload }
  let calculated := reader.codec.semanticHash (reader.corpusIntelligence.semanticView materialized)
  demand (calculated = packet.semanticHash)
    (.packetLoad ("corpus intelligence semantic hash mismatch: expected " ++ packet.semanticHash
      ++ ", calculated " ++ calculated))
  return { root, manifest, packet := materialized, packetMember, payloadMembers }

/-! ## Dispatch -/

/-- The packet types that have a loader. -/
inductive BundleKind
  | topology
  | repositoryModel
  | corpusIntelligence
  deriving DecidableEq, Repr

/-- `BUNDLE_VERIFIERS`. -/
def loadBundle : BundleKind → Path → Except BundleError PacketBundle
  | .topology => loadTopologyBundle reader disk
  | .repositoryModel => loadRepositoryModelBundle reader disk
  | .corpusIntelligence => loadCorpusIntelligenceBundle reader disk

end ConstellationTopology
