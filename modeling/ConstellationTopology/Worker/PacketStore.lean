import ConstellationTopology.CompileRoundTrip
import ConstellationTopology.Library.Text
import ConstellationTopology.Worker.StageRunner

set_option autoImplicit false

/-! # The packet store

`worker/packet_store.py`: a packet is read from a directory or pulled from a registry, published to
either, and verified where it was published. A registry is reached by the `oras` program, which may
answer anything and leave anything on the disk; `urllib`, the program and the directories made for it
are parameters. A failed call ends the stage, so what it left on the disk is not followed. -/

namespace ConstellationTopology

/-! ## The machine -/

/-- What is looked at of the result of `urlparse`. -/
structure ParsedUri where
  scheme : String
  netloc : String
  path : String
  deriving DecidableEq, Repr

/-- What the command answered. -/
structure CompletedProcess where
  returncode : ℤ
  stdout : String
  stderr : String
  deriving DecidableEq, Repr

/-- `urllib.parse`, the place relative paths start from, `oras` and the directories made. -/
structure StoreMachine where
  urlparse : String → ParsedUri
  unquote : String → String
  workingDirectory : Path
  /-- `shutil.which(self.oras_executable)` -/
  executable : Option String
  run : List String → LinkedDisk → Except StageException (CompletedProcess × LinkedDisk)
  /-- `path.mkdir(parents=True, exist_ok=True)` -/
  makeDirectory : Path → LinkedDisk → Except StageException LinkedDisk
  /-- `tempfile.mkdtemp(prefix="verify-published-", dir=path)` -/
  makeTemporary : Path → LinkedDisk → Except StageException (Path × LinkedDisk)

/-- A loading error as it leaves the store. -/
def StageException.ofBundle : BundleError → StageException
  | .packetLoad message => .other "PacketLoadError" message
  | .uncaught exception => .other exception ""

section

variable (machine : StoreMachine) (disk : LinkedDisk)

/-! ## URIs -/

/-- `parsed.scheme in {"", "file"}`. -/
def isFileScheme (scheme : String) : Bool := scheme = "" ∨ scheme = "file"

/-- `Path(raw).resolve()`. -/
def resolveStorePath (path : Path) : Except StageException Path :=
  (resolveBundlePath disk path).mapError .ofBundle

/-- `file_uri_to_path`. -/
def fileUriToPath (uri : String) : Except StageException Path := do
  let parsed := machine.urlparse uri
  demand (isFileScheme parsed.scheme) (.other "ValueError" ("not a file URI: " ++ uri))
  let raw := if parsed.scheme = "file" then machine.unquote parsed.path else uri
  let located := if parsed.netloc = "" ∨ parsed.netloc = "localhost" then raw
    else "//" ++ parsed.netloc ++ raw
  resolveStorePath disk (joinPath machine.workingDirectory located)

/-- `_oci_repository`. -/
def ociRepository (reference : String) : String :=
  let value := beforeFirst '@' (removeMarker "oci://" reference)
  let slash := lastIndex '/' value
  let colon := lastIndex ':' value
  if slash < colon then String.ofList (value.toList.take colon.toNat) else value

/-- The URI carries a digest. -/
def digestQualified (uri : String) : Bool := holdsMarker "@sha256:" uri

/-! ## Digests -/

/-- `candidate.startswith("sha256:")`. -/
def isDigest (candidate : String) : Bool := "sha256:".toList.isPrefixOf candidate.toList

/-- The digest a mapping states of itself. -/
def statedDigest (fields : List (String × Json)) : Option String :=
  ["digest", "manifestDigest", "manifest_digest"].findSome? fun key =>
    match fields.lookup key with
    | some (.str candidate) => if isDigest candidate then some candidate else none
    | _ => none

mutual

/-- `_extract_digest`. -/
def extractDigest : Json → Option String
  | .obj fields => (statedDigest fields).or (extractDigestFields fields)
  | .arr items => extractDigestItems items
  | .null => none
  | .bool _ => none
  | .int _ => none
  | .float _ => none
  | .str _ => none

def extractDigestItems : List Json → Option String
  | [] => none
  | item :: rest => (extractDigest item).or (extractDigestItems rest)

def extractDigestFields : List (String × Json) → Option String
  | [] => none
  | (_, value) :: rest => (extractDigest value).or (extractDigestFields rest)

end

/-- `_bundle_manifest_digest`. -/
def bundleManifestDigest (c : Codec) (bundlePath : Path) : Except StageException String := do
  let manifest ← expect (disk.openFile (joinPath bundlePath "manifest.json"))
    (blockedFailure "packet-bundle-manifest-missing"
      ("published bundle lacks manifest.json: " ++ pathText bundlePath))
  return c.artifactHash manifest.content

/-! ## Running `oras` -/

/-- `self._oras()` and the run of the command. -/
def runOras (arguments : List String) :
    Except StageException (CompletedProcess × LinkedDisk) := do
  let executable ← expect machine.executable
    (blockedFailure "packet-store-client-unavailable"
      "the oras executable is required for OCI packet URIs")
  machine.run (executable :: arguments) disk

/-- `completed.stderr.strip() or completed.stdout.strip()`. -/
def CompletedProcess.failure (completed : CompletedProcess) : String :=
  if strip completed.stderr = "" then strip completed.stdout else strip completed.stderr

/-- `oras` ran and did not fail. -/
def succeedOras (code : String) (arguments : List String) :
    Except StageException (CompletedProcess × LinkedDisk) := do
  let (completed, after) ← runOras machine disk arguments
  demand (completed.returncode = 0) (retryableFailure code completed.failure)
  return (completed, after)

/-- `json.loads(completed.stdout or "{}")`. -/
def readOutput (loads : String → Except String Json) (completed : CompletedProcess) :
    Except String Json :=
  loads (if completed.stdout = "" then "{}" else completed.stdout)

/-- The arguments of a pull. -/
def pullArguments (uri : String) (path : Path) : List String :=
  ["pull", removeMarker "oci://" uri, "--output", pathText path]

end

/-! ## Checking a topology bundle -/

/-- The names of the checks that are not met. -/
def unmetNames (checks : List (String × Bool)) : List String :=
  checks.filterMap fun check => if check.2 then none else some check.1

theorem unmetNames_eq_nil {checks : List (String × Bool)} :
    unmetNames checks = [] ↔ ∀ check ∈ checks, check.2 = true := by
  simp [unmetNames, List.filterMap_eq_nil_iff]

variable (base : BundleReader) (payloadModel : List (String × Json) → Option Json)
  (machine : StoreMachine)

/-- The loader with the data model of topology packets. -/
def topologyReader : BundleReader :=
  { base with topology := topologyPacketModel base.pydantic base.now payloadModel }

/-- What a reference has to agree with in the packet, the receipt and the manifest. -/
def topologyChecks (packet : TopologyPacket) (receipt : ValidationReceipt)
    (manifestDigest : String) (expected : PacketRef) (expectedDigest : String) :
    List (String × Bool) :=
  [("packet_id", packet.packetId = expected.packetId),
    ("packet_type", "l9.topology" = expected.packetType),
    ("packet_version", packet.packetVersion = expected.packetVersion),
    ("semantic_hash", packet.semanticHash = expected.semanticHash),
    ("artifact_hash", expected.artifactHash = none ∨ some packet.artifactHash = expected.artifactHash),
    ("validation_status", expected.validationStatus = .passed ∧ receipt.status = .passed),
    ("validation_receipt_packet", receipt.subjectPacketId = expected.packetId),
    ("validation_receipt_semantic_hash", receipt.subjectSemanticHash = expected.semanticHash),
    ("bundle_manifest_digest", manifestDigest = expectedDigest)]

/-- The packet and the receipt of a loaded topology bundle. -/
def loadedTopology (bundle : PacketBundle) : Option (TopologyPacket × ValidationReceipt) := do
  let packet ← TopologyPacket.ofJson base.pydantic base.now bundle.packet.document
  let receipt ← bundle.receipt
  return (packet, receipt)

/-- `_assert_expected_topology`. -/
def assertExpectedTopology (disk : LinkedDisk) (bundlePath : Path) (expected : PacketRef)
    (expectedBundleManifestDigest : String) : Except StageException Unit := do
  let bundle ← (loadTopologyBundle (topologyReader base payloadModel) disk bundlePath).mapError
    .ofBundle
  let (packet, receipt) ← expect (loadedTopology base bundle) (.other "ValidationError" "")
  let actualManifestDigest ← bundleManifestDigest disk base.codec bundlePath
  let mismatches := unmetNames (topologyChecks packet receipt actualManifestDigest expected
    expectedBundleManifestDigest)
  demand (mismatches = []) (blockedFailure "published-packet-reference-mismatch"
    (expected.packetId ++ ": " ++ String.intercalate ", " mismatches))

/-! ## Publishing -/

/-- The files below a directory, by their names below it: `rglob("*")`, which follows no link to a
directory, sorted, and of these the files. -/
def bundleFiles (disk : LinkedDisk) (bundlePath root : Path) : List Path :=
  let below := disk.nodes.filterMap fun node =>
    if root <+: node.1 ∧ (∀ above ∈ node.1.inits, root <+: above → above ≠ node.1 →
        disk.isDirectory above = true) then
      some (node.1.drop root.length)
    else none
  (below.dedup.insertionSort fun a b => a ≤ b).filter fun path =>
    path ≠ [] ∧ (disk.openFile (bundlePath ++ path)).isSome

/-- `_publication_staging_target`: a tag that names what is pushed. -/
def publicationStagingTarget (disk : LinkedDisk) (outputUri : String) (bundlePath : Path) :
    Except StageException String := do
  let bundle ← (loadTopologyBundle (topologyReader base payloadModel) disk bundlePath).mapError
    .ofBundle
  let semanticDigest := removeMarker "sha256:" bundle.packet.semanticHash
  demand (semanticDigest.toList.length = 64 ∧
      (semanticDigest.toList.all fun ch => "0123456789abcdef".toList.contains ch) = true)
    (blockedFailure "packet-semantic-hash-invalid"
      "Topology Packet semantic hash cannot form an OCI staging tag")
  return ociRepository outputUri ++ ":packet-" ++ semanticDigest

/-- The arguments of a push. -/
def pushArguments (target : String) (files : List Path) : List String :=
  ["push", target, "--format", "json", "--artifact-type",
    "application/vnd.quantum-l9.packet.bundle.v1+json"] ++
    files.map fun path => String.intercalate "/" path ++ ":application/octet-stream"

/-- `publish` to a directory: the bundle has to lie there already. -/
def publishFile (disk : LinkedDisk) (bundlePath : Path) (outputUri manifestDigest : String) :
    Except StageException PublishedPacket := do
  let expected ← fileUriToPath machine disk outputUri
  let resolved ← resolveStorePath disk bundlePath
  demand (resolved = expected) (blockedFailure "file-store-path-mismatch"
    ("bundle was committed at " ++ pathText bundlePath ++ ", not configured output " ++
      pathText expected))
  let _ ← (loadTopologyBundle (topologyReader base payloadModel) disk expected).mapError .ofBundle
  let place ← resolveStorePath disk expected
  return { uri := pathToFileUri place, bundleManifestDigest := manifestDigest }

/-- `publish` to a registry. -/
def publishOci (disk : LinkedDisk) (bundlePath : Path) (outputUri manifestDigest : String) :
    Except StageException PublishedPacket := do
  let root ← resolveStorePath disk bundlePath
  let target ← publicationStagingTarget base payloadModel disk outputUri bundlePath
  let (completed, _) ← succeedOras machine disk "packet-publication-failed"
    (pushArguments target (bundleFiles disk bundlePath root))
  let output ← (readOutput base.loads completed).mapError fun _ =>
    blockedFailure "packet-publication-digest-missing"
      "ORAS publication did not return machine-readable digest evidence"
  let registryDigest ← expect (extractDigest output)
    (blockedFailure "packet-publication-digest-missing"
      "ORAS publication result did not contain a sha256 manifest digest")
  return { uri := "oci://" ++ ociRepository outputUri ++ "@" ++ registryDigest
           bundleManifestDigest := manifestDigest
           registryManifestDigest := some registryDigest
           stagingUri := some ("oci://" ++ target) }

/-- `publish`. -/
def publish (disk : LinkedDisk) (bundlePath : Path) (outputUri : String) :
    Except StageException PublishedPacket := do
  let scheme := (machine.urlparse outputUri).scheme
  let manifestDigest ← bundleManifestDigest disk base.codec bundlePath
  if isFileScheme scheme then
    publishFile base payloadModel machine disk bundlePath outputUri manifestDigest
  else do
    demand (scheme = "oci") (blockedFailure "packet-uri-unsupported"
      ("unsupported output packet URI scheme: " ++ scheme))
    publishOci base payloadModel machine disk bundlePath outputUri manifestDigest

/-! ## Verifying -/

/-- `_fetch_registry_descriptor_digest`. -/
def fetchRegistryDescriptorDigest (disk : LinkedDisk) (outputUri : String) :
    Except StageException (String × LinkedDisk) := do
  let (completed, after) ← succeedOras machine disk "packet-verification-descriptor-failed"
    ["manifest", "fetch", "--descriptor", "--format", "json", removeMarker "oci://" outputUri]
  let descriptor ← (readOutput base.loads completed).mapError fun _ =>
    blockedFailure "packet-verification-descriptor-invalid"
      "registry descriptor response is not valid JSON"
  let digest ← expect (extractDigest descriptor)
    (blockedFailure "packet-verification-descriptor-invalid"
      "registry descriptor response lacks a sha256 digest")
  return (digest, after)

/-- The directory a published packet is pulled to for its verification. -/
def pullForVerification (disk : LinkedDisk) (outputUri : String) (workspace : Path) :
    Except StageException (Path × LinkedDisk) := do
  let made ← machine.makeDirectory workspace disk
  let (verificationPath, prepared) ← machine.makeTemporary workspace made
  let (_, pulled) ← succeedOras machine prepared "packet-verification-download-failed"
    (pullArguments outputUri verificationPath)
  return (verificationPath, pulled)

/-- `verify_published` in a registry. -/
def verifyPublishedOci (disk : LinkedDisk) (outputUri : String) (expected : PacketRef)
    (expectedBundleManifestDigest : String) (expectedRegistryManifestDigest : Option String)
    (workspace : Path) : Except StageException (Option String) := do
  demand (digestQualified outputUri = true) (blockedFailure "packet-uri-not-immutable"
    ("published OCI packet must be digest-qualified: " ++ outputUri))
  let uriDigest := afterLast '@' outputUri
  demand (expectedRegistryManifestDigest = some uriDigest)
    (blockedFailure "registry-manifest-digest-mismatch"
      "published OCI URI digest does not match registry evidence")
  let (descriptorDigest, fetched) ← fetchRegistryDescriptorDigest base machine disk outputUri
  demand (descriptorDigest = uriDigest) (blockedFailure "registry-descriptor-digest-mismatch"
    "independently resolved registry descriptor does not match the immutable URI")
  let (verificationPath, pulled) ← pullForVerification machine fetched outputUri workspace
  assertExpectedTopology base payloadModel pulled verificationPath expected
    expectedBundleManifestDigest
  return some descriptorDigest

/-- `verify_published`. -/
def verifyPublished (disk : LinkedDisk) (outputUri : String) (expected : PacketRef)
    (expectedBundleManifestDigest : String) (expectedRegistryManifestDigest : Option String)
    (workspace : Path) : Except StageException (Option String) := do
  let scheme := (machine.urlparse outputUri).scheme
  if isFileScheme scheme then do
    let place ← fileUriToPath machine disk outputUri
    assertExpectedTopology base payloadModel disk place expected expectedBundleManifestDigest
    return none
  else do
    demand (scheme = "oci") (blockedFailure "packet-uri-unsupported"
      ("unsupported output packet URI scheme: " ++ scheme))
    verifyPublishedOci base payloadModel machine disk outputUri expected
      expectedBundleManifestDigest expectedRegistryManifestDigest workspace

end ConstellationTopology
