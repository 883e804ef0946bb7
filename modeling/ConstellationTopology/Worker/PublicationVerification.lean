import ConstellationTopology.Worker.PacketStore

set_option autoImplicit false

/-! # What a verified publication is

The digest of a manifest, taken when a bundle was published, is compared with the manifest of what is
found later, and the loader compares every file with the manifest. So whatever a registry or another
program does in between, a verification succeeds exactly if the published bundle is what it finds
(`published_verified_iff`). -/

namespace ConstellationTopology

/-! ## Digests -/

/-- What is extracted is a digest. -/
theorem statedDigest_isDigest {fields : List (String × Json)} {digest : String}
    (h : statedDigest fields = some digest) : isDigest digest = true := by
  obtain ⟨key, -, hkey⟩ := List.exists_of_findSome?_eq_some h
  split at hkey
  · split at hkey
    · next hdigest => rwa [← Option.some.inj hkey]
    · cases hkey
  · cases hkey

mutual

theorem extractDigest_isDigest {digest : String} :
    ∀ {value : Json}, extractDigest value = some digest → isDigest digest = true
  | .obj fields, h => by
      rw [extractDigest, Option.or_eq_some_iff] at h
      rcases h with hstated | ⟨-, hchild⟩
      · exact statedDigest_isDigest hstated
      · exact extractDigestFields_isDigest hchild
  | .arr items, h => by
      rw [extractDigest] at h
      exact extractDigestItems_isDigest h
  | .null, h => by cases h
  | .bool _, h => by cases h
  | .int _, h => by cases h
  | .float _, h => by cases h
  | .str _, h => by cases h

theorem extractDigestItems_isDigest {digest : String} :
    ∀ {items : List Json}, extractDigestItems items = some digest → isDigest digest = true
  | [], h => by cases h
  | item :: rest, h => by
      rw [extractDigestItems, Option.or_eq_some_iff] at h
      rcases h with hitem | ⟨-, hrest⟩
      · exact extractDigest_isDigest hitem
      · exact extractDigestItems_isDigest hrest

theorem extractDigestFields_isDigest {digest : String} :
    ∀ {fields : List (String × Json)},
      extractDigestFields fields = some digest → isDigest digest = true
  | [], h => by cases h
  | (_, value) :: rest, h => by
      rw [extractDigestFields, Option.or_eq_some_iff] at h
      rcases h with hvalue | ⟨-, hrest⟩
      · exact extractDigest_isDigest hvalue
      · exact extractDigestFields_isDigest hrest

end

/-- A published registry URI is digest-qualified. -/
theorem digestQualified_of_isDigest (repository : String) {digest : String}
    (h : isDigest digest = true) :
    digestQualified ("oci://" ++ repository ++ "@" ++ digest) = true := by
  obtain ⟨rest, hrest⟩ := List.isPrefixOf_iff_prefix.1 h
  have hdigest : digest = "sha256:" ++ String.ofList rest := by
    rw [← String.toList_inj, ← hrest, String.toList_append]
    simp
  have hmarked : "oci://" ++ repository ++ "@" ++ digest =
      ("oci://" ++ repository) ++ "@sha256:" ++ String.ofList rest := by
    rw [hdigest]
    simp only [String.append_assoc]
    rfl
  rw [digestQualified, hmarked]
  exact holdsMarker_append _ _ _

/-- The digest of a published URI is read back unless it holds a separator itself. -/
theorem afterLast_published (repository digest : String) :
    afterLast '@' ("oci://" ++ repository ++ "@" ++ digest) = digest ↔ '@' ∉ digest.toList := by
  constructor
  · intro h
    rw [← h]
    exact notMem_afterLast _ _
  · exact afterLast_append ("oci://" ++ repository)

/-! ## A bundle in a directory -/

variable {env : CompileEnvironment} {configuration : ResolvedConfiguration}
  {inputs : List RepositoryInput} {corpora : List CorpusAnalysisPacket}

/-- The reference names the packet. -/
structure DescribedBy (packet : TopologyPacket) (expected : PacketRef) : Prop where
  packetId : packet.packetId = expected.packetId
  packetType : "l9.topology" = expected.packetType
  packetVersion : packet.packetVersion = expected.packetVersion
  semanticHash : packet.semanticHash = expected.semanticHash
  artifactHash : expected.artifactHash = none ∨ some packet.artifactHash = expected.artifactHash
  validationStatus : expected.validationStatus = .passed

/-- The store in the process of the compiler: the same serialization. -/
def compiledBase (env : CompileEnvironment) (base : BundleReader) : BundleReader :=
  { base with codec := env.codec }

/-- The files of a result are in a directory as they were rendered. -/
structure HoldsBundle {env : CompileEnvironment} (reader : BundleReader) (disk : LinkedDisk)
    (path root : Path) (result : CompilationResult env.codec) : Prop where
  resolves : disk.resolve path = some root
  manifest : ManifestWritten reader disk root result.manifest
  reaches : (disk.openFile (joinPath path "manifest.json")).isSome = true
  files : ∀ artifact ∈ result.listed, Untouched disk root artifact
  packet : (disk.openFile (joinPath root "packet.json")).isSome = true

/-- A name below a path and below what the path resolves to is one file. -/
theorem openFile_joinPath_eq {disk : LinkedDisk} {path root : Path} {reference : String}
    {file other : OpenedFile} (hrelative : reference.toList.head? ≠ some '/')
    (hroot : disk.resolve path = some root)
    (hfile : disk.openFile (joinPath path reference) = some file)
    (hother : disk.openFile (joinPath root reference) = some other) : file = other := by
  have hreads := LinkedDisk.reads_of_openFile hfile
  have hreads' := LinkedDisk.reads_of_openFile hother
  refine hreads.eq hreads' ?_
  have hplace := hreads.resolves
  have hplace' := hreads'.resolves
  rw [joinPath, if_neg hrelative] at hplace hplace'
  rw [LinkedDisk.resolve_append hroot, hplace'] at hplace
  exact (Option.some.inj hplace).symm

section Checking

variable {createdAt : Option Timestamp} {result : CompilationResult env.codec}
  {base : BundleReader} {payloadModel : List (String × Json) → Option Json} {loadedState : Json}
  {disk : LinkedDisk} {path root : Path} {expected : PacketRef} {digest : String}

/-- The digest `_bundle_manifest_digest` has of the manifest of a result. -/
def CompilationResult.manifestDigest {c : Codec} (result : CompilationResult c) : String :=
  c.artifactHash (documentText c result.manifest.toJson).toUTF8

theorem bundleManifestDigest_eq_ok {c : Codec} :
    bundleManifestDigest disk c path = .ok digest ↔
      ∃ file, disk.openFile (joinPath path "manifest.json") = some file ∧
        c.artifactHash file.content = digest := by
  simp only [bundleManifestDigest, bind_eq_ok, expect_eq_ok, pure_eq_ok]

/-- The digest of a directory that holds the bundle. -/
theorem HoldsBundle.manifestDigest
    (h : HoldsBundle (compiledReader env base payloadModel) disk path root result) :
    bundleManifestDigest disk env.codec path = .ok result.manifestDigest := by
  obtain ⟨location, hwritten⟩ := h.manifest
  obtain ⟨file, hfile⟩ := Option.isSome_iff_exists.1 h.reaches
  obtain rfl := openFile_joinPath_eq (by decide) h.resolves hfile hwritten
  exact bundleManifestDigest_eq_ok.2 ⟨_, hfile, rfl⟩

/-- A manifest with that digest is the manifest. -/
theorem manifestWritten_of_digest {reader : BundleReader} (hcodec : reader.codec = env.codec)
    (hfaithful : env.codec.Faithful) (hroot : disk.resolve path = some root)
    (hdigest : bundleManifestDigest disk env.codec path = .ok result.manifestDigest)
    (hread : (disk.openFile (joinPath root "manifest.json")).isSome = true) :
    ManifestWritten reader disk root result.manifest ∧
      (disk.openFile (joinPath path "manifest.json")).isSome = true := by
  obtain ⟨file, hfile, hhash⟩ := bundleManifestDigest_eq_ok.1 hdigest
  rw [CompilationResult.manifestDigest, hfaithful.artifactHash_inj] at hhash
  obtain ⟨other, hother⟩ := Option.isSome_iff_exists.1 hread
  obtain rfl := openFile_joinPath_eq (by decide) hroot hfile hother
  refine ⟨⟨file.location, ?_⟩, by rw [hfile, Option.isSome_some]⟩
  rw [hother, hcodec, ← hhash]

/-- The checks against the packet and the receipt of a result. -/
theorem topologyChecks_met {packet : TopologyPacket} {state : TopologyState}
    {receipt : ValidationReceipt} {c : Codec} (hcoherent : Coherent c packet state receipt)
    {expectedDigest : String} :
    unmetNames (topologyChecks packet.canonical receipt.canonical digest expected
        expectedDigest) = [] ↔ DescribedBy packet expected ∧ digest = expectedDigest := by
  have hid : receipt.canonical.subjectPacketId = packet.packetId := hcoherent.subjectPacketId
  have hhash : receipt.canonical.subjectSemanticHash = packet.semanticHash :=
    hcoherent.subjectSemanticHash
  have hstatus : receipt.canonical.status = .passed := hcoherent.passed
  simp only [unmetNames_eq_nil, topologyChecks, List.forall_mem_cons, decide_eq_true_eq, hid, hhash,
    hstatus]
  constructor
  · rintro ⟨hpacket, htype, hversion, hsemantic, hartifact, hvalid, -, -, hdigest, -⟩
    exact ⟨⟨hpacket, htype, hversion, hsemantic, hartifact, hvalid.1⟩, hdigest⟩
  · rintro ⟨h, hdigest⟩
    exact ⟨h.packetId, h.packetType, h.packetVersion, h.semanticHash, h.artifactHash,
      ⟨h.validationStatus, trivial⟩, h.packetId, h.semanticHash, hdigest, by simp⟩

/-- Whatever the packet is, the checks compare the digest. -/
theorem digest_of_topologyChecks {packet : TopologyPacket} {receipt : ValidationReceipt}
    {expectedDigest : String}
    (h : unmetNames (topologyChecks packet receipt digest expected expectedDigest) = []) :
    digest = expectedDigest := by
  have hlast := unmetNames_eq_nil.1 h ("bundle_manifest_digest", decide (digest = expectedDigest))
    (by simp [topologyChecks])
  simpa using hlast

/-- A verified manifest was opened. -/
theorem manifest_opened {reader : BundleReader} {manifest : PacketBundleManifest}
    (hroot : disk.resolve path = some root)
    (h : verifyBundleManifest reader disk root = .ok manifest) :
    (disk.openFile (joinPath root "manifest.json")).isSome = true := by
  simp only [verifyBundleManifest, readBundleManifest, bind_eq_ok, resolveBundlePath_eq_ok,
    LinkedDisk.resolve_resolve hroot, Option.some.injEq] at h
  obtain ⟨place, rfl, found, ⟨⟨file, value⟩, hread, -⟩, -⟩ := h
  rw [openFile_of_readJson hread, Option.isSome_some]

/-- What was loaded is the packet and the receipt of the result. -/
theorem LoadedAs.loadedTopology (base : BundleReader) {bundle : PacketBundle} {packet : TopologyPacket}
    {receipt : ValidationReceipt} {manifest : PacketBundleManifest}
    (h : LoadedAs packet receipt loadedState manifest root bundle) :
    ConstellationTopology.loadedTopology base bundle =
      some (packet.canonical, receipt.canonical) := by
  have hdocument : bundle.packet.document = packet.toJson.canonicalData := by
    rw [h.packet_eq]
    rfl
  simp only [ConstellationTopology.loadedTopology, hdocument, TopologyPacket.ofJson_toJson,
    h.receipt_eq]
  rfl

variable (base payloadModel)

/-- **A check against the manifest digest accepts the bundle itself only.** -/
theorem assertExpectedTopology_iff (hfaithful : env.codec.Faithful)
    (hcompile : compileTopology env configuration inputs corpora createdAt = .ok result)
    (hreads : ReadsBundle (compiledReader env base payloadModel) result.packet result.state
      result.receipt result.manifest)
    (hstate : payloadModel (canonicalPayloads result.state) = some loadedState) :
    assertExpectedTopology (compiledBase env base) payloadModel disk path expected
        result.manifestDigest = .ok () ↔
      DescribedBy result.packet expected ∧
        ∃ root, HoldsBundle (compiledReader env base payloadModel) disk path root result := by
  obtain ⟨profile, h⟩ := compileTopology_eq_ok.1 hcompile
  have hreader : topologyReader (compiledBase env base) payloadModel =
      compiledReader env base payloadModel := rfl
  have hcodec : (compiledBase env base).codec = env.codec := rfl
  simp only [assertExpectedTopology, bind_eq_ok, mapError_eq_ok, expect_eq_ok, demand_eq_ok,
    hreader, hcodec]
  constructor
  · rintro ⟨bundle, hbundle, found, hfound, actual, hactual, hmet⟩
    obtain ⟨document, hfrom⟩ := loadTopologyBundle_spec hbundle
    -- the digest is compared first: it makes the manifest that was read the one that was rendered
    obtain rfl := digest_of_topologyChecks hmet
    have hstored : ManifestWritten (compiledReader env base payloadModel) disk bundle.root
        result.manifest ∧ _ := manifestWritten_of_digest rfl hfaithful hfrom.root hactual
      (manifest_opened hfrom.root hfrom.manifest)
    obtain ⟨hwritten, hreaches⟩ := hstored
    have hloads : ((∃ bundle, loadTopologyBundle (compiledReader env base payloadModel) disk path =
      .ok bundle) ↔ _) ∧ _ := h.loads_iff hfaithful hreads hfrom.root hwritten
    obtain ⟨hfiles, hpacket, -⟩ := hloads.1.1 ⟨bundle, hbundle⟩
    obtain ⟨_, -, hloaded⟩ := hloads.2 bundle hbundle
    have htopology := hloaded.loadedTopology (compiledBase env base)
    obtain rfl := Option.some.inj (htopology.symm.trans hfound)
    exact ⟨((topologyChecks_met h.coherent).1 hmet).1, bundle.root,
      hfrom.root, hwritten, hreaches, hfiles, hpacket⟩
  · rintro ⟨hdescribed, root, hheld⟩
    have hloads : ((∃ bundle, loadTopologyBundle (compiledReader env base payloadModel) disk path =
      .ok bundle) ↔ _) ∧ _ := h.loads_iff hfaithful hreads hheld.resolves hheld.manifest
    obtain ⟨bundle, hbundle⟩ := hloads.1.2
      ⟨hheld.files, hheld.packet, Option.isSome_iff_exists.2 ⟨loadedState, hstate⟩⟩
    obtain ⟨_, -, hloaded⟩ := hloads.2 bundle hbundle
    have htopology := hloaded.loadedTopology (compiledBase env base)
    exact ⟨bundle, hbundle, _, htopology, _, hheld.manifestDigest,
      (topologyChecks_met h.coherent).2 ⟨hdescribed, rfl⟩⟩

end Checking

/-! ## From publishing to verifying -/

section Publishing

variable {base : BundleReader} {payloadModel : List (String × Json) → Option Json}
  {machine : StoreMachine} {disk : LinkedDisk} {bundlePath : Path} {outputUri : String}
  {published : PublishedPacket}

theorem publishFile_registry {manifestDigest : String}
    (h : publishFile base payloadModel machine disk bundlePath outputUri manifestDigest =
      .ok published) :
    published.bundleManifestDigest = manifestDigest ∧ published.registryManifestDigest = none := by
  simp only [publishFile, bind_eq_ok, pure_eq_ok] at h
  obtain ⟨_, -, _, -, _, -, _, -, place, -, rfl⟩ := h
  exact ⟨rfl, rfl⟩

theorem publishOci_registry {manifestDigest : String}
    (h : publishOci base payloadModel machine disk bundlePath outputUri manifestDigest =
      .ok published) :
    published.bundleManifestDigest = manifestDigest ∧
      ∃ digest, published.registryManifestDigest = some digest ∧ isDigest digest = true ∧
        published.uri = "oci://" ++ ociRepository outputUri ++ "@" ++ digest := by
  simp only [publishOci, bind_eq_ok, pure_eq_ok, expect_eq_ok] at h
  obtain ⟨_, -, target, -, ⟨completed, after⟩, -, output, -, digest, hdigest, rfl⟩ := h
  exact ⟨rfl, digest, rfl, extractDigest_isDigest hdigest, rfl⟩

/-- What a publication says: the digest of the manifest it found, and in a registry the digest the
URI is qualified with. -/
theorem publish_spec
    (h : publish base payloadModel machine disk bundlePath outputUri = .ok published) :
    bundleManifestDigest disk base.codec bundlePath = .ok published.bundleManifestDigest ∧
      (published.registryManifestDigest = none ∨
        ∃ digest, published.registryManifestDigest = some digest ∧ isDigest digest = true ∧
          published.uri = "oci://" ++ ociRepository outputUri ++ "@" ++ digest) := by
  simp only [publish, bind_eq_ok] at h
  obtain ⟨manifestDigest, hdigest, h⟩ := h
  split at h
  · obtain ⟨hbundle, hregistry⟩ := publishFile_registry h
    exact ⟨hbundle ▸ hdigest, Or.inl hregistry⟩
  · obtain ⟨_, -, h⟩ := bind_eq_ok.1 h
    obtain ⟨hbundle, hregistry⟩ := publishOci_registry h
    exact ⟨hbundle ▸ hdigest, Or.inr hregistry⟩

/-- The digest of a registry URI is the one it was published with. -/
theorem publish_digest
    (h : publish base payloadModel machine disk bundlePath outputUri = .ok published)
    {digest : String} :
    (digestQualified published.uri = true ∧
        published.registryManifestDigest = some (afterLast '@' published.uri) ∧
        afterLast '@' published.uri = digest) ↔
      published.registryManifestDigest = some digest ∧ '@' ∉ digest.toList := by
  obtain ⟨-, hnone | ⟨found, hfound, hdigest, huri⟩⟩ := publish_spec h
  · simp [hnone]
  · rw [hfound, huri, Option.some.injEq, Option.some.injEq]
    constructor
    · rintro ⟨-, hread, rfl⟩
      rw [← hread]
      exact ⟨rfl, (afterLast_published _ _).1 hread.symm⟩
    · rintro ⟨rfl, hplain⟩
      have hread := (afterLast_published (ociRepository outputUri) found).2 hplain
      exact ⟨digestQualified_of_isDigest _ hdigest, hread.symm, hread⟩

/-- A bundle that is loaded from the place the URI names is published there. -/
theorem publish_inPlace {manifestDigest : String} {place : Path} {bundle : PacketBundle}
    (hscheme : isFileScheme (machine.urlparse outputUri).scheme = true)
    (hdigest : bundleManifestDigest disk base.codec bundlePath = .ok manifestDigest)
    (hplace : fileUriToPath machine disk outputUri = .ok place)
    (hresolve : disk.resolve bundlePath = some place)
    (hload : loadTopologyBundle (topologyReader base payloadModel) disk place = .ok bundle) :
    publish base payloadModel machine disk bundlePath outputUri =
      .ok { uri := pathToFileUri place, bundleManifestDigest := manifestDigest } := by
  have hresolved : ∀ {path : Path}, disk.resolve path = some place →
      resolveStorePath disk path = .ok place := by
    intro path hpath
    rw [resolveStorePath, mapError_eq_ok, resolveBundlePath_eq_ok, hpath]
  rw [publish, bind_eq_ok]
  refine ⟨manifestDigest, hdigest, ?_⟩
  rw [if_pos hscheme]
  simp only [publishFile, bind_eq_ok, demand_eq_ok, pure_eq_ok, mapError_eq_ok]
  exact ⟨place, hplace, place, hresolved hresolve, (), rfl, bundle, hload, place,
    hresolved (LinkedDisk.resolve_resolve hresolve), rfl⟩

end Publishing

section Verifying

variable {base : BundleReader} {payloadModel : List (String × Json) → Option Json}
  {machine : StoreMachine} {disk : LinkedDisk} {uri : String} {expected : PacketRef}
  {manifestDigest : String} {registryDigest answer : Option String} {workspace : Path}

theorem verifyPublishedOci_eq_ok :
    verifyPublishedOci base payloadModel machine disk uri expected manifestDigest registryDigest
        workspace = .ok answer ↔
      ∃ digest, (digestQualified uri = true ∧ registryDigest = some (afterLast '@' uri) ∧
          afterLast '@' uri = digest) ∧ answer = some digest ∧
        ∃ fetched place pulled,
          fetchRegistryDescriptorDigest base machine disk uri = .ok (digest, fetched) ∧
          pullForVerification machine fetched uri workspace = .ok (place, pulled) ∧
          assertExpectedTopology base payloadModel pulled place expected manifestDigest =
            .ok () := by
  simp only [verifyPublishedOci, bind_eq_ok, demand_eq_ok, pure_eq_ok]
  constructor
  · rintro ⟨_, hqualified, _, hregistry, ⟨digest, fetched⟩, hfetch, _, rfl, ⟨place, pulled⟩, hpull,
      _, hassert, rfl⟩
    exact ⟨_, ⟨hqualified, hregistry, rfl⟩, rfl, fetched, place, pulled, hfetch, hpull, hassert⟩
  · rintro ⟨_, ⟨hqualified, hregistry, rfl⟩, rfl, fetched, place, pulled, hfetch, hpull, hassert⟩
    exact ⟨(), hqualified, (), hregistry, (_, fetched), hfetch, (), rfl, (place, pulled), hpull, (),
      hassert, rfl⟩

theorem verifyPublished_eq_ok :
    verifyPublished base payloadModel machine disk uri expected manifestDigest registryDigest
        workspace = .ok answer ↔
      (isFileScheme (machine.urlparse uri).scheme = true ∧ answer = none ∧
        ∃ place, fileUriToPath machine disk uri = .ok place ∧
          assertExpectedTopology base payloadModel disk place expected manifestDigest = .ok ()) ∨
      ((machine.urlparse uri).scheme = "oci" ∧
        verifyPublishedOci base payloadModel machine disk uri expected manifestDigest
          registryDigest workspace = .ok answer) := by
  unfold verifyPublished
  by_cases hfile : isFileScheme (machine.urlparse uri).scheme = true
  · have hscheme : (machine.urlparse uri).scheme ≠ "oci" := by
      intro heq
      rw [heq] at hfile
      exact absurd hfile (by decide)
    simp only [hfile, if_true, bind_eq_ok, pure_eq_ok, hscheme, false_and, or_false, true_and]
    constructor
    · rintro ⟨place, hplace, _, hassert, rfl⟩
      exact ⟨rfl, place, hplace, hassert⟩
    · rintro ⟨rfl, place, hplace, hassert⟩
      exact ⟨place, hplace, (), hassert, rfl⟩
  · simp only [hfile, if_false, bind_eq_ok, demand_eq_ok, Bool.false_eq_true, false_and, false_or]
    constructor
    · rintro ⟨_, hscheme, hoci⟩
      exact ⟨hscheme, hoci⟩
    · rintro ⟨hscheme, hoci⟩
      exact ⟨(), hscheme, hoci⟩

end Verifying

/-- The directory the URI names holds the bundle. -/
def FoundInPlace {env : CompileEnvironment} (reader : BundleReader) (machine : StoreMachine)
    (disk : LinkedDisk) (uri : String) (result : CompilationResult env.codec) : Prop :=
  isFileScheme (machine.urlparse uri).scheme = true ∧
    ∃ place root, fileUriToPath machine disk uri = .ok place ∧
      HoldsBundle reader disk place root result

/-- The registry describes the URI by the digest, and what it serves is the bundle. -/
def FoundInRegistry {env : CompileEnvironment} (reader : BundleReader) (machine : StoreMachine)
    (disk : LinkedDisk) (uri : String) (workspace : Path) (digest : String)
    (result : CompilationResult env.codec) : Prop :=
  (machine.urlparse uri).scheme = "oci" ∧ '@' ∉ digest.toList ∧
    ∃ fetched place pulled root,
      fetchRegistryDescriptorDigest reader machine disk uri = .ok (digest, fetched) ∧
      pullForVerification machine fetched uri workspace = .ok (place, pulled) ∧
      HoldsBundle reader pulled place root result

section Published

variable {createdAt : Option Timestamp} {result : CompilationResult env.codec}
  {base : BundleReader} {payloadModel : List (String × Json) → Option Json} {loadedState : Json}
  {machine later : StoreMachine} {disk laterDisk : LinkedDisk} {bundlePath root workspace : Path}
  {outputUri : String} {published : PublishedPacket} {expected : PacketRef}
  {answer : Option String}

/-- **A published packet is verified exactly where its bundle is found.** Between the publication and
the verification the registry, its program and the disk may do anything: the verification succeeds
exactly if the reference names the compiled packet and the directory, or the registry under the
digest it was published with, holds every file of the bundle byte for byte. -/
theorem published_verified_iff (hfaithful : env.codec.Faithful)
    (hcompile : compileTopology env configuration inputs corpora createdAt = .ok result)
    (hreads : ReadsBundle (compiledReader env base payloadModel) result.packet result.state
      result.receipt result.manifest)
    (hstate : payloadModel (canonicalPayloads result.state) = some loadedState)
    (hheld : HoldsBundle (compiledReader env base payloadModel) disk bundlePath root result)
    (hpublish : publish (compiledBase env base) payloadModel machine disk bundlePath outputUri =
      .ok published) :
    verifyPublished (compiledBase env base) payloadModel later laterDisk published.uri expected
        published.bundleManifestDigest published.registryManifestDigest workspace = .ok answer ↔
      DescribedBy result.packet expected ∧
        ((answer = none ∧ FoundInPlace (compiledReader env base payloadModel) later laterDisk
            published.uri result) ∨
          ∃ digest, published.registryManifestDigest = some digest ∧ answer = some digest ∧
            FoundInRegistry (compiledReader env base payloadModel) later laterDisk published.uri
              workspace digest result) := by
  have hdigest : published.bundleManifestDigest = result.manifestDigest :=
    Except.ok.inj ((publish_spec hpublish).1.symm.trans hheld.manifestDigest)
  have hassert : ∀ disk path, assertExpectedTopology (compiledBase env base) payloadModel disk path
      expected result.manifestDigest = .ok () ↔ DescribedBy result.packet expected ∧
        ∃ root, HoldsBundle (compiledReader env base payloadModel) disk path root result :=
    fun disk path => assertExpectedTopology_iff base payloadModel hfaithful hcompile hreads hstate
  rw [hdigest, verifyPublished_eq_ok]
  constructor
  · rintro (⟨hfile, rfl, place, hplace, hchecked⟩ | ⟨hscheme, hoci⟩)
    · obtain ⟨hdescribed, root, hfound⟩ := (hassert _ _).1 hchecked
      exact ⟨hdescribed, Or.inl ⟨rfl, hfile, place, root, hplace, hfound⟩⟩
    · obtain ⟨digest, hread, rfl, fetched, place, pulled, hfetch, hpull, hchecked⟩ :=
        verifyPublishedOci_eq_ok.1 hoci
      obtain ⟨hregistry, hplain⟩ := (publish_digest hpublish).1 hread
      obtain ⟨hdescribed, root, hfound⟩ := (hassert _ _).1 hchecked
      exact ⟨hdescribed, Or.inr ⟨digest, hregistry, rfl, hscheme, hplain, fetched, place, pulled,
        root, hfetch, hpull, hfound⟩⟩
  · rintro ⟨hdescribed, ⟨rfl, hfile, place, root, hplace, hfound⟩ | ⟨digest, hregistry, rfl, hscheme,
      hplain, fetched, place, pulled, root, hfetch, hpull, hfound⟩⟩
    · exact Or.inl ⟨hfile, rfl, place, hplace, (hassert _ _).2 ⟨hdescribed, root, hfound⟩⟩
    · have hread := (publish_digest hpublish).2 ⟨hregistry, hplain⟩
      exact Or.inr ⟨hscheme, verifyPublishedOci_eq_ok.2 ⟨digest, hread, rfl, fetched, place, pulled,
        hfetch, hpull, (hassert _ _).2 ⟨hdescribed, root, hfound⟩⟩⟩

end Published

/-! A bundle published to the directory it was committed to, and verified there. -/

/-- A machine without `oras`, for paths and file URIs without escapes. -/
def localMachine : StoreMachine where
  urlparse uri :=
    match "file://".toList.isPrefixOf? uri.toList with
    | some rest => ⟨"file", "", String.ofList rest⟩
    | none => ⟨"", "", uri⟩
  unquote := id
  workingDirectory := []
  executable := none
  run _ _ := .error (.other "FileNotFoundError" "oras")
  makeDirectory _ disk := .ok disk
  makeTemporary path disk := .ok (path, disk)

theorem pathToFileUri_bundle : pathToFileUri ["bundle"] = "file:///bundle" := by decide +kernel

/-- The paths and URIs of the directory lead to it. -/
theorem fileUriToPath_bundle {disk : LinkedDisk} (h : disk.resolve ["bundle"] = some ["bundle"]) :
    fileUriToPath localMachine disk "/bundle" = .ok ["bundle"] ∧
      fileUriToPath localMachine disk "file:///bundle" = .ok ["bundle"] := by
  have hpath : joinPath [] "/bundle" = ["bundle"] := by decide
  have hplain : localMachine.urlparse "/bundle" = ⟨"", "", "/bundle"⟩ := by decide
  have hfile : localMachine.urlparse "file:///bundle" = ⟨"file", "", "/bundle"⟩ := by decide
  have hresolved : resolveStorePath disk (joinPath [] "/bundle") = .ok ["bundle"] := by
    rw [hpath, resolveStorePath, mapError_eq_ok, resolveBundlePath_eq_ok]
    exact h
  refine ⟨?_, ?_⟩
  · simp only [fileUriToPath, hplain, bind_eq_ok, demand_eq_ok]
    exact ⟨(), rfl, hresolved⟩
  · simp only [fileUriToPath, hfile, bind_eq_ok, demand_eq_ok]
    exact ⟨(), rfl, hresolved⟩

/-- The reference of a stage to the packet it compiled. -/
def compiledRef {c : Codec} (result : CompilationResult c) (uri : String) : PacketRef where
  packetId := result.packet.packetId
  packetType := "l9.topology"
  packetVersion := result.packet.packetVersion
  uri := uri
  semanticHash := result.packet.semanticHash
  artifactHash := some result.packet.artifactHash
  validationStatus := .passed

theorem published_verified_notes :
    ∃ (result : CompilationResult markedEnvironment.codec) (disk : LinkedDisk)
      (published : PublishedPacket),
      compileTopology markedEnvironment plainConfiguration [planInput markCodec]
          [proposedNotes markCodec] none = .ok result ∧
        publish (compiledBase markedEnvironment markedReader) keptPayload localMachine disk
          ["bundle"] "/bundle" = .ok published ∧
        verifyPublished (compiledBase markedEnvironment markedReader) keptPayload
          localMachine disk published.uri (compiledRef result published.uri)
          published.bundleManifestDigest published.registryManifestDigest [] = .ok none := by
  obtain ⟨result, hcompile⟩ : ∃ result : CompilationResult markedEnvironment.codec,
    compileTopology markedEnvironment plainConfiguration [planInput markCodec]
      [proposedNotes markCodec] none = .ok result :=
    notes_compiled markCodec _ _ plainEnvironment.policies markCodec_faithful none
  have hroot : ∀ segment ∈ ["bundle"], LinkedDisk.Named segment := by
    intro segment hsegment
    rw [List.mem_singleton.1 hsegment]
    exact ⟨by decide, by decide, by decide, by decide⟩
  have hresolve : (bundleTree result ["bundle"]).disk.resolve ["bundle"] = some ["bundle"] :=
    (FileTree.plain_disk hroot).resolve
  have hreads := markedReader_readsBundle result keptPayload
  have hstored : ManifestWritten (compiledReader markedEnvironment markedReader keptPayload)
      (bundleTree result ["bundle"]).disk ["bundle"] result.manifest ∧ _ :=
    written_stored hcompile hroot (bundleTree_hierarchical hcompile) (bundleTree_written hcompile)
  obtain ⟨hmanifest, hfiles, hpacket⟩ := hstored
  have hheld : HoldsBundle (compiledReader markedEnvironment markedReader keptPayload)
      (bundleTree result ["bundle"]).disk ["bundle"] ["bundle"] result := by
    refine ⟨hresolve, hmanifest, ?_, hfiles, hpacket⟩
    obtain ⟨location, hopen⟩ := hmanifest
    rw [hopen, Option.isSome_some]
  obtain ⟨hplace, hplace'⟩ := fileUriToPath_bundle hresolve
  obtain ⟨bundle, hbundle, -⟩ := loads_of_written markCodec_faithful hcompile hreads rfl hroot
    (bundleTree_hierarchical hcompile) (bundleTree_written hcompile)
  have hpublish : publish (compiledBase markedEnvironment markedReader) keptPayload
      localMachine (bundleTree result ["bundle"]).disk ["bundle"] "/bundle" =
        .ok { uri := pathToFileUri ["bundle"], bundleManifestDigest := result.manifestDigest } :=
    publish_inPlace (by decide) hheld.manifestDigest hplace hresolve hbundle
  refine ⟨result, _, _, hcompile, hpublish, ?_⟩
  refine (published_verified_iff markCodec_faithful hcompile hreads rfl hheld hpublish).2
    ⟨⟨rfl, rfl, rfl, rfl, Or.inr rfl, rfl⟩, Or.inl ⟨rfl, ?_, ["bundle"], ["bundle"], ?_, hheld⟩⟩
  · show isFileScheme (localMachine.urlparse (pathToFileUri ["bundle"])).scheme = true
    rw [pathToFileUri_bundle]
    decide
  · show fileUriToPath localMachine _ (pathToFileUri ["bundle"]) = .ok ["bundle"]
    rw [pathToFileUri_bundle]
    exact hplace'

end ConstellationTopology
