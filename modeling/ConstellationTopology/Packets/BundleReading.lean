import ConstellationTopology.Packets.BundleVerification
import ConstellationTopology.Packets.PacketRoundTrip
import ConstellationTopology.Packets.PayloadAgreement

set_option autoImplicit false

/-! # Loading what was rendered

The files of a rendered topology bundle are read back by `load_topology_bundle`. The loader follows
the references of the packet, which lead to the very files the manifest lists, so a directory is
loaded exactly if none of them was touched (`loadTopologyBundle_iff`). -/

namespace ConstellationTopology

variable {reader : BundleReader} {disk : LinkedDisk} {root : Path}

/-! ## A file of the bundle -/

/-- A stored file is found by its reference and opened where it lies. -/
theorem StoredAt.exists_candidate {path : String} {content : ByteArray}
    (h : StoredAt disk root path content) :
    ∃ candidate location, resolveMember disk root path = .ok candidate ∧
      disk.openFile candidate = some ⟨location, content⟩ := by
  obtain ⟨member, hread, rfl⟩ := h
  simp only [readMember, bind_eq_ok, expect_eq_ok, pure_eq_ok] at hread
  obtain ⟨candidate, hresolve, file, hopen, rfl⟩ := hread
  exact ⟨candidate, file.location, hresolve, hopen⟩

/-- Opened as it stands, the reference leads to the same file. -/
theorem StoredAt.content_eq {path : String} {content : ByteArray} {file : OpenedFile}
    (h : StoredAt disk root path content) (hopen : disk.openFile (joinPath root path) = some file) :
    file.content = content := by
  obtain ⟨member, hread, rfl⟩ := h
  obtain ⟨href, hresolved⟩ := readMember_spec hread
  have hmember : disk.Reads (joinPath root path) member.file := href ▸ hresolved.readFrom
  have hfile := LinkedDisk.reads_of_openFile hopen
  have hsame : file.location = member.file.location :=
    Option.some.inj (hfile.resolves.symm.trans hmember.resolves)
  rw [hfile.eq hmember hsame]

/-- Two lists of pairs under the same keys, the second read off the first. -/
theorem lookup_map_of_mem {α β : Type} {entries : List (String × α)} {entry : String × α}
    (f : String × α → β) (hkeys : (entries.map Prod.fst).Nodup) (hentry : entry ∈ entries) :
    (entries.map fun e => (e.1, f e)).lookup entry.1 = some (f entry) := by
  induction entries with
  | nil => cases hentry
  | cons head rest ih =>
      rw [List.map_cons, List.nodup_cons] at hkeys
      rcases List.mem_cons.1 hentry with rfl | hrest
      · rw [List.map_cons, List.lookup_cons_self]
      · have hne : entry.1 ≠ head.1 := by
          intro heq
          exact hkeys.1 (heq ▸ List.mem_map_of_mem hrest)
        rw [List.map_cons, List.lookup_cons, beq_false_of_ne hne]
        exact ih hkeys.2 hrest

/-- The parts of a payload that is read domain by domain. -/
theorem exists_parts {load : String → Except BundleError PayloadPart}
    {domains : List (String × Json)}
    (h : ∀ domain ∈ domains, ∃ member, load domain.1 =
      .ok { member, key := domain.1, value := domain.2.canonicalData }) :
    ∃ parts, (domains.map Prod.fst).mapM load = .ok parts ∧
      parts.map (fun part => (part.key, part.value)) =
        domains.map fun domain => (domain.1, domain.2.canonicalData) := by
  induction domains with
  | nil => exact ⟨[], rfl, rfl⟩
  | cons domain rest ih =>
      obtain ⟨member, hmember⟩ := h domain List.mem_cons_self
      obtain ⟨parts, hparts, hvalues⟩ := ih fun other hother => h other (List.mem_cons_of_mem _ hother)
      refine ⟨{ member, key := domain.1, value := domain.2.canonicalData } :: parts, ?_, ?_⟩
      · rw [mapM_eq_ok] at hparts ⊢
        exact .cons hmember hparts
      · rw [List.map_cons, List.map_cons, hvalues]

/-! ## The payload -/

theorem toUTF8_documentText (c : Codec) (value : Json) :
    (documentText c value).toUTF8 = c.canonicalBytes value ++ "\n".toUTF8 :=
  String.toByteArray_append

theorem map_fst_topologyPayloads_keys (state : TopologyState) :
    (topologyPayloads state).map Prod.fst = topologyPayloadKeys := rfl

theorem topologyPayloadKeys_nodup : topologyPayloadKeys.Nodup := by decide

/-- The references of a packet lead to the files of its domains. -/
theorem lookup_topologyPayloadRefs {state : TopologyState} {domain : String × Json}
    (h : domain ∈ topologyPayloads state) :
    topologyPayloadRefs.lookup domain.1 = some (topologyPayloadPath domain.1) := by
  have hkey : domain.1 ∈ (topologyPayloads {}).map Prod.fst := by
    rw [map_fst_topologyPayloads_keys, ← map_fst_topologyPayloads_keys state]
    exact List.mem_map_of_mem h
  obtain ⟨entry, hentry, heq⟩ := List.mem_map.1 hkey
  rw [← heq]
  exact lookup_map_of_mem (fun e => topologyPayloadPath e.1) topologyPayloadKeys_nodup hentry

/-- The hashes of a packet are those of the files of its domains. -/
theorem lookup_topologyPayloadHashes (c : Codec) {state : TopologyState} {domain : String × Json}
    (h : domain ∈ topologyPayloads state) :
    (topologyPayloadHashes c state).lookup domain.1 =
      some (c.artifactHash (documentText c domain.2).toUTF8) := by
  have hmap : topologyPayloadHashes c state =
      (topologyPayloads state).map fun e => (e.1, c.artifactHash (documentText c e.2).toUTF8) := by
    simp only [topologyPayloadHashes, topologyPayloadBytes, List.map_map, Function.comp_def,
      toUTF8_documentText]
  rw [hmap]
  exact lookup_map_of_mem (fun e => c.artifactHash (documentText c e.2).toUTF8)
    topologyPayloadKeys_nodup h

/-- A domain is loaded from its file. -/
theorem loadRecords_stored {packet : PacketDocument} {key reference : String} {value : Json}
    (hread : ReadsDocument reader value) (href : packet.payloadRefs.lookup key = some reference)
    (hhash : packet.payloadHashes.lookup key =
      some (reader.codec.artifactHash (documentText reader.codec value).toUTF8))
    (hstored : StoredAt disk root reference (documentText reader.codec value).toUTF8) :
    ∃ member, loadRecords reader disk root packet key =
      .ok { member, key, value := value.canonicalData } := by
  obtain ⟨member, hmember, hcontent⟩ := hstored
  refine ⟨some member, ?_⟩
  unfold loadRecords
  simp only [href, bind_eq_ok, expect_eq_ok, demand_eq_ok, mapError_eq_ok, pure_eq_ok]
  exact ⟨member, hmember, _, hhash, (), by rw [hcontent], _, by rw [hcontent, hread.decodes], _,
    hread.loads, rfl⟩

/-! ## The bundle -/

section Bundle

variable {packet : TopologyPacket} {state : TopologyState} {receipt : ValidationReceipt}
  {createdAt : Timestamp} {documents : List BundleDocument}
  {contents artifacts : List (RenderedArtifact reader.codec)}
  {manifestFile : RenderedArtifact reader.codec}

/-- What the three parts of a bundle say of each other. -/
structure Coherent (c : Codec) (packet : TopologyPacket) (state : TopologyState)
    (receipt : ValidationReceipt) : Prop where
  semanticHash : packet.semanticHash = calculateTopologySemanticHash c packet
  payloadRefs : packet.payloadRefs = topologyPayloadRefs
  payloadHashes : packet.payloadHashes = topologyPayloadHashes c state
  receiptRef : packet.validation.receiptRef = some "receipts/validation-receipt.json"
  verified : validateValidationReceipt c receipt = .ok ()
  passed : receipt.status = .passed
  subjectPacketId : receipt.subjectPacketId = packet.packetId
  subjectSemanticHash : receipt.subjectSemanticHash = packet.semanticHash

/-- The JSON library reads every document of the bundle as what it was printed from. -/
structure ReadsBundle (reader : BundleReader) (packet : TopologyPacket) (state : TopologyState)
    (receipt : ValidationReceipt) (manifest : PacketBundleManifest) : Prop where
  manifest : ReadsDocument reader manifest.toJson
  packet : ReadsDocument reader packet.toJson
  receipt : ReadsDocument reader receipt.toJson
  payload : ∀ domain ∈ topologyPayloads state, ReadsDocument reader domain.2

/-- The domains of a state as they are read: with sorted keys. -/
def canonicalPayloads (state : TopologyState) : List (String × Json) :=
  (topologyPayloads state).map fun domain => (domain.1, domain.2.canonicalData)

/-- The bundle is what was rendered: the packet, the receipt and the state the data model makes of
the payload. -/
structure LoadedAs (packet : TopologyPacket) (receipt : ValidationReceipt) (state : Json)
    (manifest : PacketBundleManifest) (root : Path) (bundle : PacketBundle) : Prop where
  root_eq : bundle.root = root
  manifest_eq : bundle.manifest = manifest
  packet_eq : bundle.packet =
    { packet.canonical.loaded packet.toJson.canonicalData with payload := some state }
  receipt_eq : bundle.receipt = some receipt.canonical

theorem stored_of_untouched {document : BundleDocument}
    (h : List.Forall₂ Renders documents contents)
    (huntouched : ∀ artifact ∈ contents, Untouched disk root artifact)
    (hmem : document ∈ documents) :
    StoredAt disk root document.path (documentText reader.codec document.value).toUTF8 := by
  obtain ⟨artifact, hartifact, hrenders⟩ := exists_related_of_mem h hmem
  have hstored := huntouched artifact hartifact
  rwa [Untouched, hrenders.destinationPath, hrenders.content] at hstored

/-- The files of the payload, of the packet and of the receipt. -/
theorem RendersBundle.stored
    (h : RendersBundle packet state receipt createdAt documents contents manifestFile artifacts)
    (huntouched : ∀ artifact ∈ contents, Untouched disk root artifact) :
    (∀ domain ∈ topologyPayloads state, StoredAt disk root (topologyPayloadPath domain.1)
      (documentText reader.codec domain.2).toUTF8) ∧
    StoredAt disk root "packet.json" (documentText reader.codec packet.toJson).toUTF8 ∧
    StoredAt disk root "receipts/validation-receipt.json"
      (documentText reader.codec receipt.toJson).toUTF8 := by
  obtain ⟨payloads, hpayloads, rfl⟩ := map_eq_ok.1 h.documents_eq
  have hcore : ∀ document ∈ coreDocuments packet receipt, StoredAt disk root document.path
      (documentText reader.codec document.value).toUTF8 := fun document hdocument =>
    stored_of_untouched h.contents_render huntouched (List.mem_append_right _ hdocument)
  obtain ⟨hpacket, hrest⟩ := List.forall_mem_cons.1 hcore
  obtain ⟨hreceipt, -⟩ := List.forall_mem_cons.1 hrest
  refine ⟨?_, hpacket, hreceipt⟩
  intro domain hdomain
  rw [mapM_eq_ok] at hpayloads
  obtain ⟨document, hdocument, hpayload⟩ :=
    exists_related_of_mem hpayloads (mem_sortedBy.2 hdomain)
  have hstored := stored_of_untouched h.contents_render huntouched
    (List.mem_append_left _ hdocument)
  simp only [payloadDocument, bind_eq_ok, pure_eq_ok] at hpayload
  obtain ⟨digest, -, rfl⟩ := hpayload
  exact hstored

/-! ## Loading -/

theorem readPacketDocument_of_read {model : PacketModel} {file : OpenedFile} {value : Json}
    {found : PacketDocument}
    (hread : readJson reader disk (joinPath root "packet.json") = .ok (file, value))
    (hfound : model.modelValidate value = some found) :
    readPacketDocument reader disk model root =
      .ok ({ reference := "packet.json", file }, found) := by
  simp only [readPacketDocument, hread, hfound, expect, bind, pure, Except.bind, Except.pure]

/-- `packet.json` is read as the packet that was rendered. -/
theorem readPacketDocument_stored (payloadModel : List (String × Json) → Option Json)
    (hread : ReadsDocument reader packet.toJson)
    (hstored : StoredAt disk root "packet.json" (documentText reader.codec packet.toJson).toUTF8)
    (hopen : (disk.openFile (joinPath root "packet.json")).isSome = true) :
    ∃ member, readPacketDocument reader disk
      (topologyPacketModel reader.pydantic reader.now payloadModel) root =
        .ok (member, packet.canonical.loaded packet.toJson.canonicalData) := by
  obtain ⟨file, hfile⟩ := Option.isSome_iff_exists.1 hopen
  have hfile : disk.openFile (joinPath root "packet.json") =
      some ⟨file.location, (documentText reader.codec packet.toJson).toUTF8⟩ := by
    rw [hfile, ← hstored.content_eq hfile]
  have hfound : (topologyPacketModel reader.pydantic reader.now payloadModel).modelValidate
      packet.toJson.canonicalData =
        some (packet.canonical.loaded packet.toJson.canonicalData) := by
    simp only [topologyPacketModel, TopologyPacket.ofJson_toJson, Option.map_some]
  exact ⟨_, readPacketDocument_of_read (readJson_document hread hfile) hfound⟩

/-- The semantic hash is calculated again from the packet as it was read. -/
theorem semanticView_loaded (c : Codec) (pydantic : Pydantic) (now : Timestamp)
    (payloadModel : List (String × Json) → Option Json) (packet : TopologyPacket) :
    c.semanticHash ((topologyPacketModel pydantic now payloadModel).semanticView
      (packet.canonical.loaded packet.toJson.canonicalData)) =
        calculateTopologySemanticHash c packet := by
  have hview : (topologyPacketModel pydantic now payloadModel).semanticView
      (packet.canonical.loaded packet.toJson.canonicalData) =
        topologyPacketSemanticView packet.canonical := by
    simp only [topologyPacketModel, TopologyPacket.loaded, TopologyPacket.ofJson_toJson]
  rw [hview]
  exact calculateTopologySemanticHash_canonical c packet

/-- The payload is read as the domains of the state. -/
theorem exists_payloadParts (hcoherent : Coherent reader.codec packet state receipt)
    (hreads : ∀ domain ∈ topologyPayloads state, ReadsDocument reader domain.2)
    (hstored : ∀ domain ∈ topologyPayloads state, StoredAt disk root
      (topologyPayloadPath domain.1) (documentText reader.codec domain.2).toUTF8) :
    ∃ parts, topologyPayloadKeys.mapM (loadRecords reader disk root
        (packet.canonical.loaded packet.toJson.canonicalData)) = .ok parts ∧
      parts.map (fun part => (part.key, part.value)) = canonicalPayloads state := by
  rw [← map_fst_topologyPayloads_keys state, canonicalPayloads]
  refine exists_parts fun domain hdomain => ?_
  refine loadRecords_stored (hreads domain hdomain) ?_ ?_ (hstored domain hdomain)
  · show (sortedTexts packet.payloadRefs).lookup domain.1 = _
    rw [lookup_sortedTexts, hcoherent.payloadRefs, lookup_topologyPayloadRefs hdomain]
  · show (sortedTexts packet.payloadHashes).lookup domain.1 = _
    rw [lookup_sortedTexts, hcoherent.payloadHashes, lookup_topologyPayloadHashes _ hdomain]

/-- The receipt is read as the one that was rendered, and it is about the packet. -/
theorem readReceipt_stored (hcoherent : Coherent reader.codec packet state receipt)
    (hread : ReadsDocument reader receipt.toJson)
    (hstored : StoredAt disk root "receipts/validation-receipt.json"
      (documentText reader.codec receipt.toJson).toUTF8) (statusMessage role : String) :
    ∃ member, readReceipt reader disk root
      (packet.canonical.loaded packet.toJson.canonicalData) "receipts/validation-receipt.json"
      statusMessage role = .ok (member, receipt.canonical) := by
  obtain ⟨candidate, location, hresolve, hopen⟩ := hstored.exists_candidate
  have hvalid : validateValidationReceipt reader.codec receipt.canonical = .ok () := by
    rw [validateValidationReceipt_canonical, hcoherent.verified]
  exact ⟨_, readReceipt_of_read hresolve (readJson_document hread hopen)
    (receipt.ofJson_toJson reader.pydantic reader.now) hvalid hcoherent.passed
    hcoherent.subjectPacketId hcoherent.subjectSemanticHash⟩

/-- A bundle is loaded when each of its parts is. -/
theorem loadTopologyBundle_of_read {path : Path} {manifest : PacketBundleManifest}
    {packetMember receiptMember : BundleMember} {found : PacketDocument} {parts : List PayloadPart}
    {loadedState : Json} {reference : String} {readReceipt : ValidationReceipt}
    (hroot : disk.resolve path = some root)
    (hmanifest : verifyBundleManifest reader disk root = .ok manifest)
    (hdocument : readPacketDocument reader disk reader.topology root = .ok (packetMember, found))
    (hmatch : matchManifest manifest found = .ok ())
    (hview : reader.codec.semanticHash (reader.topology.semanticView found) = found.semanticHash)
    (hparts : topologyPayloadKeys.mapM (loadRecords reader disk root found) = .ok parts)
    (hstate : reader.topology.payloadModel (parts.map fun part => (part.key, part.value)) =
      some loadedState)
    (href : found.validation.receiptRef = some reference)
    (hreceipt : ConstellationTopology.readReceipt reader disk root found reference
      "topology validation status" "topology receipt" = .ok (receiptMember, readReceipt)) :
    loadTopologyBundle reader disk path = .ok
      { root, manifest, packet := { found with payload := some loadedState },
        receipt := some readReceipt, packetMember,
        payloadMembers := parts.filterMap PayloadPart.member,
        receiptMember := some receiptMember } := by
  simp only [loadTopologyBundle, resolveBundlePath, hroot, hmanifest, hdocument, hmatch, hview,
    hparts, hstate, href, hreceipt, expect, demand, if_true, bind, pure, Except.bind, Except.pure]

/-- Untouched files are loaded as what they were rendered from. -/
theorem loadTopologyBundle_stored (reader : BundleReader)
    {contents artifacts : List (RenderedArtifact reader.codec)}
    {manifestFile : RenderedArtifact reader.codec} {path : Path}
    {payloadModel : List (String × Json) → Option Json} {loadedState : Json}
    (h : RendersBundle packet state receipt createdAt documents contents manifestFile artifacts)
    (hc : reader.codec.Faithful)
    (hmodel : reader.topology = topologyPacketModel reader.pydantic reader.now payloadModel)
    (hcoherent : Coherent reader.codec packet state receipt)
    (hreads : ReadsBundle reader packet state receipt
      (topologyManifest reader.codec packet createdAt contents))
    (hstate : payloadModel (canonicalPayloads state) = some loadedState)
    (hroot : disk.resolve path = some root)
    (hwritten : ManifestWritten reader disk root
      (topologyManifest reader.codec packet createdAt contents))
    (huntouched : ∀ artifact ∈ contents, Untouched disk root artifact)
    (hopen : (disk.openFile (joinPath root "packet.json")).isSome = true) :
    ∃ bundle, loadTopologyBundle reader disk path = .ok bundle ∧
      LoadedAs packet receipt loadedState (topologyManifest reader.codec packet createdAt contents)
        root bundle := by
  obtain ⟨hpayload, hpacket, hreceipt⟩ := h.stored huntouched
  have hmanifest : verifyBundleManifest reader disk root =
      .ok (topologyManifest reader.codec packet createdAt contents) :=
    (verifyBundleManifest_iff hc (LinkedDisk.resolve_resolve hroot)
      (manifestOf_manifestOf _ _ _ _ _ _ _) hreads.manifest hwritten).2 ⟨rfl, huntouched⟩
  obtain ⟨packetMember, hdocument⟩ := readPacketDocument_stored payloadModel hreads.packet hpacket
    hopen
  obtain ⟨parts, hparts, hvalues⟩ := exists_payloadParts hcoherent hreads.payload hpayload
  obtain ⟨receiptMember, hread⟩ := readReceipt_stored hcoherent hreads.receipt hreceipt
    "topology validation status" "topology receipt"
  have hmatch : matchManifest (topologyManifest reader.codec packet createdAt contents)
      (packet.canonical.loaded packet.toJson.canonicalData) = .ok () := by
    simp only [matchManifest, bind_eq_ok, demand_eq_ok]
    exact ⟨(), rfl, rfl⟩
  have hview : reader.codec.semanticHash (reader.topology.semanticView
      (packet.canonical.loaded packet.toJson.canonicalData)) = packet.semanticHash := by
    rw [hmodel, semanticView_loaded, hcoherent.semanticHash]
  rw [← hmodel] at hdocument
  have hfound : reader.topology.payloadModel (parts.map fun part => (part.key, part.value)) =
      some loadedState := by
    rw [hmodel, hvalues]
    exact hstate
  exact ⟨_, loadTopologyBundle_of_read hroot hmanifest hdocument hmatch hview hparts hfound
    hcoherent.receiptRef hread, rfl, rfl, rfl, rfl⟩

/-- The payload of a bundle that was loaded satisfied the data model of the state. -/
theorem payloadModel_of_loads (reader : BundleReader)
    {contents artifacts : List (RenderedArtifact reader.codec)}
    {manifestFile : RenderedArtifact reader.codec} {path : Path}
    {payloadModel : List (String × Json) → Option Json} {bundle : PacketBundle}
    (h : RendersBundle packet state receipt createdAt documents contents manifestFile artifacts)
    (hmodel : reader.topology = topologyPacketModel reader.pydantic reader.now payloadModel)
    (hcoherent : Coherent reader.codec packet state receipt)
    (hreads : ReadsBundle reader packet state receipt
      (topologyManifest reader.codec packet createdAt contents))
    (hroot : disk.resolve path = some root)
    (huntouched : ∀ artifact ∈ contents, Untouched disk root artifact)
    (hopen : (disk.openFile (joinPath root "packet.json")).isSome = true)
    (hbundle : loadTopologyBundle reader disk path = .ok bundle) :
    ∃ loadedState, payloadModel (canonicalPayloads state) = some loadedState := by
  obtain ⟨hpayload, hpacket, -⟩ := h.stored huntouched
  obtain ⟨packetMember, hdocument⟩ := readPacketDocument_stored payloadModel hreads.packet hpacket
    hopen
  obtain ⟨parts, hparts, hvalues⟩ := exists_payloadParts hcoherent hreads.payload hpayload
  simp only [loadTopologyBundle, bind_eq_ok, expect_eq_ok, resolveBundlePath_eq_ok] at hbundle
  obtain ⟨found, hfound, _, -, ⟨member, read⟩, hread, _, -, _, -, parts', hparts', loadedState,
    hloaded, -⟩ := hbundle
  obtain rfl : root = found := Option.some.inj (hroot.symm.trans hfound)
  rw [hmodel, hdocument] at hread
  obtain ⟨-, rfl⟩ := Prod.mk.inj (Except.ok.inj hread)
  obtain rfl := Except.ok.inj (hparts.symm.trans hparts')
  rw [hmodel, hvalues] at hloaded
  exact ⟨loadedState, hloaded⟩

/-- **A rendered bundle is loaded exactly if it was left alone** and the data model of the state
accepts its payload: one byte that differs in any file the manifest lists, and nothing is loaded.
What is loaded is what was rendered. -/
theorem loadTopologyBundle_iff (reader : BundleReader)
    {contents artifacts : List (RenderedArtifact reader.codec)}
    {manifestFile : RenderedArtifact reader.codec} {path : Path}
    {payloadModel : List (String × Json) → Option Json}
    (h : RendersBundle packet state receipt createdAt documents contents manifestFile artifacts)
    (hc : reader.codec.Faithful)
    (hmodel : reader.topology = topologyPacketModel reader.pydantic reader.now payloadModel)
    (hcoherent : Coherent reader.codec packet state receipt)
    (hreads : ReadsBundle reader packet state receipt
      (topologyManifest reader.codec packet createdAt contents))
    (hroot : disk.resolve path = some root)
    (hwritten : ManifestWritten reader disk root
      (topologyManifest reader.codec packet createdAt contents)) :
    ((∃ bundle, loadTopologyBundle reader disk path = .ok bundle) ↔
      (∀ artifact ∈ contents, Untouched disk root artifact) ∧
        (disk.openFile (joinPath root "packet.json")).isSome = true ∧
        (payloadModel (canonicalPayloads state)).isSome = true) ∧
    ∀ bundle, loadTopologyBundle reader disk path = .ok bundle →
      ∃ loadedState, payloadModel (canonicalPayloads state) = some loadedState ∧
        LoadedAs packet receipt loadedState
          (topologyManifest reader.codec packet createdAt contents) root bundle := by
  have hloaded : ∀ bundle, loadTopologyBundle reader disk path = .ok bundle →
      (∀ artifact ∈ contents, Untouched disk root artifact) ∧
        (disk.openFile (joinPath root "packet.json")).isSome = true := by
    intro bundle hbundle
    obtain ⟨document, hfrom⟩ := loadTopologyBundle_spec hbundle
    obtain rfl : bundle.root = root := Option.some.inj (hfrom.root.symm.trans hroot)
    refine ⟨?_, ?_⟩
    · exact ((verifyBundleManifest_iff hc (LinkedDisk.resolve_resolve hroot)
        (manifestOf_manifestOf _ _ _ _ _ _ _) hreads.manifest hwritten).1 hfrom.manifest).2
    · have hdocument := hfrom.document
      simp only [readPacketDocument, bind_eq_ok] at hdocument
      obtain ⟨⟨file, value⟩, hread, -⟩ := hdocument
      rw [openFile_of_readJson hread, Option.isSome_some]
  refine ⟨⟨?_, ?_⟩, ?_⟩
  · rintro ⟨bundle, hbundle⟩
    obtain ⟨huntouched, hopen⟩ := hloaded bundle hbundle
    obtain ⟨loadedState, hstate⟩ := payloadModel_of_loads reader h hmodel hcoherent hreads hroot
      huntouched hopen hbundle
    exact ⟨huntouched, hopen, Option.isSome_iff_exists.2 ⟨loadedState, hstate⟩⟩
  · rintro ⟨huntouched, hopen, haccepts⟩
    obtain ⟨loadedState, hstate⟩ := Option.isSome_iff_exists.1 haccepts
    obtain ⟨bundle, hbundle, -⟩ := loadTopologyBundle_stored reader h hc hmodel hcoherent hreads hstate
      hroot hwritten huntouched hopen
    exact ⟨bundle, hbundle⟩
  · intro bundle hbundle
    obtain ⟨huntouched, hopen⟩ := hloaded bundle hbundle
    obtain ⟨loadedState, hstate⟩ := payloadModel_of_loads reader h hmodel hcoherent hreads hroot
      huntouched hopen hbundle
    obtain ⟨bundle', hbundle', hstored⟩ := loadTopologyBundle_stored reader h hc hmodel hcoherent hreads
      hstate hroot hwritten huntouched hopen
    rw [← Except.ok.inj (hbundle.symm.trans hbundle')] at hstored
    exact ⟨loadedState, hstate, hstored⟩

end Bundle

end ConstellationTopology
