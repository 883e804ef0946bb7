import ConstellationTopology.Packets.BundleLoader
import ConstellationTopology.Packets.PayloadFraming

set_option autoImplicit false

/-! # What a loaded bundle was read from

The manifest is verified along its own list, the members are read along the references of the
packet, and the two meet nowhere. So a file that contributes to a bundle is bound by the manifest
exactly when the list happens to lead to it (`manifest_binding_iff`). The payload of a corpus bundle
is opened by its references as they stand, so it lies in the bundle exactly when they lead there
(`corpus_containment_iff`). -/

namespace ConstellationTopology

variable {reader : BundleReader} {disk : LinkedDisk} {root : Path}

/-! ## When a step succeeds -/

theorem resolveBundlePath_eq_ok {path place : Path} :
    resolveBundlePath disk path = .ok place ↔ disk.resolve path = some place := expect_eq_ok

theorem openFile_of_readJson {path : Path} {file : OpenedFile} {value : Json}
    (h : readJson reader disk path = .ok (file, value)) : disk.openFile path = some file := by
  simp only [readJson, bind_eq_ok, expect_eq_ok, pure_eq_ok, Prod.mk.injEq] at h
  obtain ⟨opened, hopen, _, _, _, _, hfile, _⟩ := h
  exact hfile ▸ hopen

theorem resolveMember_eq_ok {reference : String} {candidate : Path} :
    resolveMember disk root reference = .ok candidate ↔
      remoteReference reference = false ∧ disk.resolve (joinPath root reference) = some candidate ∧
        (∃ base, disk.resolve root = some base ∧ base <+: candidate) ∧
        (disk.openFile candidate).isSome = true := by
  simp only [resolveMember, bind_eq_ok, demand_eq_ok, resolveBundlePath_eq_ok, pure_eq_ok]
  constructor
  · rintro ⟨_, hlocal, place, hplace, base, hbase, _, hinside, _, hopen, heq⟩
    subst heq
    exact ⟨hlocal, hplace, ⟨base, hbase, hinside⟩, hopen⟩
  · rintro ⟨hlocal, hplace, ⟨base, hbase, hinside⟩, hopen⟩
    exact ⟨(), hlocal, candidate, hplace, base, hbase, (), hinside, (), hopen, rfl⟩

/-- A local reference that leads out of the bundle is refused. -/
theorem resolveMember_escapes {reference : String} {candidate base : Path}
    (hlocal : remoteReference reference = false)
    (hplace : disk.resolve (joinPath root reference) = some candidate)
    (hbase : disk.resolve root = some base) (houtside : ¬ base <+: candidate) :
    resolveMember disk root reference =
      .error (.packetLoad ("packet reference escapes bundle root: " ++ reference)) := by
  simp only [resolveMember, resolveBundlePath, hlocal, hplace, hbase, houtside, expect, demand,
    if_true, if_false, bind, Except.bind]

/-- The reference of a member leads to its file. -/
def BundleMember.ReadFrom (disk : LinkedDisk) (root : Path) (member : BundleMember) : Prop :=
  disk.Reads (joinPath root member.reference) member.file

/-- The member was resolved before it was opened, and it lies in the bundle. -/
structure BundleMember.Resolved (disk : LinkedDisk) (root : Path) (member : BundleMember) :
    Prop where
  readFrom : member.ReadFrom disk root
  inside : ∃ base, disk.resolve root = some base ∧ base <+: member.file.location

theorem resolved_of_resolveMember {reference : String} {candidate : Path} {file : OpenedFile}
    (hresolve : resolveMember disk root reference = .ok candidate)
    (hopen : disk.openFile candidate = some file) :
    BundleMember.Resolved disk root { reference, file } := by
  obtain ⟨_, hplace, hinside, _⟩ := resolveMember_eq_ok.1 hresolve
  obtain ⟨hreads, hlocation⟩ := LinkedDisk.reads_of_resolve hplace hopen
  exact ⟨hreads, by simpa only [hlocation] using hinside⟩

theorem readMember_spec {reference : String} {member : BundleMember}
    (h : readMember disk root reference = .ok member) :
    member.reference = reference ∧ member.Resolved disk root := by
  simp only [readMember, bind_eq_ok, expect_eq_ok, pure_eq_ok] at h
  obtain ⟨candidate, hresolve, file, hopen, rfl⟩ := h
  exact ⟨rfl, resolved_of_resolveMember hresolve hopen⟩

theorem readPacketDocument_spec {model : PacketModel} {member : BundleMember}
    {packet : PacketDocument}
    (h : readPacketDocument reader disk model root = .ok (member, packet)) :
    member.reference = "packet.json" ∧ member.ReadFrom disk root := by
  simp only [readPacketDocument, bind_eq_ok, expect_eq_ok, pure_eq_ok, Prod.mk.injEq] at h
  obtain ⟨⟨file, value⟩, hread, _, _, rfl, _⟩ := h
  exact ⟨rfl, LinkedDisk.reads_of_openFile (openFile_of_readJson hread)⟩

theorem readReceipt_spec {packet : PacketDocument} {reference statusMessage role : String}
    {member : BundleMember} {receipt : ValidationReceipt}
    (h : readReceipt reader disk root packet reference statusMessage role =
      .ok (member, receipt)) :
    member.reference = reference ∧ member.Resolved disk root := by
  simp only [readReceipt, bind_eq_ok, pure_eq_ok, Prod.mk.injEq] at h
  obtain ⟨candidate, hresolve, ⟨file, value⟩, hread, _, _, _, _, _, _, _, _, _, _, rfl, _⟩ := h
  exact ⟨rfl, resolved_of_resolveMember hresolve (openFile_of_readJson hread)⟩

/-! ## The payload -/

/-- A part was read by the reference, if there is one, and its member is as it should be. -/
structure PayloadPart.Read (Good : BundleMember → Prop) (reference : Option String)
    (part : PayloadPart) : Prop where
  reference_eq : part.member.map BundleMember.reference = reference
  good : ∀ member ∈ part.member, Good member

theorem members_of_parts {α : Type} {Good : BundleMember → Prop} {name : α → Option String}
    {items : List α} {parts : List PayloadPart}
    (h : List.Forall₂ (fun item part => PayloadPart.Read Good (name item) part) items parts) :
    (parts.filterMap PayloadPart.member).map BundleMember.reference = items.filterMap name ∧
      ∀ member ∈ parts.filterMap PayloadPart.member, Good member := by
  induction h with
  | nil => simp
  | @cons item part items parts hread _ ih =>
      obtain ⟨href, hgood⟩ := hread
      cases hmember : part.member with
      | none =>
          rw [hmember, Option.map_none] at href
          simpa only [List.filterMap_cons, hmember, ← href] using ih
      | some member =>
          rw [hmember, Option.map_some] at href
          simp only [List.filterMap_cons, hmember, ← href, List.map_cons, ih.1, true_and,
            List.mem_cons]
          intro other hother
          rcases hother with rfl | hother
          · exact hgood other hmember
          · exact ih.2 other hother

theorem readRepositoryPart_spec {field : String × String} {part : PayloadPart}
    (h : readRepositoryPart reader disk root field = .ok part) :
    PayloadPart.Read (BundleMember.Resolved disk root) (some field.2) part := by
  simp only [readRepositoryPart, bind_eq_ok, pure_eq_ok] at h
  obtain ⟨candidate, hresolve, ⟨file, value⟩, hread, rfl⟩ := h
  refine ⟨rfl, ?_⟩
  intro member hmember
  rw [← Option.some.inj hmember]
  exact resolved_of_resolveMember hresolve (openFile_of_readJson hread)

theorem loadRecords_spec {packet : PacketDocument} {key : String} {part : PayloadPart}
    (h : loadRecords reader disk root packet key = .ok part) :
    PayloadPart.Read (BundleMember.Resolved disk root) (packet.payloadRefs.lookup key) part := by
  unfold loadRecords at h
  split at h
  · next hnone =>
      rw [← Except.ok.inj h, hnone]
      exact ⟨rfl, fun _ hmember => nomatch hmember⟩
  · next reference hsome =>
      simp only [bind_eq_ok, pure_eq_ok] at h
      obtain ⟨opened, hopened, _, _, _, _, _, _, _, _, rfl⟩ := h
      obtain ⟨href, hresolved⟩ := readMember_spec hopened
      refine ⟨by rw [hsome, ← href]; rfl, ?_⟩
      intro member hmember
      exact Option.some.inj hmember ▸ hresolved

theorem readCorpusField_spec {packet : PacketDocument} {field : CorpusPayloadField}
    {part : PayloadPart} (h : readCorpusField reader disk root packet field = .ok part) :
    PayloadPart.Read (BundleMember.ReadFrom disk root) (packet.payloadRefs.lookup field.value)
      part := by
  simp only [readCorpusField, bind_eq_ok, expect_eq_ok, pure_eq_ok] at h
  obtain ⟨reference, href, file, hopen, _, _, _, _, _, _, _, _, rfl⟩ := h
  refine ⟨href.symm, ?_⟩
  intro member hmember
  rw [← Option.some.inj hmember]
  exact LinkedDisk.reads_of_openFile hopen

/-! ## What a bundle names -/

namespace BundleKind

/-- The model a kind of packet is read into. -/
def model (reader : BundleReader) : BundleKind → PacketModel
  | topology => reader.topology
  | repositoryModel => reader.repositoryModel
  | corpusIntelligence => reader.corpusIntelligence

/-- The references that are followed for the payload. -/
def payloadReferences : BundleKind → PacketDocument → List String
  | topology, packet => topologyPayloadKeys.filterMap fun key => packet.payloadRefs.lookup key
  | repositoryModel, packet =>
      if packet.payload.isSome then [] else packet.payloadRefs.map Prod.snd
  | corpusIntelligence, packet =>
      corpusPayloadFields.filterMap fun field => packet.payloadRefs.lookup field.value

/-- The references that are followed for the receipt. -/
def receiptReferences : BundleKind → PacketDocument → List String
  | topology, packet => packet.validation.receiptRef.toList
  | repositoryModel, packet => [repositoryReceiptReference packet]
  | corpusIntelligence, _ => []

/-- Every reference that is followed beside the one of the manifest. -/
def references (kind : BundleKind) (packet : PacketDocument) : List String :=
  "packet.json" :: (kind.payloadReferences packet ++ kind.receiptReferences packet)

end BundleKind

/-- What was read for a bundle of a kind whose `packet.json` holds the packet. -/
structure LoadedFrom (reader : BundleReader) (disk : LinkedDisk) (kind : BundleKind) (path : Path)
    (bundle : PacketBundle) (packet : PacketDocument) : Prop where
  root : disk.resolve path = some bundle.root
  manifest : verifyBundleManifest reader disk bundle.root = .ok bundle.manifest
  document : readPacketDocument reader disk (kind.model reader) bundle.root =
    .ok (bundle.packetMember, packet)
  payload : bundle.payloadMembers.map BundleMember.reference = kind.payloadReferences packet
  receipt : bundle.receiptMember.toList.map BundleMember.reference =
    kind.receiptReferences packet
  payload_readFrom : ∀ member ∈ bundle.payloadMembers, member.ReadFrom disk bundle.root
  receipt_readFrom : ∀ member ∈ bundle.receiptMember, member.ReadFrom disk bundle.root
  payload_resolved : kind ≠ .corpusIntelligence →
    ∀ member ∈ bundle.payloadMembers, member.Resolved disk bundle.root

theorem loadTopologyBundle_spec {path : Path} {bundle : PacketBundle}
    (h : loadTopologyBundle reader disk path = .ok bundle) :
    ∃ packet, LoadedFrom reader disk .topology path bundle packet := by
  simp only [loadTopologyBundle, bind_eq_ok, expect_eq_ok, resolveBundlePath_eq_ok,
    pure_eq_ok] at h
  obtain ⟨root, hroot, manifest, hmanifest, ⟨packetMember, packet⟩, hdocument, _, _, _, _, parts,
    hparts, _, _, reference, href, ⟨receiptMember, receipt⟩, hreceipt, rfl⟩ := h
  have hpayload := members_of_parts ((mapM_eq_ok.1 hparts).imp fun _ _ => loadRecords_spec)
  obtain ⟨hreference, hresolved⟩ := readReceipt_spec hreceipt
  exact ⟨packet, {
    root := hroot
    manifest := hmanifest
    document := hdocument
    payload := hpayload.1
    receipt := by
      have hfound : packet.validation.receiptRef = some reference := href
      simp [BundleKind.receiptReferences, hfound, hreference]
    payload_readFrom := fun member hmember => (hpayload.2 member hmember).readFrom
    receipt_readFrom := fun _ hmember => Option.some.inj hmember ▸ hresolved.readFrom
    payload_resolved := fun _ => hpayload.2 }⟩

theorem materializeRepositoryPayload_spec {document packet : PacketDocument}
    {members : List BundleMember}
    (h : materializeRepositoryPayload reader disk root document = .ok (packet, members)) :
    packet.validation = document.validation ∧
      members.map BundleMember.reference = BundleKind.repositoryModel.payloadReferences document ∧
      ∀ member ∈ members, member.Resolved disk root := by
  unfold materializeRepositoryPayload at h
  split at h
  · next payload hpayload =>
      cases h
      simp [BundleKind.payloadReferences, hpayload]
  · next hpayload =>
      simp only [bind_eq_ok, pure_eq_ok, Prod.mk.injEq] at h
      obtain ⟨parts, hparts, _, _, rfl, rfl⟩ := h
      have hmembers :=
        members_of_parts ((mapM_eq_ok.1 hparts).imp fun _ _ => readRepositoryPart_spec)
      refine ⟨rfl, ?_, hmembers.2⟩
      rw [hmembers.1, BundleKind.payloadReferences, hpayload, ← List.filterMap_eq_map]
      rfl

theorem loadRepositoryModelBundle_spec {path : Path} {bundle : PacketBundle}
    (h : loadRepositoryModelBundle reader disk path = .ok bundle) :
    ∃ packet, LoadedFrom reader disk .repositoryModel path bundle packet := by
  simp only [loadRepositoryModelBundle, bind_eq_ok, resolveBundlePath_eq_ok, pure_eq_ok] at h
  obtain ⟨root, hroot, _, _, manifest, hmanifest, ⟨packetMember, document⟩, hdocument,
    ⟨packet, members⟩, hpayload, _, _, _, _, ⟨receiptMember, receipt⟩, hreceipt, rfl⟩ := h
  obtain ⟨hvalidation, hreferences, hmembers⟩ := materializeRepositoryPayload_spec hpayload
  obtain ⟨hreference, hresolved⟩ := readReceipt_spec hreceipt
  exact ⟨document, {
    root := hroot
    manifest := hmanifest
    document := hdocument
    payload := hreferences
    receipt := by
      simp [BundleKind.receiptReferences, repositoryReceiptReference, hreference, hvalidation]
    payload_readFrom := fun member hmember => (hmembers member hmember).readFrom
    receipt_readFrom := fun _ hmember => Option.some.inj hmember ▸ hresolved.readFrom
    payload_resolved := fun _ => hmembers }⟩

theorem loadCorpusIntelligenceBundle_spec {path : Path} {bundle : PacketBundle}
    (h : loadCorpusIntelligenceBundle reader disk path = .ok bundle) :
    ∃ packet, LoadedFrom reader disk .corpusIntelligence path bundle packet := by
  simp only [loadCorpusIntelligenceBundle, bind_eq_ok, resolveBundlePath_eq_ok, pure_eq_ok] at h
  obtain ⟨root, hroot, _, _, manifest, hmanifest, ⟨packetMember, packet⟩, hdocument, _, _,
    ⟨payload, members⟩, hpayload, _, _, rfl⟩ := h
  simp only [readCorpusPayload, bind_eq_ok, pure_eq_ok, Prod.mk.injEq] at hpayload
  obtain ⟨parts, hparts, _, _, _, rfl⟩ := hpayload
  have hmembers := members_of_parts ((mapM_eq_ok.1 hparts).imp fun _ _ => readCorpusField_spec)
  exact ⟨packet, {
    root := hroot
    manifest := hmanifest
    document := hdocument
    payload := hmembers.1
    receipt := rfl
    payload_readFrom := hmembers.2
    receipt_readFrom := fun _ hmember => nomatch hmember
    payload_resolved := fun hkind => absurd rfl hkind }⟩

theorem loadBundle_spec {kind : BundleKind} {path : Path} {bundle : PacketBundle}
    (h : loadBundle reader disk kind path = .ok bundle) :
    ∃ packet, LoadedFrom reader disk kind path bundle packet := by
  cases kind with
  | topology => exact loadTopologyBundle_spec h
  | repositoryModel => exact loadRepositoryModelBundle_spec h
  | corpusIntelligence => exact loadCorpusIntelligenceBundle_spec h

namespace LoadedFrom

variable {kind : BundleKind} {path : Path} {bundle : PacketBundle} {packet : PacketDocument}

/-- The members stand for the references of the packet. -/
theorem references_eq (h : LoadedFrom reader disk kind path bundle packet) :
    bundle.members.map BundleMember.reference = kind.references packet := by
  have hpacket := (readPacketDocument_spec h.document).1
  rw [PacketBundle.members, List.map_cons, List.map_append, hpacket, h.payload, h.receipt,
    BundleKind.references]

theorem readFrom (h : LoadedFrom reader disk kind path bundle packet) :
    ∀ member ∈ bundle.members, member.ReadFrom disk bundle.root := by
  intro member hmember
  rcases List.mem_cons.1 hmember with rfl | hmember
  · exact (readPacketDocument_spec h.document).2
  · rcases List.mem_append.1 hmember with hpayload | hreceipt
    · exact h.payload_readFrom member hpayload
    · exact h.receipt_readFrom member (Option.mem_toList.1 hreceipt)

end LoadedFrom

/-! ## The verified manifest -/

theorem verifyBundleManifest_spec {manifest : PacketBundleManifest}
    (hroot : disk.resolve root = some root)
    (h : verifyBundleManifest reader disk root = .ok manifest) :
    readBundleManifest reader disk root = .ok manifest ∧
      ∀ entry ∈ manifest.files, ∃ file, disk.Reads (joinPath root entry.path) file ∧
        reader.codec.artifactHash file.content = entry.contentHash ∧
        file.content.size = entry.sizeBytes := by
  simp only [verifyBundleManifest, bind_eq_ok, resolveBundlePath_eq_ok, demand_eq_ok,
    pure_eq_ok] at h
  obtain ⟨place, hplace, found, hread, _, hfiles, _, _, rfl⟩ := h
  rw [hroot, Option.some.injEq] at hplace
  subst hplace
  refine ⟨hread, ?_⟩
  intro entry hentry
  obtain ⟨_, hverified⟩ := exists_of_mem_mapM hfiles hentry
  simp only [verifyBundleMember, bind_eq_ok, demand_eq_ok] at hverified
  obtain ⟨opened, hopened, _, hhash, hsize⟩ := hverified
  obtain ⟨hreference, hresolved⟩ := readMember_spec hopened
  have hreads := hresolved.readFrom
  rw [BundleMember.ReadFrom, hreference] at hreads
  exact ⟨opened.file, hreads, hhash, hsize⟩

/-! ## Binding -/

/-- The manifest lists the file of the member with the hash and the size of its bytes. -/
def Listed (reader : BundleReader) (disk : LinkedDisk) (bundle : PacketBundle)
    (member : BundleMember) : Prop :=
  ∃ entry ∈ bundle.manifest.files,
    disk.resolve (joinPath bundle.root entry.path) = some member.file.location ∧
      reader.codec.artifactHash member.file.content = entry.contentHash ∧
      member.file.content.size = entry.sizeBytes

/-- Every file but the manifest that contributed to the bundle is listed. -/
def Bound (reader : BundleReader) (disk : LinkedDisk) (bundle : PacketBundle) : Prop :=
  ∀ member ∈ bundle.members,
    disk.resolve (joinPath bundle.root "manifest.json") ≠ some member.file.location →
      Listed reader disk bundle member

/-- Every reference that `packet.json` makes a loader follow leads to the manifest or to where a
    path of the manifest leads. -/
def Covered (reader : BundleReader) (disk : LinkedDisk) (kind : BundleKind) (path : Path) : Prop :=
  ∀ root manifest member packet, disk.resolve path = some root →
    readBundleManifest reader disk root = .ok manifest →
    readPacketDocument reader disk (kind.model reader) root = .ok (member, packet) →
    ∀ reference ∈ kind.references packet,
      disk.resolve (joinPath root "manifest.json") ≠ disk.resolve (joinPath root reference) →
        ∃ entry ∈ manifest.files,
          disk.resolve (joinPath root entry.path) = disk.resolve (joinPath root reference)

/-- **Binding.** What a loader has read is bound by the verified manifest exactly when the packet
    refers to listed files only: no loader looks its references up in the manifest. -/
theorem manifest_binding_iff {kind : BundleKind} {path : Path} {bundle : PacketBundle}
    (h : loadBundle reader disk kind path = .ok bundle) :
    Bound reader disk bundle ↔ Covered reader disk kind path := by
  obtain ⟨packet, hloaded⟩ := loadBundle_spec h
  have hroot := LinkedDisk.resolve_resolve hloaded.root
  obtain ⟨hmanifest, hverified⟩ := verifyBundleManifest_spec hroot hloaded.manifest
  constructor
  · intro hbound root manifest member document hplace hread hdocument reference hreference hother
    rw [hloaded.root, Option.some.injEq] at hplace
    subst hplace
    rw [hmanifest, Except.ok.injEq] at hread
    subst hread
    rw [hloaded.document, Except.ok.injEq, Prod.mk.injEq] at hdocument
    obtain ⟨-, rfl⟩ := hdocument
    rw [← hloaded.references_eq, List.mem_map] at hreference
    obtain ⟨followed, hfollowed, rfl⟩ := hreference
    have hresolves := (hloaded.readFrom followed hfollowed).resolves
    rw [hresolves] at hother ⊢
    obtain ⟨entry, hentry, hleads, _⟩ := hbound followed hfollowed hother
    exact ⟨entry, hentry, hleads⟩
  · intro hcovered member hmember hother
    have hreadFrom := hloaded.readFrom member hmember
    have hreference : member.reference ∈ kind.references packet :=
      hloaded.references_eq ▸ List.mem_map_of_mem hmember
    rw [← hreadFrom.resolves] at hother
    obtain ⟨entry, hentry, hleads⟩ := hcovered _ _ _ _ hloaded.root hmanifest hloaded.document
      member.reference hreference hother
    rw [hreadFrom.resolves] at hleads
    -- the listed path leads to the file of the member, so it was verified on the same bytes
    obtain ⟨file, hfile, hhash, hsize⟩ := hverified entry hentry
    have hlocation := hfile.resolves
    rw [hleads, Option.some.injEq] at hlocation
    have hsame : member.file = file := hreadFrom.eq hfile hlocation
    exact ⟨entry, hentry, hleads, by rw [hsame, hhash], by rw [hsame, hsize]⟩

/-! ## Containment -/

/-- Every payload file that was read lies in the bundle. -/
def PayloadInside (bundle : PacketBundle) : Prop :=
  ∀ member ∈ bundle.payloadMembers, bundle.root <+: member.file.location

/-- The loaders that resolve their members read a payload from inside. -/
theorem payloadInside_of_resolved {kind : BundleKind} {path : Path} {bundle : PacketBundle}
    (hkind : kind ≠ .corpusIntelligence) (h : loadBundle reader disk kind path = .ok bundle) :
    PayloadInside bundle := by
  obtain ⟨packet, hloaded⟩ := loadBundle_spec h
  intro member hmember
  obtain ⟨base, hbase, hbelow⟩ := (hloaded.payload_resolved hkind member hmember).inside
  rw [LinkedDisk.resolve_resolve hloaded.root, Option.some.injEq] at hbase
  exact hbase ▸ hbelow

/-- Every reference that `packet.json` gives a payload domain leads into the bundle. -/
def ReferencesInside (reader : BundleReader) (disk : LinkedDisk) (path : Path) : Prop :=
  ∀ root member packet, disk.resolve path = some root →
    readPacketDocument reader disk reader.corpusIntelligence root = .ok (member, packet) →
    ∀ field ∈ corpusPayloadFields, ∀ reference, packet.payloadRefs.lookup field.value =
      some reference → ∃ place, disk.resolve (joinPath root reference) = some place ∧ root <+: place

/-- **Containment.** A corpus bundle that loads was read from inside exactly when its references
    lead there: the loader refuses none for where it leads. -/
theorem corpus_containment_iff {path : Path} {bundle : PacketBundle}
    (h : loadCorpusIntelligenceBundle reader disk path = .ok bundle) :
    PayloadInside bundle ↔ ReferencesInside reader disk path := by
  obtain ⟨packet, hloaded⟩ := loadCorpusIntelligenceBundle_spec h
  constructor
  · intro hinside root member document hplace hdocument field hfield reference hreference
    rw [hloaded.root, Option.some.injEq] at hplace
    subst hplace
    have heq := hloaded.document.symm.trans hdocument
    rw [Except.ok.injEq, Prod.mk.injEq] at heq
    obtain ⟨-, rfl⟩ := heq
    have hnamed : reference ∈ bundle.payloadMembers.map BundleMember.reference := by
      rw [hloaded.payload]
      exact List.mem_filterMap.2 ⟨field, hfield, hreference⟩
    obtain ⟨followed, hfollowed, rfl⟩ := List.mem_map.1 hnamed
    exact ⟨_, (hloaded.payload_readFrom followed hfollowed).resolves, hinside followed hfollowed⟩
  · intro hinside member hmember
    have hnamed : member.reference ∈ BundleKind.corpusIntelligence.payloadReferences packet :=
      hloaded.payload ▸ List.mem_map_of_mem hmember
    obtain ⟨field, hfield, hreference⟩ := List.mem_filterMap.1 hnamed
    obtain ⟨place, hplace, hbelow⟩ :=
      hinside _ _ _ hloaded.root hloaded.document field hfield _ hreference
    rw [(hloaded.payload_readFrom member hmember).resolves, Option.some.injEq] at hplace
    exact hplace ▸ hbelow

/-! ## A corpus bundle

Every domain is empty and kept in one file. The manifest lists its members, or nothing. -/

/-- Integers, booleans and dates as the canonical text writes them. -/
def plainPydantic : Pydantic where
  int
    | .int value => some value
    | _ => none
  bool
    | .bool value => some value
    | _ => none
  datetime
    | .str text => some ⟨text⟩
    | _ => none
  int_int _ := rfl
  bool_bool _ := rfl
  datetime_isoformat _ := rfl

/-- The bytes of an empty domain. -/
def emptyDomain : ByteArray := ((Json.arr []).stringify noFloats).toUTF8

/-- What the semantic hash of the packet is taken of. -/
def draftView (reference : String) : List (String × Json) :=
  [("packet_type", .str "l9.corpus-intelligence"),
    ("packet_version", .str "1.0.0"),
    ("producer", .obj [("name", .str "meta"), ("version", .str "1.0.0")]),
    ("profile", .obj [("id", .str "corpus"), ("version", .str "1.0.0"), ("hash", .str "sha256:0")]),
    ("inputs", .obj [("repository_model_packets", .arr [])]),
    ("corpus", .obj [("corpus_id", .str "drafts"),
      ("corpus_source_snapshot_id", .str "snapshot:1"),
      ("corpus_analysis_id", .str "analysis:1"),
      ("root_refs", .arr []),
      ("coverage", .obj (["root_count_requested", "root_count_observed", "root_count_failed",
        "artifact_count", "archive_count", "archive_member_count", "decoder_eligible_count",
        "normalized_document_count", "interpreted_artifact_count", "unsupported_format_count",
        "coverage_gap_count"].map fun count => (count, .int 0)))]),
    ("schema_hash", .str "sha256:1"),
    ("payload_refs", .obj (corpusPayloadFields.map fun field => (field.value, .str reference))),
    ("payload_hashes", .obj (corpusPayloadFields.map fun field =>
      (field.value, .str (textCodec.artifactHash emptyDomain)))),
    ("lineage", .obj [("parent_packet_ids", .arr []), ("generation", .int 0)])]

/-- The hash of the packet that names the reference. -/
def draftHash (reference : String) : String := textCodec.semanticHash (.obj (draftView reference))

/-- `packet.json`. -/
def draftPacket (reference : String) : Json :=
  .obj (draftView reference ++ [("validation", .obj [("status", .str "passed")]),
    ("packet_id", .str "packet:draft"), ("semantic_hash", .str (draftHash reference)),
    ("created_at", .str "2026-01-01T00:00:00Z")])

/-- A manifest that lists some files. -/
def listedManifest (files : List PacketFileEntry) (artifactHash semanticHash : String) :
    PacketBundleManifest where
  packetId := "packet:draft"
  packetType := "l9.corpus-intelligence"
  packetVersion := "1.0.0"
  semanticHash := semanticHash
  artifactHash := artifactHash
  files := files
  createdAt := ⟨"2026-01-01T00:00:00Z"⟩

def listedManifestJson (files : List PacketFileEntry) (artifactHash semanticHash : String) : Json :=
  .obj [("artifact_hash", .str artifactHash),
    ("created_at", .str "2026-01-01T00:00:00Z"),
    ("files", .arr (files.map PacketFileEntry.toJson)),
    ("manifest_version", .str "1.0.0"),
    ("packet_id", .str "packet:draft"),
    ("packet_type", .str "l9.corpus-intelligence"),
    ("packet_version", .str "1.0.0"),
    ("semantic_hash", .str semanticHash)]

/-- The artifact hash of some files. -/
def filesHash (codec : Codec) (files : List PacketFileEntry) : String :=
  codec.semanticHash (.arr (files.map PacketFileEntry.toJson))

/-- `manifest.json`. -/
def draftManifest (files : List PacketFileEntry) (reference : String) : Json :=
  listedManifestJson files (filesHash textCodec files) (draftHash reference)

/-- The files of a bundle, and one beside it. -/
def bundleDisk (manifest packet domain : ByteArray) : LinkedDisk :=
  ⟨[(["bundle"], .directory),
    (["bundle", "manifest.json"], .file manifest),
    (["bundle", "packet.json"], .file packet),
    (["bundle", "empty.json"], .file domain),
    (["outside.json"], .file domain)]⟩

def draftDisk (files : List PacketFileEntry) (reference : String) : LinkedDisk :=
  bundleDisk ((draftManifest files reference).stringify noFloats).toUTF8
    ((draftPacket reference).stringify noFloats).toUTF8 emptyDomain

/-- The entry of a file by its bytes. -/
def boundEntry (path : String) (content : ByteArray) : PacketFileEntry where
  path := path
  mediaType := "application/json"
  contentHash := textCodec.artifactHash content
  sizeBytes := content.size

/-- The members of the bundle, as a manifest binds them. -/
def draftFiles (reference : String) : List PacketFileEntry :=
  [boundEntry "packet.json" ((draftPacket reference).stringify noFloats).toUTF8,
    boundEntry "empty.json" emptyDomain]

/-- A mapping of texts. -/
def readTextMapping : Json → Option (List (String × String))
  | .obj fields => fields.mapM fun field => (readText field.2).map fun text => (field.1, text)
  | _ => none

/-- The data model of a 1.0.0 packet in which every field is written out. -/
def draftModel : PacketModel where
  modelValidate value := do
    let packetVersion ← value.fieldText? "packet_version"
    let packetId ← value.fieldText? "packet_id"
    let semanticHash ← value.fieldText? "semantic_hash"
    let payloadRefs ← (value.get? "payload_refs").bind readTextMapping
    let payloadHashes ← (value.get? "payload_hashes").bind readTextMapping
    let validation ← value.get? "validation"
    let status ← (validation.fieldText? "status").bind ValidationStatus.ofValue?
    return { packetVersion, packetId, semanticHash, payloadRefs, payloadHashes,
             validation := { status }, document := value }
  payloadModel parts := some (.obj parts)
  semanticView packet := .obj (["packet_type", "packet_version", "producer", "profile", "inputs",
    "corpus", "schema_hash", "payload_refs", "payload_hashes", "lineage"].filterMap fun key =>
      (packet.document.get? key).map fun value => (key, value))

def draftReader (files : List PacketFileEntry) (reference : String) : BundleReader where
  loads text :=
    if text = (Json.arr []).stringify noFloats then .ok (.arr [])
    else if text = (draftPacket reference).stringify noFloats then .ok (draftPacket reference)
    else if text = (draftManifest files reference).stringify noFloats then
      .ok (draftManifest files reference)
    else .error "Expecting value"
  decode := String.fromUTF8?
  pydantic := plainPydantic
  codec := textCodec
  now := ⟨"2026-01-01T00:00:00Z"⟩
  repositoryModel := draftModel
  topology := draftModel
  corpusIntelligence := draftModel

/-- What `packet.json` is read as. -/
def draftDocument (reference : String) : PacketDocument where
  packetVersion := "1.0.0"
  packetId := "packet:draft"
  semanticHash := draftHash reference
  payloadRefs := corpusPayloadFields.map fun field => (field.value, reference)
  payloadHashes := corpusPayloadFields.map fun field =>
    (field.value, textCodec.artifactHash emptyDomain)
  validation := { status := .passed }
  document := draftPacket reference

/-- A domain read from a place. -/
def draftPart (reference : String) (place : Path) (field : CorpusPayloadField) : PayloadPart where
  member := some { reference, file := ⟨place, emptyDomain⟩ }
  key := field.value
  value := .arr []

/-- What the bundle is loaded as when its domains are read from a place. -/
def draftBundle (files : List PacketFileEntry) (reference : String) (place : Path) :
    PacketBundle where
  root := ["bundle"]
  manifest := listedManifest files (filesHash textCodec files) (draftHash reference)
  packet :=
    { draftDocument reference with
      payload := some (.obj (corpusPayloadFields.map fun field => (field.value, .arr []))) }
  packetMember :=
    { reference := "packet.json"
      file := ⟨["bundle", "packet.json"], ((draftPacket reference).stringify noFloats).toUTF8⟩ }
  payloadMembers := corpusPayloadFields.map fun _ => { reference, file := ⟨place, emptyDomain⟩ }

/-- A file that holds the text of a value is read as the value. -/
theorem readJson_stringify {path location : Path} {value : Json}
    (hopen : disk.openFile path = some ⟨location, (value.stringify noFloats).toUTF8⟩)
    (hloads : reader.loads (value.stringify noFloats) = .ok value) :
    readJson reader disk path =
      .ok (⟨location, (value.stringify noFloats).toUTF8⟩, value) := by
  have hcr : '\r' ∉ value.stringifyChars noFloats := by
    rw [Json.mem_stringifyChars (by decide)]
    exact fun h => absurd h.1 (by decide)
  have hlines : String.ofList (universalNewlines (value.stringify noFloats).toList) =
      value.stringify noFloats := by
    rw [Json.stringify, String.toList_ofList, universalNewlines_of_not_mem hcr]
  simp only [readJson, hopen, expect, fromUTF8?_toUTF8, hlines, hloads, bind, pure,
    Except.bind, Except.pure, Except.mapError]

theorem stringify_obj_ne_arr (fields : List (String × Json)) (items : List Json) :
    (Json.obj fields).stringify noFloats ≠ (Json.arr items).stringify noFloats := by
  intro h
  have hchars := String.ofList_injective h
  simp [Json.stringifyChars] at hchars

theorem draftManifest_ne (files : List PacketFileEntry) (reference : String) :
    (draftManifest files reference).stringify noFloats ≠
      (draftPacket reference).stringify noFloats := by
  intro h
  have hchars := congrArg (List.take 3) (String.ofList_injective h)
  have hmanifest : ((draftManifest files reference).stringifyChars noFloats).take 3 =
    ['{', '"', 'a'] := rfl
  have hpacket : ((draftPacket reference).stringifyChars noFloats).take 3 = ['{', '"', 'p'] := rfl
  rw [hmanifest, hpacket] at hchars
  exact absurd hchars (by decide)

theorem draftReader_loads (files : List PacketFileEntry) (reference text : String) :
    (draftReader files reference).loads text =
      if text = (Json.arr []).stringify noFloats then .ok (.arr [])
      else if text = (draftPacket reference).stringify noFloats then .ok (draftPacket reference)
      else if text = (draftManifest files reference).stringify noFloats then
        .ok (draftManifest files reference)
      else .error "Expecting value" := rfl

theorem fileEntry_ofJson (entry : PacketFileEntry) :
    PacketFileEntry.ofJson plainPydantic entry.toJson = some entry := by
  have hsize : (entry.toJson.get? "size_bytes").bind (readCount plainPydantic) =
      some entry.sizeBytes := by
    show readCount plainPydantic (.int entry.sizeBytes) = _
    simp [readCount, plainPydantic]
  have hkeys : forbidExtra ["path", "media_type", "content_hash", "size_bytes"] entry.toJson =
    some () := rfl
  simp only [PacketFileEntry.ofJson, hkeys, hsize]
  rfl

theorem listedManifest_ofJson (files : List PacketFileEntry) (artifactHash semanticHash : String)
    (now : Timestamp) :
    PacketBundleManifest.ofJson plainPydantic now
        (listedManifestJson files artifactHash semanticHash) =
      some (listedManifest files artifactHash semanticHash) := by
  have hentries : (files.map PacketFileEntry.toJson).mapM (PacketFileEntry.ofJson plainPydantic) =
      some files := by
    induction files with
    | nil => rfl
    | cons entry files ih =>
        rw [List.map_cons, List.mapM_cons, fileEntry_ofJson, ih]
        rfl
  have hfiles : (listedManifestJson files artifactHash semanticHash).get? "files" =
    some (.arr (files.map PacketFileEntry.toJson)) := rfl
  simp only [PacketBundleManifest.ofJson, hfiles, hentries]
  rfl

theorem bundleDisk_manifest (manifest packet domain : ByteArray) :
    (bundleDisk manifest packet domain).openFile (joinPath ["bundle"] "manifest.json") =
      some ⟨["bundle", "manifest.json"], manifest⟩ := rfl

theorem bundleDisk_packet (manifest packet domain : ByteArray) :
    (bundleDisk manifest packet domain).openFile (joinPath ["bundle"] "packet.json") =
      some ⟨["bundle", "packet.json"], packet⟩ := rfl

theorem bundleDisk_readPacket (manifest packet domain : ByteArray) :
    readMember (bundleDisk manifest packet domain) ["bundle"] "packet.json" =
      .ok { reference := "packet.json", file := ⟨["bundle", "packet.json"], packet⟩ } := rfl

theorem bundleDisk_readDomain (manifest packet domain : ByteArray) :
    readMember (bundleDisk manifest packet domain) ["bundle"] "empty.json" =
      .ok { reference := "empty.json", file := ⟨["bundle", "empty.json"], domain⟩ } := rfl

theorem draftModel_modelValidate (reference : String) :
    draftModel.modelValidate (draftPacket reference) = some (draftDocument reference) := rfl

/-- A manifest is accepted when each file that it lists is there as it is listed. -/
theorem verifyBundleManifest_listed {file : OpenedFile} {files : List PacketFileEntry}
    {semanticHash : String} (hroot : disk.resolve root = some root)
    (hpydantic : reader.pydantic = plainPydantic)
    (hread : readJson reader disk (joinPath root "manifest.json") =
      .ok (file, listedManifestJson files (filesHash reader.codec files) semanticHash))
    (hfiles : ∀ entry ∈ files, verifyBundleMember reader disk root entry = .ok ()) :
    verifyBundleManifest reader disk root =
      .ok (listedManifest files (filesHash reader.codec files) semanticHash) := by
  have hplace : resolveBundlePath disk root = .ok root := resolveBundlePath_eq_ok.2 hroot
  have hmanifest : readBundleManifest reader disk root =
      .ok (listedManifest files (filesHash reader.codec files) semanticHash) := by
    simp only [readBundleManifest, hread, hpydantic, listedManifest_ofJson, expect, bind,
      Except.bind]
  have hverified : files.mapM (verifyBundleMember reader disk root) = .ok (files.map fun _ => ()) := by
    rw [mapM_eq_ok, List.forall₂_map_right_iff, List.forall₂_same]
    exact hfiles
  have hlisted : (listedManifest files (filesHash reader.codec files) semanticHash).files = files :=
    rfl
  have hartifact : (listedManifest files (filesHash reader.codec files) semanticHash).artifactHash =
      reader.codec.semanticHash (.arr (files.map PacketFileEntry.toJson)) := rfl
  simp only [verifyBundleManifest, hplace, hmanifest, hlisted, hverified, hartifact, demand,
    if_true, bind, pure, Except.bind, Except.pure]

/-- A file is verified by the entry of its bytes. -/
theorem verifyBundleMember_bound {path : String} {location : Path} {content : ByteArray}
    (hcodec : reader.codec = textCodec)
    (hread : readMember disk root path = .ok { reference := path, file := ⟨location, content⟩ }) :
    verifyBundleMember reader disk root (boundEntry path content) = .ok () := by
  have hpath : (boundEntry path content).path = path := rfl
  have hhash : (boundEntry path content).contentHash = textCodec.artifactHash content := rfl
  have hsize : (boundEntry path content).sizeBytes = content.size := rfl
  simp only [verifyBundleMember, hpath, hread, hcodec, hhash, hsize, demand, if_true, bind,
    Except.bind]

theorem draftFiles_verified (files : List PacketFileEntry) (reference : String) :
    ∀ entry ∈ draftFiles reference,
      verifyBundleMember (draftReader files reference) (draftDisk files reference) ["bundle"] entry =
        .ok () := by
  intro entry hentry
  rcases List.mem_cons.1 hentry with rfl | hentry
  · have hread : readMember (draftDisk files reference) ["bundle"] "packet.json" =
        .ok { reference := "packet.json",
              file := ⟨["bundle", "packet.json"],
                ((draftPacket reference).stringify noFloats).toUTF8⟩ } :=
      bundleDisk_readPacket _ _ _
    exact verifyBundleMember_bound rfl hread
  · obtain rfl := List.mem_singleton.1 hentry
    have hread : readMember (draftDisk files reference) ["bundle"] "empty.json" =
        .ok { reference := "empty.json", file := ⟨["bundle", "empty.json"], emptyDomain⟩ } :=
      bundleDisk_readDomain _ _ _
    exact verifyBundleMember_bound rfl hread

theorem draftDisk_manifest {files : List PacketFileEntry} {reference : String}
    (hfiles : ∀ entry ∈ files, verifyBundleMember (draftReader files reference)
      (draftDisk files reference) ["bundle"] entry = .ok ()) :
    verifyBundleManifest (draftReader files reference) (draftDisk files reference) ["bundle"] =
      .ok (listedManifest files (filesHash textCodec files) (draftHash reference)) := by
  have hloads : (draftReader files reference).loads
      ((draftManifest files reference).stringify noFloats) =
      .ok (draftManifest files reference) := by
    have hne : (draftManifest files reference).stringify noFloats ≠
      (Json.arr []).stringify noFloats := stringify_obj_ne_arr _ _
    rw [draftReader_loads, if_neg hne, if_neg (draftManifest_ne files reference), if_pos rfl]
  have hopen : (draftDisk files reference).openFile (joinPath ["bundle"] "manifest.json") =
      some ⟨["bundle", "manifest.json"],
        ((draftManifest files reference).stringify noFloats).toUTF8⟩ :=
    bundleDisk_manifest _ _ _
  exact verifyBundleManifest_listed rfl rfl (readJson_stringify hopen hloads) hfiles

theorem draftDisk_packet (files : List PacketFileEntry) (reference : String) :
    readPacketDocument (draftReader files reference) (draftDisk files reference) draftModel ["bundle"] =
      .ok ((draftBundle files reference []).packetMember, draftDocument reference) := by
  have hloads : (draftReader files reference).loads ((draftPacket reference).stringify noFloats) =
      .ok (draftPacket reference) := by
    have hne : (draftPacket reference).stringify noFloats ≠ (Json.arr []).stringify noFloats :=
      stringify_obj_ne_arr _ _
    rw [draftReader_loads, if_neg hne, if_pos rfl]
  have hopen : (draftDisk files reference).openFile (joinPath ["bundle"] "packet.json") =
      some ⟨["bundle", "packet.json"], ((draftPacket reference).stringify noFloats).toUTF8⟩ :=
    bundleDisk_packet _ _ _
  simp only [readPacketDocument, readJson_stringify hopen hloads, draftModel_modelValidate, expect,
    bind, pure, Except.bind, Except.pure]
  rfl

theorem readCorpusField_of_holds {packet : PacketDocument} {field : CorpusPayloadField}
    {reference text : String} {file : OpenedFile} {value : Json}
    (href : packet.payloadRefs.lookup field.value = some reference)
    (hopen : disk.openFile (joinPath root reference) = some file)
    (hhash : packet.payloadHashes.lookup field.value =
      some (reader.codec.artifactHash file.content))
    (hdecode : reader.decode file.content = some text) (hloads : reader.loads text = .ok value) :
    readCorpusField reader disk root packet field =
      .ok { member := some { reference, file }, key := field.value, value } := by
  simp only [readCorpusField, href, hopen, hhash, hdecode, hloads, expect, demand, if_true, bind,
    pure, Except.bind, Except.pure, Except.mapError]

theorem draftDisk_field {files : List PacketFileEntry} {reference : String} {place : Path}
    (hopen : (draftDisk files reference).openFile (joinPath ["bundle"] reference) =
      some ⟨place, emptyDomain⟩) (field : CorpusPayloadField) :
    readCorpusField (draftReader files reference) (draftDisk files reference) ["bundle"]
      (draftDocument reference) field = .ok (draftPart reference place field) := by
  have href : (draftDocument reference).payloadRefs.lookup field.value = some reference := by
    cases field <;> rfl
  have hhash : (draftDocument reference).payloadHashes.lookup field.value =
      some ((draftReader files reference).codec.artifactHash emptyDomain) := by
    cases field <;> rfl
  have hdecode : (draftReader files reference).decode emptyDomain =
      some ((Json.arr []).stringify noFloats) := fromUTF8?_toUTF8 ((Json.arr []).stringify noFloats)
  have hloads : (draftReader files reference).loads ((Json.arr []).stringify noFloats) =
      .ok (.arr []) := by
    rw [draftReader_loads, if_pos rfl]
  exact readCorpusField_of_holds href hopen hhash hdecode hloads

/-- A corpus bundle loads when each of its steps succeeds. -/
theorem loadCorpusIntelligenceBundle_of_steps {path : Path} {manifest : PacketBundleManifest}
    {packetMember : BundleMember} {packet : PacketDocument} {payload : Json}
    {members : List BundleMember} (hroot : disk.resolve path = some root)
    (hdirectory : disk.isDirectory root = true)
    (hmanifest : verifyBundleManifest reader disk root = .ok manifest)
    (hpacket : readPacketDocument reader disk reader.corpusIntelligence root =
      .ok (packetMember, packet))
    (hid : manifest.packetId = packet.packetId)
    (hhash : manifest.semanticHash = packet.semanticHash)
    (hpayload : readCorpusPayload reader disk root packet = .ok (payload, members))
    (hcalculated : reader.codec.semanticHash (reader.corpusIntelligence.semanticView
      { packet with payload := some payload }) = packet.semanticHash) :
    loadCorpusIntelligenceBundle reader disk path =
      .ok { root, manifest, packet := { packet with payload := some payload }, packetMember,
            payloadMembers := members } := by
  have hplace : resolveBundlePath disk path = .ok root := resolveBundlePath_eq_ok.2 hroot
  simp only [loadCorpusIntelligenceBundle, matchManifest, hplace, hdirectory, hmanifest, hpacket,
    hid, hhash, hpayload, hcalculated, demand, if_true, bind, pure, Except.bind, Except.pure]

theorem draftDisk_loads {files : List PacketFileEntry} {reference : String} {place : Path}
    (hfiles : ∀ entry ∈ files, verifyBundleMember (draftReader files reference)
      (draftDisk files reference) ["bundle"] entry = .ok ())
    (hopen : (draftDisk files reference).openFile (joinPath ["bundle"] reference) =
      some ⟨place, emptyDomain⟩) :
    loadCorpusIntelligenceBundle (draftReader files reference) (draftDisk files reference) ["bundle"] =
      .ok (draftBundle files reference place) := by
  have hparts : corpusPayloadFields.mapM (readCorpusField (draftReader files reference)
      (draftDisk files reference) ["bundle"] (draftDocument reference)) =
      .ok (corpusPayloadFields.map (draftPart reference place)) := by
    rw [mapM_eq_ok, List.forall₂_map_right_iff, List.forall₂_same]
    exact fun field _ => draftDisk_field hopen field
  have hpayload : readCorpusPayload (draftReader files reference) (draftDisk files reference) ["bundle"]
      (draftDocument reference) =
      .ok (.obj (corpusPayloadFields.map fun field => (field.value, .arr [])),
        (draftBundle files reference place).payloadMembers) := by
    rw [readCorpusPayload, hparts]
    rfl
  exact loadCorpusIntelligenceBundle_of_steps rfl rfl (draftDisk_manifest hfiles)
    (draftDisk_packet files reference) rfl rfl hpayload rfl

theorem bundleDisk_domain (manifest packet domain : ByteArray) :
    (bundleDisk manifest packet domain).openFile (joinPath ["bundle"] "empty.json") =
      some ⟨["bundle", "empty.json"], domain⟩ := rfl

theorem bundleDisk_outside (manifest packet domain : ByteArray) :
    (bundleDisk manifest packet domain).openFile (joinPath ["bundle"] "../outside.json") =
      some ⟨["outside.json"], domain⟩ := rfl

theorem bundleDisk_resolve (manifest packet domain : ByteArray) :
    (bundleDisk manifest packet domain).resolve (joinPath ["bundle"] "manifest.json") =
      some ["bundle", "manifest.json"] := rfl

theorem bundleDisk_refuses (manifest packet domain : ByteArray) :
    resolveMember (bundleDisk manifest packet domain) ["bundle"] "../outside.json" =
      .error (.packetLoad ("packet reference escapes bundle root: " ++ "../outside.json")) :=
  resolveMember_escapes (by decide) rfl rfl (by decide)

theorem draftDisk_bound :
    loadBundle (draftReader (draftFiles "empty.json") "empty.json")
        (draftDisk (draftFiles "empty.json") "empty.json") .corpusIntelligence ["bundle"] =
      .ok (draftBundle (draftFiles "empty.json") "empty.json" ["bundle", "empty.json"]) :=
  draftDisk_loads (draftFiles_verified _ _) (bundleDisk_domain _ _ _)

/-- A bundle whose manifest lists the members that it refers to. -/
theorem manifest_binding_iff_draft :
    Bound (draftReader (draftFiles "empty.json") "empty.json")
        (draftDisk (draftFiles "empty.json") "empty.json")
        (draftBundle (draftFiles "empty.json") "empty.json" ["bundle", "empty.json"]) ↔
      Covered (draftReader (draftFiles "empty.json") "empty.json")
        (draftDisk (draftFiles "empty.json") "empty.json") .corpusIntelligence ["bundle"] :=
  manifest_binding_iff draftDisk_bound

theorem corpus_containment_iff_draft :
    PayloadInside (draftBundle (draftFiles "empty.json") "empty.json" ["bundle", "empty.json"]) ↔
      ReferencesInside (draftReader (draftFiles "empty.json") "empty.json")
        (draftDisk (draftFiles "empty.json") "empty.json") ["bundle"] :=
  corpus_containment_iff draftDisk_bound

/-- A bundle loads although its manifest lists nothing. -/
theorem loads_unlisted :
    loadBundle (draftReader [] "empty.json") (draftDisk [] "empty.json") .corpusIntelligence
        ["bundle"] = .ok (draftBundle [] "empty.json" ["bundle", "empty.json"]) ∧
      ¬ Bound (draftReader [] "empty.json") (draftDisk [] "empty.json")
        (draftBundle [] "empty.json" ["bundle", "empty.json"]) := by
  refine ⟨draftDisk_loads (List.forall_mem_nil _) (bundleDisk_domain _ _ _), ?_⟩
  intro hbound
  have hmanifest : (draftDisk [] "empty.json").resolve (joinPath ["bundle"] "manifest.json") =
      some ["bundle", "manifest.json"] := bundleDisk_resolve _ _ _
  have hother : (draftDisk [] "empty.json").resolve (joinPath ["bundle"] "manifest.json") ≠
      some ["bundle", "packet.json"] := by
    rw [hmanifest]
    decide
  obtain ⟨entry, hentry, _⟩ := hbound _ List.mem_cons_self hother
  cases hentry

/-- A bundle loads although its payload is read from beside it, by a reference that the resolution
    of the other loaders refuses. -/
theorem loads_outside :
    loadCorpusIntelligenceBundle (draftReader (draftFiles "../outside.json") "../outside.json")
        (draftDisk (draftFiles "../outside.json") "../outside.json") ["bundle"] =
      .ok (draftBundle (draftFiles "../outside.json") "../outside.json" ["outside.json"]) ∧
      ¬ PayloadInside
        (draftBundle (draftFiles "../outside.json") "../outside.json" ["outside.json"]) ∧
      resolveMember (draftDisk (draftFiles "../outside.json") "../outside.json") ["bundle"]
          "../outside.json" =
        .error (.packetLoad ("packet reference escapes bundle root: " ++ "../outside.json")) := by
  refine ⟨draftDisk_loads (draftFiles_verified _ _) (bundleDisk_outside _ _ _), ?_,
    bundleDisk_refuses _ _ _⟩
  intro hinside
  have hbelow : ["bundle"] <+: ["outside.json"] := hinside _ List.mem_cons_self
  exact absurd hbelow (by decide)

end ConstellationTopology
