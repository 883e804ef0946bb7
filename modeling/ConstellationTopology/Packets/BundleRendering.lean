import ConstellationTopology.Packets.TopologyBundle
import ConstellationTopology.Run.NormalizedPath

set_option autoImplicit false

/-! # What a rendered bundle holds

A topology bundle has one file for each payload domain, the packet, the receipt, and the manifest of
these. Their paths do not depend on the packet, and rendering cannot fail once the packet names a
hash for every domain. -/

namespace ConstellationTopology

variable {c : Codec}

/-! ## Plain paths -/

/-- A name without separators that is no directory reference. -/
def PortableName (name : String) : Prop :=
  name ≠ "" ∧ name ≠ "." ∧ name ≠ ".." ∧ ∀ ch ∈ name.toList, ch ∉ ['/', '\\', ':']

instance (name : String) : Decidable (PortableName name) :=
  haveI : Decidable (∀ ch ∈ name.toList, ch ∉ ['/', '\\', ':']) := List.decidableBAll _ _
  inferInstanceAs (Decidable (_ ∧ _ ∧ _ ∧ ∀ ch ∈ name.toList, ch ∉ ['/', '\\', ':']))

theorem pathSegments_of_portable {names : List String} (hne : names ≠ [])
    (hportable : ∀ name ∈ names, PortableName name) :
    pathSegments (String.intercalate "/" names) = names := by
  refine pathSegments_intercalate hne fun name hname hslash => ?_
  exact (hportable name hname).2.2.2 _ hslash (by simp)

/-- A path of plain names is made of them. -/
theorem pathParts_of_portable {names : List String} (hne : names ≠ [])
    (hportable : ∀ name ∈ names, PortableName name) :
    pathParts (String.intercalate "/" names) = names := by
  rw [pathParts, pathSegments_of_portable hne hportable, List.filter_eq_self]
  intro name hname
  simpa [namesSegment] using ⟨(hportable name hname).1, (hportable name hname).2.1⟩

theorem purePosixPath_of_portable {names : List String} (hne : names ≠ [])
    (hportable : ∀ name ∈ names, PortableName name) :
    purePosixPath (String.intercalate "/" names) = String.intercalate "/" names := by
  rw [purePosixPath_eq, pathParts_of_portable hne hportable, if_neg hne]

/-- A separator other than the slash would be in one of the names. -/
theorem separator_notMem_of_portable {names : List String}
    (hportable : ∀ name ∈ names, PortableName name) {ch : Char} (hslash : ch ≠ '/')
    (hseparator : ch ∈ ['/', '\\', ':']) : ch ∉ (String.intercalate "/" names).toList := by
  intro hmem
  rcases mem_intercalate hmem with heq | ⟨name, hname, hin⟩
  · exact hslash heq
  · exact (hportable name hname).2.2.2 ch hin hseparator

/-- A path of plain names is in normal form. -/
theorem normalizeSourcePath_of_portable {names : List String} (hne : names ≠ [])
    (hportable : ∀ name ∈ names, PortableName name) :
    normalizeSourcePath (String.intercalate "/" names) = .ok (String.intercalate "/" names) := by
  have hsegments := pathSegments_of_portable hne hportable
  have hpure := purePosixPath_of_portable hne hportable
  have hslashed : slashedPath (String.intercalate "/" names) = String.intercalate "/" names :=
    slashedPath_of_notMem (separator_notMem_of_portable hportable (by decide) (by decide))
  rw [normalizeSourcePath_ok_iff, hslashed]
  refine ⟨hpure ▸ relative_purePosixPath _, ?_, hpure, ?_, ?_⟩
  · rw [Bool.eq_false_iff]
    intro hwindows
    obtain ⟨letter, separator, rest, -, -, hchars⟩ := windowsAbsolute_eq_true_iff.1 hwindows
    have habsent : ':' ∉ (String.intercalate "/" names).toList :=
      separator_notMem_of_portable hportable (by decide) (by decide)
    exact habsent (hchars ▸ by simp)
  · intro hup
    rw [hup, show pathSegments ".." = [".."] by decide] at hsegments
    exact (hportable ".." (hsegments ▸ List.mem_singleton.2 rfl)).2.2.1 rfl
  · rintro ⟨rest, hrest⟩
    have hup : String.intercalate "/" names =
        String.intercalate "/" (".." :: pathSegments (String.ofList rest)) := by
      have hchars : (String.toList ∘ String.ofList) = (id : List Char → List Char) :=
        funext fun _ => String.toList_ofList
      rw [← String.toList_inj, ← hrest, String.toList_intercalate, pathSegments,
        String.toList_ofList, List.map_cons, List.map_map, hchars, List.map_id]
      obtain ⟨first, others, hsplit⟩ := List.exists_cons_of_ne_nil (List.splitOn_ne_nil '/' rest)
      rw [show "/".toList = ['/'] from rfl, String.toList_ofList (l := rest), hsplit,
        List.intercalate_cons_cons, ← hsplit, List.intercalate_splitOn]
      rfl
    have hnames : names = ".." :: pathSegments (String.ofList rest) := by
      rw [← hsegments, hup]
      refine pathSegments_intercalate (List.cons_ne_nil _ _) fun name hname => ?_
      rcases List.mem_cons.1 hname with rfl | hname
      · decide
      · exact slash_notMem_of_mem_pathSegments hname
    exact (hportable ".." (hnames ▸ List.mem_cons_self)).2.2.1 rfl

/-! ## One file -/

/-- The artifact is the file of the document. -/
structure Renders (document : BundleDocument) (artifact : RenderedArtifact c) : Prop where
  logicalId : artifact.logicalId = document.logicalId
  destinationPath : artifact.destinationPath = document.path
  artifactKind : artifact.artifactKind = document.artifactKind
  mediaType : artifact.mediaType = "application/json"
  content : artifact.content = documentText c document.value
  semanticHash : artifact.semanticHash = document.semanticHash
  sourceRefs : artifact.sourceRefs = document.sourceRefs

/-- The hash is that of the content, so a document has one file. -/
theorem Renders.unique {document : BundleDocument} {artifact artifact' : RenderedArtifact c}
    (h : Renders document artifact) (h' : Renders document artifact') : artifact = artifact' := by
  have hlogical := h.logicalId.trans h'.logicalId.symm
  have hpath := h.destinationPath.trans h'.destinationPath.symm
  have hkind := h.artifactKind.trans h'.artifactKind.symm
  have hmedia := h.mediaType.trans h'.mediaType.symm
  have hcontent := h.content.trans h'.content.symm
  have hsemantic := h.semanticHash.trans h'.semanticHash.symm
  have hrefs := h.sourceRefs.trans h'.sourceRefs.symm
  have hhash : artifact.contentHash = artifact'.contentHash := by
    rw [artifact.contentHash_matches, artifact'.contentHash_matches, hcontent]
  cases artifact
  cases artifact'
  simp_all

/-- A document at a path in normal form has a file. -/
theorem exists_rendered (c : Codec) {document : BundleDocument}
    (hpath : normalizeSourcePath document.path = .ok document.path) :
    ∃ artifact, renderDocument c document = .ok artifact ∧ Renders document artifact := by
  unfold renderDocument
  split
  · next destination h =>
      refine ⟨_, rfl, rfl, ?_, rfl, rfl, rfl, rfl, rfl⟩
      exact Except.ok.inj (h.symm.trans hpath)
  · next h => cases h.symm.trans hpath

/-- A document at a path in normal form is rendered to its file. -/
theorem renderDocument_eq_ok {document : BundleDocument} {artifact : RenderedArtifact c}
    (hpath : normalizeSourcePath document.path = .ok document.path) :
    renderDocument c document = .ok artifact ↔ Renders document artifact := by
  obtain ⟨rendered, hok, hrenders⟩ := exists_rendered c hpath
  rw [hok]
  constructor
  · intro h
    exact Except.ok.inj h ▸ hrenders
  · intro h
    rw [hrenders.unique h]

/-- Documents at paths in normal form are rendered to their files. -/
theorem renderDocuments_eq_ok {documents : List BundleDocument}
    {artifacts : List (RenderedArtifact c)}
    (hpaths : ∀ document ∈ documents, normalizeSourcePath document.path = .ok document.path) :
    documents.mapM (renderDocument c) = .ok artifacts ↔
      List.Forall₂ Renders documents artifacts := by
  rw [mapM_eq_ok]
  induction documents generalizing artifacts with
  | nil => simp
  | cons document documents ih =>
      obtain ⟨hpath, hpaths⟩ := List.forall_mem_cons.1 hpaths
      simp only [List.forall₂_cons_left_iff, renderDocument_eq_ok hpath, ih hpaths]

theorem exists_renders (c : Codec) {documents : List BundleDocument}
    (hpaths : ∀ document ∈ documents, normalizeSourcePath document.path = .ok document.path) :
    ∃ artifacts : List (RenderedArtifact c), List.Forall₂ Renders documents artifacts := by
  have hok : ∀ document ∈ documents, ∃ artifact, renderDocument c document = .ok artifact := by
    intro document hmem
    obtain ⟨artifact, hrendered, -⟩ := exists_rendered c (hpaths document hmem)
    exact ⟨artifact, hrendered⟩
  obtain ⟨artifacts, h⟩ := exists_mapM_eq_ok hok
  exact ⟨artifacts, (renderDocuments_eq_ok hpaths).1 h⟩

theorem renders_unique {documents : List BundleDocument}
    {artifacts artifacts' : List (RenderedArtifact c)}
    (h : List.Forall₂ Renders documents artifacts)
    (h' : List.Forall₂ Renders documents artifacts') : artifacts = artifacts' := by
  induction h generalizing artifacts' with
  | nil =>
      cases h'
      rfl
  | cons hrenders _ ih =>
      cases h' with
      | cons hrenders' hrest => rw [hrenders.unique hrenders', ih hrest]

/-- The files of two lists of documents are those of each. -/
theorem renders_append {documents documents' : List BundleDocument}
    {artifacts : List (RenderedArtifact c)}
    (h : List.Forall₂ Renders (documents ++ documents') artifacts) :
    ∃ files files', List.Forall₂ Renders documents files ∧ List.Forall₂ Renders documents' files' ∧
      artifacts = files ++ files' := by
  induction documents generalizing artifacts with
  | nil => exact ⟨[], artifacts, .nil, h, rfl⟩
  | cons document documents ih =>
      obtain ⟨artifact, rest, hrenders, hrest, rfl⟩ := List.forall₂_cons_left_iff.1 h
      obtain ⟨files, files', hfiles, hfiles', rfl⟩ := ih hrest
      exact ⟨artifact :: files, files', .cons hrenders hfiles, hfiles', rfl⟩

theorem map_path_of_renders {documents : List BundleDocument}
    {artifacts : List (RenderedArtifact c)}
    (h : List.Forall₂ Renders documents artifacts) :
    artifacts.map RenderedArtifact.destinationPath = documents.map BundleDocument.path := by
  induction h with
  | nil => rfl
  | cons hrenders _ ih => rw [List.map_cons, List.map_cons, hrenders.destinationPath, ih]

/-! ## The files of a topology bundle -/

/-- The domains of a payload, in the order of their names. -/
def payloadDomains : List String := sortedBy id ((topologyPayloads {}).map Prod.fst)

/-- The paths of a bundle but for its manifest. -/
def contentPaths : List String :=
  payloadDomains.map topologyPayloadPath ++ ["packet.json", "receipts/validation-receipt.json"]

theorem payloadPath_eq (field : String) : topologyPayloadPath field =
    String.intercalate "/" ["payload", replaceChar '_' '-' field ++ ".json"] := by
  rw [← String.toList_inj]
  simp [topologyPayloadPath]

theorem payloadNames_plain :
    ∀ field ∈ (topologyPayloads {}).map Prod.fst,
      PortableName (replaceChar '_' '-' field ++ ".json") := by
  decide

/-- The path of a payload file is made of portable names. -/
theorem payloadPath_portable {field : String} (h : field ∈ (topologyPayloads {}).map Prod.fst) :
    ∀ name ∈ ["payload", replaceChar '_' '-' field ++ ".json"], PortableName name :=
  List.forall_mem_cons.2 ⟨by decide, List.forall_mem_singleton.2 (payloadNames_plain field h)⟩

theorem manifestDocument_normalized (logicalId : String) (artifactKind : ArtifactKind)
    (packetId : String) (manifest : PacketBundleManifest) :
    normalizeSourcePath (manifestDocument logicalId artifactKind packetId manifest).path =
      .ok (manifestDocument logicalId artifactKind packetId manifest).path := by
  show normalizeSourcePath "manifest.json" = .ok "manifest.json"
  decide

theorem map_fst_topologyPayloads (state : TopologyState) :
    (topologyPayloads state).map Prod.fst = (topologyPayloads {}).map Prod.fst := rfl

theorem map_fst_sorted_topologyPayloads (state : TopologyState) :
    (sortedBy Prod.fst (topologyPayloads state)).map Prod.fst = payloadDomains := by
  have hsorted : sortedBy id ((topologyPayloads state).map Prod.fst) =
      (sortedBy Prod.fst (topologyPayloads state)).map Prod.fst := sortedBy_map _ fun _ _ => rfl
  rw [← hsorted, map_fst_topologyPayloads]
  rfl

section Bundle

variable {packet : TopologyPacket} {state : TopologyState} {receipt : ValidationReceipt}
  {createdAt : Timestamp} {artifacts : List (RenderedArtifact c)}

/-- The documents of a bundle but for its manifest. -/
def bundleDocuments (packet : TopologyPacket) (state : TopologyState)
    (receipt : ValidationReceipt) : Except String (List BundleDocument) :=
  ((sortedBy Prod.fst (topologyPayloads state)).mapM (payloadDocument packet)).map fun payloads =>
    payloads ++ coreDocuments packet receipt

/-- The packet names a hash for every domain. -/
def NamesDomains (packet : TopologyPacket) : Prop :=
  ∀ domain ∈ payloadDomains, ∃ digest, packet.payloadHashes.lookup domain = some digest

theorem payloadDocument_path {domain : String × Json} {document : BundleDocument}
    (h : payloadDocument packet domain = .ok document) :
    document.path = topologyPayloadPath domain.1 := by
  simp only [payloadDocument, bind_eq_ok, pure_eq_ok] at h
  obtain ⟨digest, -, rfl⟩ := h
  rfl

theorem payloadDocuments_paths {domains : List (String × Json)} {documents : List BundleDocument}
    (h : domains.mapM (payloadDocument packet) = .ok documents) :
    documents.map BundleDocument.path = (domains.map Prod.fst).map topologyPayloadPath := by
  rw [mapM_eq_ok] at h
  induction h with
  | nil => rfl
  | cons hdocument _ ih => simp only [List.map_cons, payloadDocument_path hdocument, ih]

theorem payloadPath_normalized {field : String} (h : field ∈ payloadDomains) :
    normalizeSourcePath (topologyPayloadPath field) = .ok (topologyPayloadPath field) := by
  rw [payloadDomains, mem_sortedBy] at h
  rw [payloadPath_eq]
  exact normalizeSourcePath_of_portable (List.cons_ne_nil _ _) (payloadPath_portable h)

theorem contentPaths_normalized {path : String} (h : path ∈ contentPaths) :
    normalizeSourcePath path = .ok path := by
  rw [contentPaths, List.mem_append, List.mem_map] at h
  rcases h with ⟨field, hfield, rfl⟩ | hcore
  · exact payloadPath_normalized hfield
  · simp only [List.mem_cons, List.not_mem_nil, or_false] at hcore
    rcases hcore with rfl | rfl
    · decide
    · decide

theorem bundleDocuments_paths {documents : List BundleDocument}
    (h : bundleDocuments packet state receipt = .ok documents) :
    documents.map BundleDocument.path = contentPaths := by
  obtain ⟨payloads, hpayloads, rfl⟩ := map_eq_ok.1 h
  rw [List.map_append, payloadDocuments_paths hpayloads, map_fst_sorted_topologyPayloads]
  rfl

theorem bundleDocuments_normalized {documents : List BundleDocument}
    (h : bundleDocuments packet state receipt = .ok documents) :
    ∀ document ∈ documents, normalizeSourcePath document.path = .ok document.path := by
  intro document hmem
  refine contentPaths_normalized ?_
  rw [← bundleDocuments_paths h]
  exact List.mem_map_of_mem hmem

theorem exists_bundleDocuments (state : TopologyState) (receipt : ValidationReceipt)
    (hnames : NamesDomains packet) :
    ∃ documents, bundleDocuments packet state receipt = .ok documents := by
  have hall : ∀ domain ∈ sortedBy Prod.fst (topologyPayloads state),
      ∃ document, payloadDocument packet domain = .ok document := by
    intro domain hmem
    obtain ⟨digest, hdigest⟩ := hnames domain.1 (by
      rw [← map_fst_sorted_topologyPayloads state]
      exact List.mem_map_of_mem hmem)
    exact ⟨_, bind_eq_ok.2 ⟨digest, expect_eq_ok.2 hdigest, rfl⟩⟩
  obtain ⟨payloads, hpayloads⟩ := exists_mapM_eq_ok hall
  exact ⟨_, map_eq_ok.2 ⟨payloads, hpayloads, rfl⟩⟩

/-- The artifacts are the files of the bundle. -/
structure RendersBundle (packet : TopologyPacket) (state : TopologyState)
    (receipt : ValidationReceipt) (createdAt : Timestamp) (documents : List BundleDocument)
    (contents : List (RenderedArtifact c)) (manifest : RenderedArtifact c)
    (artifacts : List (RenderedArtifact c)) : Prop where
  passed : receipt.status = .passed
  documents_eq : bundleDocuments packet state receipt = .ok documents
  contents_render : List.Forall₂ Renders documents contents
  manifest_renders : Renders (manifestDocument "topology-bundle-manifest" .topologyPacket
    packet.packetId (topologyManifest c packet createdAt contents)) manifest
  artifacts_eq : artifacts = sortedBy RenderedArtifact.destinationPath (contents ++ [manifest])

/-- The paths of a bundle are always the same. -/
theorem RendersBundle.paths {documents : List BundleDocument} {contents : List (RenderedArtifact c)}
    {manifest : RenderedArtifact c}
    (h : RendersBundle packet state receipt createdAt documents contents manifest artifacts) :
    artifacts.map RenderedArtifact.destinationPath =
      sortedBy id (contentPaths ++ ["manifest.json"]) := by
  have hsorted : sortedBy id ((contents ++ [manifest]).map RenderedArtifact.destinationPath) =
      (sortedBy RenderedArtifact.destinationPath (contents ++ [manifest])).map
        RenderedArtifact.destinationPath := sortedBy_map _ fun _ _ => rfl
  rw [h.artifacts_eq, ← hsorted, List.map_append, map_path_of_renders h.contents_render,
    bundleDocuments_paths h.documents_eq, List.map_singleton, h.manifest_renders.destinationPath]
  rfl

/-- What a successful rendering returns. -/
theorem buildTopologyBundleArtifacts_eq_ok :
    buildTopologyBundleArtifacts c packet state receipt createdAt = .ok artifacts ↔
      ∃ documents contents manifest,
        RendersBundle packet state receipt createdAt documents contents manifest artifacts := by
  simp only [buildTopologyBundleArtifacts, bind_eq_ok, demand_eq_ok, pure_eq_ok]
  constructor
  · rintro ⟨_, hpassed, payloads, hpayloads, contents, hcontents, manifest, hmanifest, rfl⟩
    have hdocuments : bundleDocuments packet state receipt =
        .ok (payloads ++ coreDocuments packet receipt) := map_eq_ok.2 ⟨_, hpayloads, rfl⟩
    refine ⟨_, contents, manifest, hpassed, hdocuments, ?_, ?_, rfl⟩
    · exact (renderDocuments_eq_ok (bundleDocuments_normalized hdocuments)).1 hcontents
    · exact (renderDocument_eq_ok (manifestDocument_normalized _ _ _ _)).1 hmanifest
  · rintro ⟨documents, contents, manifest, h⟩
    have hnormalized := bundleDocuments_normalized h.documents_eq
    obtain ⟨payloads, hpayloads, heq⟩ := map_eq_ok.1 h.documents_eq
    refine ⟨(), h.passed, payloads, hpayloads, contents, ?_, manifest, ?_, h.artifacts_eq.symm⟩
    · rw [heq]
      exact (renderDocuments_eq_ok hnormalized).2 h.contents_render
    · exact (renderDocument_eq_ok (manifestDocument_normalized _ _ _ _)).2 h.manifest_renders

/-- **Rendering does not fail** for a packet that names its domains. -/
theorem exists_artifacts (c : Codec) (packet : TopologyPacket) (state : TopologyState)
    (receipt : ValidationReceipt) (createdAt : Timestamp) (hpassed : receipt.status = .passed)
    (hnames : NamesDomains packet) :
    ∃ artifacts, buildTopologyBundleArtifacts c packet state receipt createdAt = .ok artifacts := by
  obtain ⟨documents, hdocuments⟩ := exists_bundleDocuments state receipt hnames
  obtain ⟨contents, hcontents⟩ := exists_renders c (bundleDocuments_normalized hdocuments)
  obtain ⟨manifest, -, hmanifest⟩ := exists_rendered c (manifestDocument_normalized
    "topology-bundle-manifest" .topologyPacket packet.packetId
    (topologyManifest c packet createdAt contents))
  exact ⟨_, buildTopologyBundleArtifacts_eq_ok.2 ⟨documents, contents, manifest, hpassed,
    hdocuments, hcontents, hmanifest, rfl⟩⟩

end Bundle

end ConstellationTopology
