import ConstellationTopology.CompileIdentity
import ConstellationTopology.Io.PacketBundleOutputSink
import ConstellationTopology.Io.TreeDisk
import ConstellationTopology.Packets.BundleReading

set_option autoImplicit false

/-! # From the compiler to the loader

What `compile_topology` returns, `commit_compilation` writes, and `load_topology_bundle` reads back:
the same packet, the same receipt and the same payload, or nothing at all once a file was touched. -/

namespace ConstellationTopology

variable {env : CompileEnvironment} {configuration : ResolvedConfiguration}
  {inputs : List RepositoryInput} {corpora : List CorpusAnalysisPacket}

/-! ## The bundle of a result -/

namespace CompilationResult

variable {c : Codec} (result : CompilationResult c)

/-- The files the manifest lists. -/
def listed : List (RenderedArtifact c) :=
  result.artifacts.filter fun artifact => artifact.destinationPath ≠ "manifest.json"

/-- The manifest of the bundle. -/
def manifest : PacketBundleManifest :=
  topologyManifest c result.packet result.packet.createdAt result.listed

end CompilationResult

/-- The loader in the process of the compiler: the same serialization, and the data model of
topology packets. `TopologyState.model_validate` is a parameter. -/
def compiledReader (env : CompileEnvironment) (base : BundleReader)
    (payloadModel : List (String × Json) → Option Json) : BundleReader :=
  { base with
    codec := env.codec
    topology := topologyPacketModel base.pydantic base.now payloadModel }

/-- The paths of a bundle in the order of the payload fields. -/
def bundlePaths : List String :=
  (topologyPayloads {}).map (fun domain => topologyPayloadPath domain.1) ++
    ["packet.json", "receipts/validation-receipt.json", "manifest.json"]

theorem bundlePaths_nodup : bundlePaths.Nodup := by decide

theorem contentPaths_perm : (contentPaths ++ ["manifest.json"]).Perm bundlePaths := by
  have hdomains : (payloadDomains.map topologyPayloadPath).Perm
      ((topologyPayloads {}).map fun domain => topologyPayloadPath domain.1) := by
    have hsorted := (sortedBy_perm id ((topologyPayloads {}).map Prod.fst)).map topologyPayloadPath
    rwa [List.map_map] at hsorted
  rw [contentPaths, List.append_assoc]
  exact hdomains.append_right _

section Compiled

variable {timestamp : Timestamp} {profile : ProfileRef} {result : CompilationResult env.codec}

theorem Compiled.coherent
    (h : Compiled env configuration inputs corpora timestamp profile result) :
    Coherent env.codec result.packet result.state result.receipt := by
  have hconsistent := h.selfConsistent
  refine ⟨hconsistent.semanticHash, ?_, hconsistent.payloadHashes, ?_, hconsistent.receipt,
    h.passed, hconsistent.subject.1, hconsistent.subject.2⟩
  · rw [h.packet_eq]
    rfl
  · rw [h.packet_eq]
    rfl

/-- What the artifacts of a result are the files of. -/
theorem Compiled.exists_bundle
    (h : Compiled env configuration inputs corpora timestamp profile result) :
    ∃ documents contents manifestFile, RendersBundle result.packet result.state result.receipt
      result.packet.createdAt documents contents manifestFile result.artifacts := by
  have htime : result.packet.createdAt = timestamp := by
    rw [h.packet_eq]
    rfl
  rw [htime]
  exact buildTopologyBundleArtifacts_eq_ok.1 h.artifacts_eq

end Compiled

section Bundle

variable {c : Codec} {result : CompilationResult c} {documents : List BundleDocument}
  {contents : List (RenderedArtifact c)} {manifestFile : RenderedArtifact c}

/-- The listed files are the contents in the order of their paths. -/
theorem listed_perm
    (h : RendersBundle result.packet result.state result.receipt result.packet.createdAt documents
      contents manifestFile result.artifacts) : result.listed.Perm contents := by
  have hcontents : ∀ artifact ∈ contents, artifact.destinationPath ≠ "manifest.json" := by
    intro artifact hartifact heq
    have hpaths : contents.map RenderedArtifact.destinationPath = contentPaths := by
      rw [map_path_of_renders h.contents_render, bundleDocuments_paths h.documents_eq]
    have hmem : "manifest.json" ∈ contentPaths := by
      rw [← hpaths, ← heq]
      exact List.mem_map_of_mem hartifact
    have hnodup := contentPaths_perm.nodup_iff.2 bundlePaths_nodup
    rw [List.nodup_append] at hnodup
    exact hnodup.2.2 _ hmem _ (List.mem_singleton.2 rfl) rfl
  have hkept : (contents ++ [manifestFile]).filter
      (fun artifact => artifact.destinationPath ≠ "manifest.json") = contents := by
    have hmanifest : manifestFile.destinationPath = "manifest.json" :=
      h.manifest_renders.destinationPath
    rw [List.filter_append, List.filter_eq_self.2 fun artifact hartifact => by
      simpa using hcontents artifact hartifact]
    simp [hmanifest]
  have hsorted := (sortedBy_perm RenderedArtifact.destinationPath
    (contents ++ [manifestFile])).filter fun artifact => artifact.destinationPath ≠ "manifest.json"
  rwa [hkept, ← h.artifacts_eq] at hsorted

theorem manifest_eq
    (h : RendersBundle result.packet result.state result.receipt result.packet.createdAt documents
      contents manifestFile result.artifacts) :
    result.manifest = topologyManifest c result.packet result.packet.createdAt contents := by
  have hpaths : (result.listed.map RenderedArtifact.destinationPath).Nodup := by
    refine List.Nodup.sublist (List.filter_sublist.map _) ?_
    rw [h.paths, (sortedBy_perm _ _).nodup_iff, contentPaths_perm.nodup_iff]
    exact bundlePaths_nodup
  have hsorted : sortedBy RenderedArtifact.destinationPath result.listed =
      sortedBy RenderedArtifact.destinationPath contents :=
    sortedBy_congr (fun _ hx _ hy heq => List.inj_on_of_nodup_map hpaths hx hy heq) (listed_perm h)
  rw [CompilationResult.manifest, topologyManifest, topologyManifest, manifestOf, manifestOf,
    hsorted]

end Bundle

/-! ## Loading a compiled bundle -/

section Loading

variable {createdAt : Option Timestamp} {result : CompilationResult env.codec}
  {base : BundleReader} {payloadModel : List (String × Json) → Option Json}
  {disk : LinkedDisk} {path root : Path}

/-- The loader and a result whose manifest is on the disk. -/
theorem Compiled.loads_iff {timestamp : Timestamp} {profile : ProfileRef}
    (h : Compiled env configuration inputs corpora timestamp profile result)
    (hfaithful : env.codec.Faithful)
    (hreads : ReadsBundle (compiledReader env base payloadModel) result.packet result.state
      result.receipt result.manifest)
    (hroot : disk.resolve path = some root)
    (hwritten : ManifestWritten (compiledReader env base payloadModel) disk root result.manifest) :
    ((∃ bundle, loadTopologyBundle (compiledReader env base payloadModel) disk path = .ok bundle) ↔
      (∀ artifact ∈ result.listed, Untouched disk root artifact) ∧
        (disk.openFile (joinPath root "packet.json")).isSome = true ∧
        (payloadModel (canonicalPayloads result.state)).isSome = true) ∧
    ∀ bundle, loadTopologyBundle (compiledReader env base payloadModel) disk path = .ok bundle →
      ∃ loadedState, payloadModel (canonicalPayloads result.state) = some loadedState ∧
        LoadedAs result.packet result.receipt loadedState result.manifest root bundle := by
  obtain ⟨documents, contents, manifestFile, hbundle⟩ := h.exists_bundle
  have hlisted : (∀ artifact ∈ result.listed, Untouched disk root artifact) ↔
      ∀ artifact ∈ contents, Untouched disk root artifact := by
    simp only [(listed_perm hbundle).mem_iff]
  rw [hlisted]
  rw [manifest_eq hbundle] at hreads hwritten ⊢
  exact loadTopologyBundle_iff (compiledReader env base payloadModel) hbundle hfaithful rfl
    h.coherent hreads hroot hwritten

/-- **A compiled bundle comes back, or nothing does.** Once its manifest is on the disk, the loader
accepts the directory exactly if every file of the result is there byte for byte, `packet.json` can
be opened, and `TopologyState` accepts the payload of the compile as it was written; what it then
returns is the packet, the receipt and what the model makes of that payload. -/
theorem compiled_loads_iff (hfaithful : env.codec.Faithful)
    (hcompile : compileTopology env configuration inputs corpora createdAt = .ok result)
    (hreads : ReadsBundle (compiledReader env base payloadModel) result.packet result.state
      result.receipt result.manifest)
    (hroot : disk.resolve path = some root)
    (hwritten : ManifestWritten (compiledReader env base payloadModel) disk root result.manifest) :
    ((∃ bundle, loadTopologyBundle (compiledReader env base payloadModel) disk path = .ok bundle) ↔
      (∀ artifact ∈ result.listed, Untouched disk root artifact) ∧
        (disk.openFile (joinPath root "packet.json")).isSome = true ∧
        (payloadModel (canonicalPayloads result.state)).isSome = true) ∧
    ∀ bundle, loadTopologyBundle (compiledReader env base payloadModel) disk path = .ok bundle →
      ∃ loadedState, payloadModel (canonicalPayloads result.state) = some loadedState ∧
        LoadedAs result.packet result.receipt loadedState result.manifest root bundle := by
  obtain ⟨profile, h⟩ := compileTopology_eq_ok.1 hcompile
  exact h.loads_iff hfaithful hreads hroot hwritten

end Loading

/-! ## Committing -/

/-- `commit_compilation` into an atomic bundle sink that nothing was enqueued for. -/
def commitCompilation {c : Codec} (sink : PacketBundleOutputSink) (result : CompilationResult c)
    (faults : BundleFaults) (now : Timestamp) (tree : FileTree) :
    Except String CommitReceipt × FileTree :=
  if result.receipt.status ≠ .passed then
    (.error "failed validation may not be committed", tree)
  else
    sink.commit (result.artifacts.map fun artifact => { artifact }) faults now tree

theorem payloadNames_noNull : ∀ field ∈ (topologyPayloads {}).map Prod.fst,
    '\x00' ∉ (replaceChar '_' '-' field ++ ".json").toList := by decide

theorem bundlePaths_plain : ∀ path ∈ bundlePaths, PlainReference path := by
  have hcore : ∀ path ∈ ["packet.json", "receipts/validation-receipt.json", "manifest.json"],
      ∃ names : List String, names ≠ [] ∧ (∀ name ∈ names, PortableName name) ∧
        (∀ name ∈ names, '\x00' ∉ name.toList) ∧ path = String.intercalate "/" names := by
    intro path hpath
    simp only [List.mem_cons, List.not_mem_nil, or_false] at hpath
    rcases hpath with rfl | rfl | rfl
    · exact ⟨["packet.json"], by decide, by decide, by decide, by decide⟩
    · exact ⟨["receipts", "validation-receipt.json"], by decide, by decide, by decide, by decide⟩
    · exact ⟨["manifest.json"], by decide, by decide, by decide, by decide⟩
  intro path hpath
  rcases List.mem_append.1 hpath with hpayload | hrest
  · obtain ⟨domain, hdomain, rfl⟩ := List.mem_map.1 hpayload
    have hfield := List.mem_map_of_mem (f := Prod.fst) hdomain
    rw [payloadPath_eq]
    exact plainReference_of_portable (List.cons_ne_nil _ _) (payloadPath_portable hfield)
      (List.forall_mem_cons.2 ⟨by decide,
        List.forall_mem_singleton.2 (payloadNames_noNull _ hfield)⟩)
  · obtain ⟨names, hne, hportable, hnull, rfl⟩ := hcore path hrest
    exact plainReference_of_portable hne hportable hnull

/-- Every file of the bundle is in the directory. -/
def Written {c : Codec} (result : CompilationResult c) (root : Path) (tree : FileTree) : Prop :=
  ∀ artifact ∈ result.artifacts,
    tree.readFile? (resolvePath root artifact.destinationPath) = some artifact.content.toUTF8

/-- A passed commit has written the bundle. -/
theorem commitCompilation_written {c : Codec} (hfaithful : c.Faithful)
    {sink : PacketBundleOutputSink} {result : CompilationResult c} {faults : BundleFaults}
    {now : Timestamp} {tree tree' : FileTree} {receipt : CommitReceipt} (hmode : sink.mode = .write)
    (hcommit : commitCompilation sink result faults now tree = (.ok receipt, tree'))
    (hpassed : receipt.status = .passed) : Written result sink.bundleRoot tree' := by
  unfold commitCompilation at hcommit
  split at hcommit
  · cases hcommit
  · have hrequired : ∀ intent ∈ result.artifacts.map fun artifact : RenderedArtifact c =>
        ({ artifact } : WriteIntent c), intent.required = true := by
      intro intent hintent
      obtain ⟨artifact, -, rfl⟩ := List.mem_map.1 hintent
      rfl
    obtain ⟨-, hplace⟩ := sink.commit_passed hmode hrequired hcommit hpassed
    intro artifact hartifact
    have hhash := hplace _ (List.mem_map_of_mem hartifact)
    obtain ⟨content, hread, hsame⟩ := Option.map_eq_some_iff.1 hhash
    have hsame : c.artifactHash content = artifact.contentHash := hsame
    rw [artifact.contentHash_matches, hfaithful.artifactHash_inj] at hsame
    rw [← hsame]
    exact hread

section Reading

variable {createdAt : Option Timestamp} {result : CompilationResult env.codec}
  {base : BundleReader} {payloadModel : List (String × Json) → Option Json} {loadedState : Json}
  {root : Path} {tree : FileTree}

theorem mem_bundlePaths
    (hcompile : compileTopology env configuration inputs corpora createdAt = .ok result)
    {artifact : RenderedArtifact env.codec} (hartifact : artifact ∈ result.artifacts) :
    artifact.destinationPath ∈ bundlePaths := by
  obtain ⟨profile, h⟩ := compileTopology_eq_ok.1 hcompile
  obtain ⟨documents, contents, manifestFile, hbundle⟩ := h.exists_bundle
  have hpath := List.mem_map_of_mem (f := RenderedArtifact.destinationPath) hartifact
  rw [hbundle.paths, mem_sortedBy] at hpath
  exact contentPaths_perm.mem_iff.1 hpath

/-- A written bundle is found by the loader: its manifest, the files that lists, and the packet. -/
theorem written_stored
    (hcompile : compileTopology env configuration inputs corpora createdAt = .ok result)
    (hroot : ∀ segment ∈ root, LinkedDisk.Named segment) (htree : tree.Hierarchical)
    (hwritten : Written result root tree) :
    ManifestWritten (compiledReader env base payloadModel) tree.disk root result.manifest ∧
      (∀ artifact ∈ result.listed, Untouched tree.disk root artifact) ∧
      (tree.disk.openFile (joinPath root "packet.json")).isSome = true := by
  obtain ⟨profile, h⟩ := compileTopology_eq_ok.1 hcompile
  obtain ⟨documents, contents, manifestFile, hbundle⟩ := h.exists_bundle
  have hplain : ∀ artifact ∈ result.artifacts, PlainReference artifact.destinationPath :=
    fun _ hartifact => bundlePaths_plain _ (mem_bundlePaths hcompile hartifact)
  have hopened : ∀ artifact ∈ result.artifacts,
      tree.disk.openFile (joinPath root artifact.destinationPath) =
        some ⟨root ++ pathParts artifact.destinationPath, artifact.content.toUTF8⟩ := by
    intro artifact hartifact
    rw [joinPath_plain root (hplain artifact hartifact)]
    exact (openFile_plain htree hroot (hplain artifact hartifact) (hwritten artifact hartifact)).2
  refine ⟨?_, ?_, ?_⟩
  · have hmem : manifestFile ∈ result.artifacts := by
      rw [hbundle.artifacts_eq, mem_sortedBy]
      exact List.mem_append_right _ List.mem_cons_self
    have hopen := hopened manifestFile hmem
    rw [hbundle.manifest_renders.destinationPath, hbundle.manifest_renders.content] at hopen
    rw [manifest_eq hbundle]
    exact ⟨_, hopen⟩
  · intro artifact hartifact
    have hmem := (List.mem_filter.1 hartifact).1
    exact storedAt_disk htree hroot (hplain artifact hmem) (hwritten artifact hmem)
  · have hpath : "packet.json" ∈ result.artifacts.map RenderedArtifact.destinationPath := by
      rw [hbundle.paths, mem_sortedBy, contentPaths_perm.mem_iff]
      decide
    obtain ⟨artifact, hartifact, heq⟩ := List.mem_map.1 hpath
    rw [← heq, hopened artifact hartifact, Option.isSome_some]

/-- A written bundle is loaded as what was compiled. -/
theorem loads_of_written (hfaithful : env.codec.Faithful)
    (hcompile : compileTopology env configuration inputs corpora createdAt = .ok result)
    (hreads : ReadsBundle (compiledReader env base payloadModel) result.packet result.state
      result.receipt result.manifest)
    (hstate : payloadModel (canonicalPayloads result.state) = some loadedState)
    (hroot : ∀ segment ∈ root, LinkedDisk.Named segment) (htree : tree.Hierarchical)
    (hwritten : Written result root tree) :
    ∃ bundle, loadTopologyBundle (compiledReader env base payloadModel) tree.disk root =
        .ok bundle ∧
      LoadedAs result.packet result.receipt loadedState result.manifest root bundle := by
  have hstored : ManifestWritten (compiledReader env base payloadModel) tree.disk root
      result.manifest ∧ _ := written_stored hcompile hroot htree hwritten
  obtain ⟨hmanifest, hlisted, hpacket⟩ := hstored
  obtain ⟨profile, h⟩ := compileTopology_eq_ok.1 hcompile
  obtain ⟨documents, contents, manifestFile, hbundle⟩ := h.exists_bundle
  have huntouched : ∀ artifact ∈ contents, Untouched tree.disk root artifact :=
    fun artifact hartifact => hlisted artifact ((listed_perm hbundle).mem_iff.2 hartifact)
  rw [manifest_eq hbundle] at hreads hmanifest ⊢
  exact loadTopologyBundle_stored (compiledReader env base payloadModel) hbundle hfaithful rfl
    h.coherent hreads hstate (FileTree.plain_disk hroot).resolve hmanifest huntouched hpacket

/-- **What was committed is loaded.** After a passed commit the loader returns the packet, the
receipt and the payload of the compile, whether the commit wrote the bundle or found it there. -/
theorem commitCompilation_loads (hfaithful : env.codec.Faithful)
    (hcompile : compileTopology env configuration inputs corpora createdAt = .ok result)
    (hreads : ReadsBundle (compiledReader env base payloadModel) result.packet result.state
      result.receipt result.manifest)
    (hstate : payloadModel (canonicalPayloads result.state) = some loadedState)
    {sink : PacketBundleOutputSink} {faults : BundleFaults} {now : Timestamp} {tree' : FileTree}
    {receipt : CommitReceipt} (hmode : sink.mode = .write)
    (hroot : ∀ segment ∈ sink.bundleRoot, LinkedDisk.Named segment) (htree : tree'.Hierarchical)
    (hcommit : commitCompilation sink result faults now tree = (.ok receipt, tree'))
    (hpassed : receipt.status = .passed) :
    ∃ bundle, loadTopologyBundle (compiledReader env base payloadModel) tree'.disk sink.bundleRoot =
        .ok bundle ∧
      LoadedAs result.packet result.receipt loadedState result.manifest sink.bundleRoot bundle :=
  loads_of_written hfaithful hcompile hreads hstate hroot htree
    (commitCompilation_written hfaithful hmode hcommit hpassed)

end Reading

/-! A directory with the bundle of a compile that observed nothing. -/

def markedEnvironment : CompileEnvironment := { plainEnvironment with codec := markCodec }

open Classical in
/-- The document that has a text. -/
noncomputable def loadsMarked (text : String) : Except String Json :=
  if h : ∃ value, documentText markCodec value = text then .ok h.choose.canonicalData
  else .error "Expecting value"

theorem loadsMarked_documentText (value : Json) :
    loadsMarked (documentText markCodec value) = .ok value.canonicalData := by
  have hprinted : ∃ other, documentText markCodec other = documentText markCodec value :=
    ⟨value, rfl⟩
  have htext := (String.append_left_inj _).1 hprinted.choose_spec
  rw [loadsMarked, dif_pos hprinted, markCodec_faithful.dumps_inj _ _ htext]

noncomputable def markedReader : BundleReader where
  loads := loadsMarked
  decode := String.fromUTF8?
  pydantic := plainPydantic
  codec := markCodec
  now := canonicalCreatedAt
  repositoryModel := draftModel
  topology := draftModel
  corpusIntelligence := draftModel

theorem markedReader_reads (payloadModel : List (String × Json) → Option Json) (value : Json) :
    ReadsDocument (compiledReader markedEnvironment markedReader payloadModel) value where
  loads := loadsMarked_documentText value
  decodes := fromUTF8?_toUTF8 _
  escaped := by
    show '\r' ∉ (documentText markCodec value).toList
    rw [documentText, String.toList_append, List.mem_append]
    rintro (hmark | hbreak)
    · rcases mem_markCodec hmark with h | h
      · cases h
      · cases h
    · revert hbreak
      decide

theorem markedReader_readsBundle {c : Codec} (result : CompilationResult c)
    (payloadModel : List (String × Json) → Option Json) :
    ReadsBundle (compiledReader markedEnvironment markedReader payloadModel) result.packet
      result.state result.receipt result.manifest :=
  ⟨markedReader_reads _ _, markedReader_reads _ _, markedReader_reads _ _,
    fun _ _ => markedReader_reads _ _⟩

/-- The files of a result below a directory. -/
def bundleTree {c : Codec} (result : CompilationResult c) (root : Path) : FileTree :=
  Table.ofRows FileEntry.path (result.artifacts.map fun artifact =>
    ⟨resolvePath root artifact.destinationPath, .file artifact.content.toUTF8⟩)

/-- Where the files of a bundle are. -/
theorem pathParts_bundlePaths : ∀ path ∈ bundlePaths,
    (∃ name, pathParts path = ["payload", name]) ∨
      pathParts path = ["receipts", "validation-receipt.json"] ∨
      pathParts path = ["packet.json"] ∨ pathParts path = ["manifest.json"] := by
  intro path hpath
  rcases List.mem_append.1 hpath with hpayload | hrest
  · obtain ⟨domain, hdomain, rfl⟩ := List.mem_map.1 hpayload
    have hfield := List.mem_map_of_mem (f := Prod.fst) hdomain
    rw [payloadPath_eq,
      pathParts_of_portable (List.cons_ne_nil _ _) (payloadPath_portable hfield)]
    exact Or.inl ⟨_, rfl⟩
  · simp only [List.mem_cons, List.not_mem_nil, or_false] at hrest
    rcases hrest with rfl | rfl | rfl
    · exact Or.inr (Or.inr (Or.inl (by decide)))
    · exact Or.inr (Or.inl (by decide))
    · exact Or.inr (Or.inr (Or.inr (by decide)))

/-- No file of a bundle lies below another. -/
theorem eq_of_pathParts_prefix {path path' : String} (hpath : path ∈ bundlePaths)
    (hpath' : path' ∈ bundlePaths) (h : pathParts path <+: pathParts path') :
    pathParts path = pathParts path' := by
  rcases pathParts_bundlePaths path hpath with ⟨name, hparts⟩ | hparts | hparts | hparts <;>
    rcases pathParts_bundlePaths path' hpath' with ⟨name', hparts'⟩ | hparts' | hparts' | hparts' <;>
    simp_all

section BundleTree

variable {createdAt : Option Timestamp} {result : CompilationResult env.codec} {root : Path}

theorem resolvePath_artifact
    (hcompile : compileTopology env configuration inputs corpora createdAt = .ok result)
    {artifact : RenderedArtifact env.codec} (hartifact : artifact ∈ result.artifacts) :
    resolvePath root artifact.destinationPath = root ++ pathParts artifact.destinationPath :=
  resolvePath_plain root (bundlePaths_plain _ (mem_bundlePaths hcompile hartifact))

/-- Two files of a bundle have two places. -/
theorem targets_nodup
    (hcompile : compileTopology env configuration inputs corpora createdAt = .ok result) :
    (result.artifacts.map fun artifact => resolvePath root artifact.destinationPath).Nodup := by
  obtain ⟨profile, h⟩ := compileTopology_eq_ok.1 hcompile
  obtain ⟨documents, contents, manifestFile, hbundle⟩ := h.exists_bundle
  have hpaths : (result.artifacts.map RenderedArtifact.destinationPath).Nodup := by
    rw [hbundle.paths, (sortedBy_perm _ _).nodup_iff, contentPaths_perm.nodup_iff]
    exact bundlePaths_nodup
  have hpure : ∀ artifact : RenderedArtifact env.codec,
      purePosixPath artifact.destinationPath = artifact.destinationPath := by
    intro artifact
    obtain ⟨raw, hraw⟩ := artifact.destination_normalized
    obtain ⟨-, -, heq, -, -⟩ := normalizeSourcePath_ok_iff.1 hraw
    rw [← heq, purePosixPath_idem]
  refine List.Nodup.map_on ?_ hpaths.of_map
  intro artifact hartifact other hother heq
  rw [resolvePath_artifact hcompile hartifact, resolvePath_artifact hcompile hother,
    List.append_cancel_left_eq] at heq
  refine List.inj_on_of_nodup_map hpaths hartifact hother ?_
  rw [← hpure artifact, ← hpure other, purePosixPath_eq, purePosixPath_eq, heq]

theorem bundleTree_written
    (hcompile : compileTopology env configuration inputs corpora createdAt = .ok result) :
    Written result root (bundleTree result root) := by
  intro artifact hartifact
  have hkeys : ((result.artifacts.map fun artifact : RenderedArtifact env.codec =>
      FileEntry.mk (resolvePath root artifact.destinationPath)
        (.file artifact.content.toUTF8)).map FileEntry.path).Nodup := by
    rw [List.map_map]
    exact targets_nodup hcompile
  have hlookup := (Table.lookup_ofRows_of_nodup hkeys _ _).2
    ⟨List.mem_map_of_mem hartifact, rfl⟩
  rw [FileTree.readFile?, bundleTree, hlookup]

theorem bundleTree_hierarchical
    (hcompile : compileTopology env configuration inputs corpora createdAt = .ok result) :
    (bundleTree result root).Hierarchical := by
  have hrows : ∀ entry ∈ (bundleTree result root).rows, ∃ artifact ∈ result.artifacts,
      entry.path = root ++ pathParts artifact.destinationPath := by
    intro entry hentry
    obtain ⟨hmem, -⟩ := Table.mem_of_lookup_ofRows ((Table.mem_rows_iff _ _).1 hentry)
    obtain ⟨artifact, hartifact, rfl⟩ := List.mem_map.1 hmem
    exact ⟨artifact, hartifact, resolvePath_artifact hcompile hartifact⟩
  intro entry hentry above habove hne
  cases hread : (bundleTree result root).readFile? above with
  | none => rfl
  | some content =>
      obtain ⟨artifact, hartifact, hpath⟩ := hrows entry hentry
      obtain ⟨other, hother, hplace⟩ := hrows _ (FileTree.readFile?_eq_some_iff.1 hread)
      dsimp only at hplace
      rw [hpath, hplace, List.prefix_append_right_inj] at habove
      have hsame := eq_of_pathParts_prefix (mem_bundlePaths hcompile hother)
        (mem_bundlePaths hcompile hartifact) habove
      exact absurd (by rw [hplace, hpath, hsame]) hne

end BundleTree

/-- A payload model that keeps the domains as they were read. -/
def keptPayload (parts : List (String × Json)) : Option Json := some (.obj parts)

/-- Such a directory is loaded. -/
theorem compiled_loads_notes :
    ∃ (result : CompilationResult markedEnvironment.codec) (disk : LinkedDisk)
      (bundle : PacketBundle),
      compileTopology markedEnvironment plainConfiguration [planInput markCodec]
          [proposedNotes markCodec] none = .ok result ∧
        loadTopologyBundle (compiledReader markedEnvironment markedReader keptPayload) disk
          ["bundle"] = .ok bundle ∧
        LoadedAs result.packet result.receipt (.obj (canonicalPayloads result.state))
          result.manifest ["bundle"] bundle := by
  obtain ⟨result, hcompile⟩ : ∃ result : CompilationResult markedEnvironment.codec,
    compileTopology markedEnvironment plainConfiguration [planInput markCodec]
      [proposedNotes markCodec] none = .ok result :=
    notes_compiled markCodec _ _ plainEnvironment.policies markCodec_faithful none
  have hroot : ∀ segment ∈ ["bundle"], LinkedDisk.Named segment := by
    intro segment hsegment
    rw [List.mem_singleton.1 hsegment]
    exact ⟨by decide, by decide, by decide, by decide⟩
  have hstored : ManifestWritten (compiledReader markedEnvironment markedReader keptPayload)
      (bundleTree result ["bundle"]).disk ["bundle"] result.manifest ∧ _ :=
    written_stored hcompile hroot (bundleTree_hierarchical hcompile) (bundleTree_written hcompile)
  obtain ⟨hmanifest, hlisted, hpacket⟩ := hstored
  have hloads := compiled_loads_iff markCodec_faithful hcompile
    (markedReader_readsBundle result keptPayload)
    (FileTree.plain_disk hroot).resolve hmanifest
  obtain ⟨bundle, hbundle⟩ := hloads.1.2 ⟨hlisted, hpacket, rfl⟩
  obtain ⟨loadedState, hstate, hloaded⟩ := hloads.2 bundle hbundle
  obtain rfl : Json.obj (canonicalPayloads result.state) = loadedState := Option.some.inj hstate
  exact ⟨result, _, bundle, hcompile, hbundle, hloaded⟩

end ConstellationTopology
