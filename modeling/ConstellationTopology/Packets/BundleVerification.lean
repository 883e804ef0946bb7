import ConstellationTopology.Packets.BundleRendering
import ConstellationTopology.Packets.ManifestBinding

set_option autoImplicit false

/-! # What a written manifest accepts

A manifest lists the files it was rendered with, by the hash and the size of their bytes. Read back
from the disk, it accepts a directory exactly if each of these files is there as it was rendered
(`verifyBundleManifest_iff`). -/

namespace ConstellationTopology

variable {reader : BundleReader} {disk : LinkedDisk} {root : Path}

/-! ## Reading back a document -/

/-- The JSON library reads a document as the data it was printed from, and prints no line end but the
one at the end of the file. -/
structure ReadsDocument (reader : BundleReader) (value : Json) : Prop where
  loads : reader.loads (documentText reader.codec value) = .ok value.canonicalData
  decodes : reader.decode (documentText reader.codec value).toUTF8 =
    some (documentText reader.codec value)
  escaped : '\r' ∉ (documentText reader.codec value).toList

theorem readJson_document {path location : Path} {value : Json} (h : ReadsDocument reader value)
    (hopen : disk.openFile path = some ⟨location, (documentText reader.codec value).toUTF8⟩) :
    readJson reader disk path =
      .ok (⟨location, (documentText reader.codec value).toUTF8⟩, value.canonicalData) := by
  have hlines : String.ofList (universalNewlines (documentText reader.codec value).toList) =
      documentText reader.codec value := by
    rw [universalNewlines_of_not_mem h.escaped, String.ofList_toList]
  simp only [readJson, hopen, expect, fromUTF8?_toUTF8, hlines, h.loads, bind, pure, Except.bind,
    Except.pure, Except.mapError]

theorem PacketFileEntry.ofJson_toJson (pydantic : Pydantic) (entry : PacketFileEntry) :
    ofJson pydantic entry.toJson.canonicalData = some entry := by
  have hkeys : forbidExtra ["path", "media_type", "content_hash", "size_bytes"]
      entry.toJson.canonicalData = some () := forbidExtra_canonicalData _ _ (by simp)
  have hsize : (entry.toJson.canonicalData.get? "size_bytes").bind (readCount pydantic) =
      some entry.sizeBytes := by
    rw [Json.get?_canonicalData]
    show readCount pydantic (.int entry.sizeBytes) = _
    simp [readCount, pydantic.int_int]
  simp only [ofJson, hkeys, Json.fieldText?_canonicalData, hsize]
  rfl

/-- A manifest comes back from its own data. -/
theorem PacketBundleManifest.ofJson_toJson (pydantic : Pydantic) (now : Timestamp)
    (manifest : PacketBundleManifest) :
    ofJson pydantic now manifest.toJson.canonicalData = some manifest := by
  have hkeys : forbidExtra ["manifest_version", "packet_id", "packet_type", "packet_version",
      "semantic_hash", "artifact_hash", "files", "created_at"] manifest.toJson.canonicalData =
        some () := forbidExtra_canonicalData _ _ (by simp)
  have hversion : defaultedText "manifest_version" "1.0.0" manifest.toJson.canonicalData =
      some manifest.manifestVersion := by
    rw [defaultedText, Json.get?_canonicalData]
    rfl
  have hfiles : manifest.toJson.canonicalData.get? "files" =
      some (.arr (Json.canonicalItems (manifest.files.map PacketFileEntry.toJson))) := by
    rw [Json.get?_canonicalData]
    rfl
  have htime : defaultedTime pydantic now "created_at" manifest.toJson.canonicalData =
      some manifest.createdAt := by
    rw [defaultedTime, Json.get?_canonicalData]
    exact pydantic.datetime_isoformat _
  simp only [ofJson, hkeys, Json.fieldText?_canonicalData, hversion, hfiles, htime,
    mapM_ofJson_toJson (PacketFileEntry.ofJson_toJson pydantic)]
  rfl

/-! ## Files as they were rendered -/

/-- What the loader reads at a path of the bundle. -/
def StoredAt (disk : LinkedDisk) (root : Path) (path : String) (content : ByteArray) : Prop :=
  ∃ member, readMember disk root path = .ok member ∧ member.file.content = content

/-- The file of an artifact is there as it was rendered. -/
def Untouched {c : Codec} (disk : LinkedDisk) (root : Path) (artifact : RenderedArtifact c) : Prop :=
  StoredAt disk root artifact.destinationPath artifact.content.toUTF8

theorem StoredAt.unique {path : String} {content content' : ByteArray}
    (h : StoredAt disk root path content) (h' : StoredAt disk root path content') :
    content = content' := by
  obtain ⟨member, hread, rfl⟩ := h
  obtain ⟨member', hread', rfl⟩ := h'
  obtain rfl := Except.ok.inj (hread.symm.trans hread')
  rfl

theorem verifyBundleMember_eq_ok {entry : PacketFileEntry} {u : Unit} :
    verifyBundleMember reader disk root entry = .ok u ↔
      ∃ content, StoredAt disk root entry.path content ∧
        reader.codec.artifactHash content = entry.contentHash ∧
        content.size = entry.sizeBytes := by
  simp only [verifyBundleMember, bind_eq_ok, demand_eq_ok]
  constructor
  · rintro ⟨member, hread, _, hhash, hsize⟩
    exact ⟨_, ⟨member, hread, rfl⟩, hhash, hsize⟩
  · rintro ⟨_, ⟨member, hread, rfl⟩, hhash, hsize⟩
    exact ⟨member, hread, (), hhash, hsize⟩

/-- No other content has the hash of an artifact. -/
theorem verifyBundleMember_fileEntry (hc : reader.codec.Faithful)
    (artifact : RenderedArtifact reader.codec) {u : Unit} :
    verifyBundleMember reader disk root (fileEntry reader.codec artifact) = .ok u ↔
      Untouched disk root artifact := by
  rw [verifyBundleMember_eq_ok]
  constructor
  · rintro ⟨content, hstored, hhash, -⟩
    have hhash : reader.codec.artifactHash content = artifact.contentHash := hhash
    rw [artifact.contentHash_matches, hc.artifactHash_inj] at hhash
    subst hhash
    exact hstored
  · intro h
    exact ⟨_, h, artifact.contentHash_matches.symm, rfl⟩

/-! ## The manifest of some artifacts -/

/-- `manifest.json` holds the document of a manifest. -/
def ManifestWritten (reader : BundleReader) (disk : LinkedDisk) (root : Path)
    (manifest : PacketBundleManifest) : Prop :=
  ∃ location, disk.openFile (joinPath root "manifest.json") =
    some ⟨location, (documentText reader.codec manifest.toJson).toUTF8⟩

theorem readBundleManifest_written {manifest : PacketBundleManifest}
    (h : ReadsDocument reader manifest.toJson) (hwritten : ManifestWritten reader disk root manifest) :
    readBundleManifest reader disk root = .ok manifest := by
  obtain ⟨location, hopen⟩ := hwritten
  rw [readBundleManifest, readJson_document h hopen]
  show expect (PacketBundleManifest.ofJson reader.pydantic reader.now
    manifest.toJson.canonicalData) _ = _
  rw [PacketBundleManifest.ofJson_toJson]
  rfl

/-- The manifest was made of these artifacts. -/
structure ManifestOf (c : Codec) (artifacts : List (RenderedArtifact c))
    (manifest : PacketBundleManifest) : Prop where
  files : manifest.files.Perm (artifacts.map (fileEntry c))
  artifactHash : manifest.artifactHash =
    c.semanticHash (.arr (manifest.files.map PacketFileEntry.toJson))

theorem manifestOf_manifestOf (c : Codec) (packetId packetType packetVersion semanticHash : String)
    (createdAt : Timestamp) (artifacts : List (RenderedArtifact c)) :
    ManifestOf c artifacts
      (manifestOf c packetId packetType packetVersion semanticHash createdAt artifacts) :=
  ⟨(sortedBy_perm _ _).map _, rfl⟩

/-- **A written manifest accepts untouched files only**, and refuses a directory as soon as one byte
of one of them differs. -/
theorem verifyBundleManifest_iff (hc : reader.codec.Faithful) {path : Path}
    (hroot : disk.resolve path = some root) {artifacts : List (RenderedArtifact reader.codec)}
    {manifest found : PacketBundleManifest} (hmanifest : ManifestOf reader.codec artifacts manifest)
    (hreads : ReadsDocument reader manifest.toJson)
    (hwritten : ManifestWritten reader disk root manifest) :
    verifyBundleManifest reader disk path = .ok found ↔
      found = manifest ∧ ∀ artifact ∈ artifacts, Untouched disk root artifact := by
  have hmembers : (∃ units, manifest.files.mapM (verifyBundleMember reader disk root) = .ok units) ↔
      ∀ artifact ∈ artifacts, Untouched disk root artifact := by
    constructor
    · rintro ⟨units, hunits⟩ artifact hartifact
      have hentry := hmanifest.files.mem_iff.2 (List.mem_map_of_mem hartifact)
      obtain ⟨u, hu⟩ := exists_of_mem_mapM hunits hentry
      exact (verifyBundleMember_fileEntry hc artifact).1 hu
    · intro huntouched
      refine exists_mapM_eq_ok fun entry hentry => ?_
      obtain ⟨artifact, hartifact, rfl⟩ := List.mem_map.1 (hmanifest.files.mem_iff.1 hentry)
      exact ⟨(), (verifyBundleMember_fileEntry hc artifact).2 (huntouched artifact hartifact)⟩
  rw [← hmembers]
  simp only [verifyBundleManifest, bind_eq_ok, resolveBundlePath_eq_ok, hroot, demand_eq_ok,
    pure_eq_ok]
  constructor
  · rintro ⟨place, hplace, read, hread, units, hunits, _, -, rfl⟩
    obtain rfl := Option.some.inj hplace
    rw [readBundleManifest_written hreads hwritten] at hread
    obtain rfl := Except.ok.inj hread
    exact ⟨rfl, units, hunits⟩
  · rintro ⟨rfl, units, hunits⟩
    exact ⟨root, rfl, found, readBundleManifest_written hreads hwritten, units, hunits, (),
      hmanifest.artifactHash, rfl⟩

end ConstellationTopology
