import ConstellationTopology.Library.Table
import ConstellationTopology.Packets.CorpusIntelligence
import ConstellationTopology.Packets.SignalLocators

set_option autoImplicit false

/-! # The files of a generation

The reading half of `packets/adapters/meta_generation.py`: the documents of a generation, the roots
that its snapshot declares with their bundles, the coverage, and the document index. What Python
does of itself with a value of the wrong type is an error of its own.

The generation is the directory that `resolve_generation_root` returns. -/

namespace ConstellationTopology

/-! ## Python values -/

namespace Json

/-- The name of the type of a value. -/
def pythonType : Json → String
  | .null => "NoneType"
  | .bool _ => "bool"
  | .int _ => "int"
  | .float _ => "float"
  | .str _ => "str"
  | .arr _ => "list"
  | .obj _ => "dict"

/-- `bool(value)`. -/
def truthy : Json → Bool
  | .null => false
  | .bool value => value
  | .int value => value ≠ 0
  | .float value => value ≠ 0
  | .str value => value ≠ ""
  | .arr items => items.isEmpty = false
  | .obj fields => fields.isEmpty = false

/-- `value is None`. -/
def isNull : Json → Bool
  | .null => true
  | _ => false

/-- `value or default`. -/
def orElse (value default : Json) : Json := if value.truthy then value else default

/-- A value is a mapping, if `get` is asked of it. -/
def asMapping (value : Json) : Except PayloadError Unit :=
  require value.isObject (.uncaught "AttributeError"
    ("'" ++ value.pythonType ++ "' object has no attribute 'get'"))

/-- `value.get(key, default)`. -/
def getItem (value : Json) (key : String) (default : Json := .null) : Except PayloadError Json := do
  value.asMapping
  return (value.get? key).getD default

/-- What a loop over a value meets. -/
def iterate : Json → Except PayloadError (List Json)
  | .arr items => .ok items
  | .str text => .ok (text.toList.map fun ch => .str ch.toString)
  | .obj fields => .ok (fields.map fun field => .str field.1)
  | value => .error (.uncaught "TypeError" ("'" ++ value.pythonType ++ "' object is not iterable"))

end Json

/-- `str(value)`. -/
def pythonText (python : PythonReader) : Json → String
  | .str text => text
  | value => python.repr value

/-- `str(container.get(key) or default)` of a mapping. -/
def textOr (python : PythonReader) (container : Json) (key default : String) : String :=
  pythonText python (((container.get? key).getD .null).orElse (.str default))

/-- The texts that a data model wants to have characters. -/
def requireTexts (model : String) (fields : List (String × String)) : Except PayloadError Unit :=
  require (∀ field ∈ fields, field.2 ≠ "") (.uncaught "ValidationError" (model ++ ": "
    ++ ", ".intercalate ((fields.filter fun field => field.2 = "").map Prod.fst)))

/-! ## The files of a generation -/

/-- `SNAPSHOT_FILE`. -/
def snapshotFile : String := "corpus-snapshot.json"

/-- `COVERAGE_FILE`. -/
def coverageFile : String := "corpus-coverage.json"

/-- `DOCUMENT_INDEX_FILE`. -/
def documentIndexFile : String := "document-index.json"

/-- `DOCUMENT_SIGNALS_FILE`. -/
def documentSignalsFile : String := "document-signals.json"

/-- The documents of a generation, in the order they are read. -/
def generationDocuments : List String :=
  [snapshotFile, coverageFile, "corpus-index.json", "corpus-candidates.json", documentIndexFile,
    documentSignalsFile, "semantic-relations.json", "topic-candidates.json",
    "project-candidates.json", "consolidation-candidates.json", "readiness-evidence.json"]

/-- The files of one value a line. -/
def generationRows : List String :=
  ["reasoning-candidates.jsonl", "reasoning-evidence-packs.jsonl"]

theorem generationRows_disjoint : ∀ name ∈ generationRows, name ∉ generationDocuments := by decide

/-- `_Generation`: what was read under each name, and the names of no file. -/
structure GenerationFiles where
  documents : List (String × Json)
  missing : List String

/-- `_Generation.get`. -/
def GenerationFiles.get (files : GenerationFiles) (name : String) : Json :=
  (files.documents.lookup name).getD .null

/-- How a generation states its work signals. -/
inductive AdaptationMode
  | currentComplete
  | legacyLineAssertions
  deriving DecidableEq, Repr

/-- The name of the mode. -/
def AdaptationMode.value : AdaptationMode → String
  | currentComplete => "current_complete"
  | legacyLineAssertions => "legacy_line_assertions"

section Reading

variable (python : PythonReader) (generation : Generation)

/-- `path.read_text(encoding="utf-8")`, with what an error says was read. -/
def readGenerationText (name place : String) : Except PayloadError (Option String) :=
  match generation.file name with
  | none => .ok none
  | some (.error exc) => .error (.generation ("cannot read " ++ place ++ ": " ++ exc))
  | some (.ok bytes) =>
      match String.fromUTF8? bytes with
      | none => .error (.uncaught "UnicodeDecodeError" (python.decodeError bytes))
      | some text => .ok (some (String.ofList (universalNewlines text.toList)))

/-- One document of `_read_generation`. -/
def readDocument (name : String) : Except PayloadError (String × Option Json) := do
  let path := generation.path name
  match ← readGenerationText python generation name path with
  | none => return (name, none)
  | some text =>
      let value ← (python.loads text).mapError fun exc =>
        .generation ("cannot read " ++ path ++ ": " ++ exc)
      return (name, some value)

/-- The rows of the lines from a number on; a blank line has none. -/
def parseRows (path : String) : ℕ → List String → Except PayloadError (List Json)
  | _, [] => .ok []
  | number, line :: rest => do
      if strip line = "" then parseRows path (number + 1) rest
      else
        let row ← (python.loads line).mapError fun exc =>
          .generation ("cannot read " ++ path ++ " line " ++ toString number ++ ": " ++ exc)
        let rows ← parseRows path (number + 1) rest
        return row :: rows

/-- One file of rows of `_read_generation`. -/
def readRows (name : String) : Except PayloadError (String × Option Json) := do
  let path := generation.path name
  match ← readGenerationText python generation name (path ++ " line 0") with
  | none => return (name, none)
  | some text =>
      let rows ← parseRows python path 1 (splitLines text)
      return (name, some (.arr rows))

/-- `_read_generation`. -/
def readGeneration : Except PayloadError GenerationFiles := do
  let documents ← generationDocuments.mapM (readDocument python generation)
  let rows ← generationRows.mapM (readRows python generation)
  let files := documents ++ rows
  return { documents := files.filterMap fun file => file.2.map (Prod.mk file.1)
           missing := (files.filter fun file => file.2.isNone).map Prod.fst }

/-- `_Generation.require`. -/
def requireDocument (files : GenerationFiles) (name : String) : Except PayloadError Json :=
  match files.get name with
  | .null => .error (.generation ("Meta generation at " ++ generation.root
      ++ " is missing required file " ++ name))
  | value => .ok value

/-- `detect_adaptation_mode`. -/
def detectAdaptationMode : AdaptationMode :=
  if (generation.file documentWorkSignalsFile).isSome
      ∨ (generation.file documentWorkSignalsManifestFile).isSome then .currentComplete
  else .legacyLineAssertions

end Reading

/-! ## Reading what was written -/

section Written

variable {python : PythonReader} {generation : Generation} {floats : FloatText}

/-- A directory that holds some documents of a generation, each as it was printed, and no rows. -/
structure HoldsDocuments (python : PythonReader) (floats : FloatText) (generation : Generation)
    (documents : List (String × Json)) : Prop where
  written : ∀ name value, documents.lookup name = some value →
    generation.file name = some (.ok (value.stringify floats).toUTF8)
  loads : ∀ name value, documents.lookup name = some value →
    python.loads (value.stringify floats) = .ok value
  others : ∀ name ∈ generationDocuments, documents.lookup name = none →
    generation.file name = none
  no_rows : ∀ name ∈ generationRows, generation.file name = none

theorem readGenerationText_missing {name place : String} (hfile : generation.file name = none) :
    readGenerationText python generation name place = .ok none := by
  rw [readGenerationText, hfile]

/-- A printed document has no line end that reading changes. -/
theorem readGenerationText_stringify {name place : String} {value : Json}
    (hfile : generation.file name = some (.ok (value.stringify floats).toUTF8)) :
    readGenerationText python generation name place = .ok (some (value.stringify floats)) := by
  have hcr : '\r' ∉ value.stringifyChars floats := by
    rw [Json.mem_stringifyChars (by decide)]
    exact fun h => absurd h.1 (by decide)
  rw [readGenerationText, hfile]
  simp only [fromUTF8?_toUTF8]
  rw [Json.stringify, String.toList_ofList, universalNewlines_of_not_mem hcr]

/-- The documents that were written are read, and the other names are missing. -/
theorem readGeneration_written {documents : List (String × Json)}
    (h : HoldsDocuments python floats generation documents) :
    readGeneration python generation = .ok
      { documents := generationDocuments.filterMap fun name =>
          (documents.lookup name).map (Prod.mk name)
        missing := (generationDocuments.filter fun name => (documents.lookup name).isNone)
          ++ generationRows } := by
  have hdocuments : generationDocuments.mapM (readDocument python generation) =
      .ok (generationDocuments.map fun name => (name, documents.lookup name)) := by
    rw [mapM_eq_ok, List.forall₂_map_right_iff, List.forall₂_same]
    intro name hname
    unfold readDocument
    dsimp only
    cases hlookup : documents.lookup name with
    | none =>
        rw [readGenerationText_missing (h.others name hname hlookup)]
        rfl
    | some value =>
        rw [readGenerationText_stringify (h.written name value hlookup)]
        refine bind_eq_ok.2 ⟨_, rfl, bind_eq_ok.2 ⟨value, ?_, rfl⟩⟩
        rw [h.loads name value hlookup]
        rfl
  have hrows : generationRows.mapM (readRows python generation) =
      .ok (generationRows.map fun name => (name, none)) := by
    rw [mapM_eq_ok, List.forall₂_map_right_iff, List.forall₂_same]
    intro name hname
    unfold readRows
    dsimp only
    rw [readGenerationText_missing (h.no_rows name hname)]
    rfl
  rw [readGeneration, hdocuments, hrows]
  refine congrArg Except.ok ?_
  simp [List.filterMap_append, List.filterMap_map, List.filter_map, Function.comp_def]

/-- A directory of printed documents and of further files. -/
def writtenGeneration (floats : FloatText) (documents : List (String × Json))
    (others : List (String × ByteArray)) : Generation where
  root := "generation"
  path name := "generation/" ++ name
  file name :=
    match documents.lookup name with
    | some value => some (.ok (value.stringify floats).toUTF8)
    | none => (others.lookup name).map .ok

theorem writtenGeneration_holds {documents : List (String × Json)}
    {others : List (String × ByteArray)}
    (hloads : ∀ name value, documents.lookup name = some value →
      python.loads (value.stringify floats) = .ok value)
    (hdocuments : ∀ name ∈ documents.map Prod.fst, name ∈ generationDocuments)
    (hothers : ∀ name ∈ others.map Prod.fst, name ∉ generationDocuments ++ generationRows) :
    HoldsDocuments python floats (writtenGeneration floats documents others) documents := by
  have hfree : ∀ name ∈ generationDocuments ++ generationRows, others.lookup name = none := by
    intro name hname
    rw [List.lookup_eq_none_iff]
    intro file hfile
    exact bne_iff_ne.2 fun heq => hothers file.1 (List.mem_map_of_mem hfile) (heq ▸ hname)
  refine ⟨?_, hloads, ?_, ?_⟩
  · intro name value hlookup
    simp only [writtenGeneration, hlookup]
  · intro name hname hlookup
    simp only [writtenGeneration, hlookup, hfree name (List.mem_append_left _ hname),
      Option.map_none]
  · intro name hname
    have hlookup : documents.lookup name = none := by
      rw [List.lookup_eq_none_iff]
      intro document hdocument
      rw [bne_iff_ne]
      rintro rfl
      exact generationRows_disjoint _ hname (hdocuments _ (List.mem_map_of_mem hdocument))
    simp only [writtenGeneration, hlookup, hfree name (List.mem_append_right _ hname),
      Option.map_none]

/-- A reader of printed values. -/
def printedPython (floats : FloatText) (values : List Json) : PythonReader where
  loads text :=
    match values.find? fun value => value.stringify floats = text with
    | some value => .ok value
    | none => .error "Expecting value"
  repr _ := ""
  decodeError _ := "invalid start byte"

/-- Values whose texts begin in different ways are read back. -/
theorem printedPython_loads {values : List Json}
    (hstarts : (values.map fun value => (value.stringifyChars floats).take 4).Nodup)
    {value : Json} (hvalue : value ∈ values) :
    (printedPython floats values).loads (value.stringify floats) = .ok value := by
  unfold printedPython
  dsimp only
  cases hfind : values.find? fun other => other.stringify floats = value.stringify floats with
  | none =>
      rw [List.find?_eq_none] at hfind
      exact absurd (decide_eq_true rfl) (hfind value hvalue)
  | some other =>
      have htext : other.stringify floats = value.stringify floats := by
        simpa using List.find?_some hfind
      have hchars : other.stringifyChars floats = value.stringifyChars floats :=
        String.ofList_injective htext
      have hother := List.mem_of_find?_eq_some hfind
      rw [List.inj_on_of_nodup_map hstarts hother hvalue (congrArg (List.take 4) hchars)]

end Written

/-! ## Roots -/

/-- A Repository Model bundle as it was loaded: the packet, and the artifact hash it declares. -/
structure RootBundle where
  packet : RepositoryModelPacket
  artifactHash : Option String := none

/-- The artifact records of a bundle, in their order. -/
def RootBundle.artifacts (bundle : RootBundle) : List ArtifactRecord :=
  (bundle.packet.payload.map RepositoryModelPayload.artifacts).getD []

/-- The assertions of a bundle, in their order. -/
def RootBundle.statements (bundle : RootBundle) : List RepositoryModelAssertion :=
  (bundle.packet.payload.map RepositoryModelPayload.statements).getD []

/-- Why a reference names no bundle: it leaves the generation, a `PacketLoadError`, or an exception
    that nothing translates. -/
inductive BundleFailure
  | escapes
  | packetLoad (message : String)
  | uncaught (exception message : String)

/-- What the adapter uses beside the files of the generation: Python, the bundle that a reference
    names, the payload domains beside the work signals with the reasoning candidates dropped from
    them, and the identity of a packet. -/
structure MetaReader where
  python : PythonReader
  codec : Codec
  openBundle : String → Except BundleFailure RootBundle
  domains : GenerationFiles → List (String × String) →
    Except PayloadError (CorpusIntelligencePayload × List String)
  packetId : CorpusIntelligencePacket → String

/-- A reader of printed values, for which no domain holds a candidate. -/
def printedReader (floats : FloatText) (values : List Json)
    (openBundle : String → Except BundleFailure RootBundle) : MetaReader where
  python := printedPython floats values
  codec := textCodec
  openBundle := openBundle
  domains _ _ := .ok ({}, [])
  packetId _ := "packet:corpus"

section Roots

variable (reader : MetaReader) (generation : Generation) (mode : AdaptationMode)

/-- `_root_identity_class`. -/
def rootIdentityClass (entry : Json) (rootId : String) : Except PayloadError RootIdentityClass :=
  let declared := (entry.get? "root_identity_class").getD .null
  if declared.isText "declared" then .ok .declared
  else if declared.isText "inferred" then .ok .inferred
  else match declared, mode with
    | .null, .legacyLineAssertions => .ok .inferred
    | .null, .currentComplete => .error (.generation ("root " ++ rootId
        ++ " carries no root_identity_class; a generation emitting the complete work-signal "
        ++ "payload is expected to state it, and inferring it here would be a guess wearing the "
        ++ "producer's authority"))
    | _, _ => .error (.generation ("root " ++ rootId ++ " declares root_identity_class "
        ++ reader.python.repr declared ++ ", which is neither 'declared' nor 'inferred'"))

/-- A fact that the snapshot declares of a bundle, unless it declares nothing. -/
def checkDeclared (entry : Json) (key carried rootId what : String) : Except PayloadError Unit :=
  let declared := (entry.get? key).getD .null
  require (declared.truthy = true → declared.isText carried = true)
    (.generation ("root " ++ rootId ++ " snapshot names " ++ what ++ " "
      ++ pythonText reader.python declared ++ ", but its bundle carries " ++ carried))

/-- The bundle that a root names, loaded. -/
def openRootBundle (rootId reference : String) : Except PayloadError RootBundle :=
  (reader.openBundle reference).mapError fun
    | .escapes => .generation ("bundle_ref escapes the generation root: " ++ reference)
    | .packetLoad exc => .generation ("root " ++ rootId ++ " bundle did not load: " ++ exc)
    | .uncaught exception message => .uncaught exception message

/-- `_root_ref`. -/
def rootRef (entry : Json) : Except PayloadError (CorpusRootRef × RootBundle) := do
  let rootId := (entry.get? "root_id").getD .null
  let name := reader.python.repr rootId
  let reference ← expect (nonemptyText entry "bundle_ref")
    (.generation ("observed root " ++ name ++ " names no bundle_ref"))
  let bundle ← openRootBundle reader name reference
  let packet := bundle.packet
  checkDeclared reader entry "rmp_packet_id" packet.packetId name "packet"
  checkDeclared reader entry "rmp_semantic_hash" packet.semanticHash name "semantic hash"
  let identityClass ← rootIdentityClass reader mode entry name
  requireTexts "CorpusRootRef" [("root_id", pythonText reader.python rootId)]
  return ({ rootId := pythonText reader.python rootId
            identityClass
            sourceRevision := textOr reader.python entry "source_revision" ""
            repositoryModelPacket :=
              { packetId := packet.packetId
                packetType := "l9.repository-model"
                packetVersion := packet.packetVersion
                uri := "packet://" ++ packet.packetId
                semanticHash := packet.semanticHash
                artifactHash := bundle.artifactHash
                validationStatus := packet.validation.status
                subjectId := some packet.repositoryId
                sourceRevision := some packet.revision }
            repositoryId := some packet.repositoryId },
    bundle)

/-- One turn of the loop of `_load_root_bundles`; a root that was not observed has no packet. -/
def observedRoot (entry : Json) : Except PayloadError (Option (CorpusRootRef × RootBundle)) := do
  let status ← entry.getItem "observation_status"
  if status.isText "observed" then (rootRef reader mode entry).map some else return none

/-- `_load_root_bundles`. -/
def loadRootBundles (files : GenerationFiles) :
    Except PayloadError (List (CorpusRootRef × RootBundle)) := do
  let snapshot ← requireDocument generation files snapshotFile
  match ← snapshot.getItem "roots" with
  | .arr (entry :: rest) =>
      let found ← (entry :: rest).mapM (observedRoot reader mode)
      require (found.reduceOption ≠ [])
        (.generation "no root in this generation observed successfully")
      return found.reduceOption
  | _ => .error (.generation "corpus snapshot declares no roots")

/-- `count` of `_coverage`: the first number, and no less than zero. -/
def firstCount (candidates : List (Option Json)) : ℕ :=
  ((candidates.findSome? fun value : Option Json => value.bind Json.wholeNumber?).getD 0).toNat

/-- `_coverage`. -/
def corpusCoverage (files : GenerationFiles) : Except PayloadError CorpusCoverage := do
  let coverage := (files.get coverageFile).orElse (.obj [])
  let scope ← coverage.getItem "corpus" (.obj [])
  let documents ← coverage.getItem "documents" (.obj [])
  let semantics ← coverage.getItem "semantics" (.obj [])
  let snapshot ← requireDocument generation files snapshotFile
  let counts ← snapshot.getItem "counts" (.obj [])
  let hashing := (← coverage.getItem "hashing").orElse (.obj [])
  let _ ← [scope, counts, documents, semantics, hashing].mapM Json.asMapping
  return {
    rootCountRequested :=
      firstCount [scope.get? "root_count_requested", counts.get? "root_count_requested"]
    rootCountObserved :=
      firstCount [scope.get? "root_count_observed", counts.get? "root_count_observed"]
    rootCountFailed := firstCount [scope.get? "root_count_failed", counts.get? "root_count_failed"]
    artifactCount := firstCount [counts.get? "artifact_count", scope.get? "total_physical_artifacts"]
    archiveCount := firstCount [scope.get? "archive_count", counts.get? "archive_count"]
    archiveMemberCount :=
      firstCount [scope.get? "archive_member_count", counts.get? "archive_member_count"]
    decoderEligibleCount := firstCount [documents.get? "decoder_eligible_count"]
    normalizedDocumentCount := firstCount [documents.get? "normalized_document_count"]
    interpretedArtifactCount := firstCount [semantics.get? "interpreted_artifact_count"]
    unsupportedFormatCount := firstCount [documents.get? "unsupported_format_count"]
    coverageGapCount := firstCount [hashing.get? "unhashed_count"] }

/-- The corpus of the packet. -/
def corpusDescriptor (files : GenerationFiles) (snapshot analysis : Json)
    (rootRefs : List CorpusRootRef) : Except PayloadError CorpusDescriptor := do
  let snapshotId ← expect (snapshot.get? "corpus_source_snapshot_id")
    (.uncaught "KeyError" "'corpus_source_snapshot_id'")
  let coverage ← corpusCoverage generation files
  let corpusId := textOr reader.python snapshot "corpus_id" "corpus"
  let corpusSourceSnapshotId := pythonText reader.python snapshotId
  let corpusAnalysisId := textOr reader.python analysis "corpus_analysis_id" "unknown"
  requireTexts "CorpusDescriptor" [("corpus_id", corpusId),
    ("corpus_source_snapshot_id", corpusSourceSnapshotId),
    ("corpus_analysis_id", corpusAnalysisId)]
  if h : (rootRefs.map CorpusRootRef.rootId).Nodup then
    return { corpusId, corpusSourceSnapshotId, corpusAnalysisId, rootRefs, coverage,
             rootIds_nodup := h }
  else .error (.uncaught "ValidationError" "corpus roots must have unique identities")

end Roots

/-! ## The document index -/

/-- The entries of the document index. -/
def documentEntries (files : GenerationFiles) : Except PayloadError (List Json) := do
  let index := (files.get documentIndexFile).orElse (.obj [])
  let documents ← index.getItem "documents" (.arr [])
  let entries ← documents.iterate
  let _ ← entries.mapM Json.asMapping
  return entries

/-- The artifact and the format of an entry. -/
def formatRow (entry : Json) : Option (String × String) := do
  let artifactId ← entry.fieldText? "artifact_id"
  let format ← (nonemptyText entry "format").or (nonemptyText entry "decoder_id")
  return (artifactId, format)

/-- `_document_formats`. -/
def documentFormats (entries : List Json) : Table (Prod.fst : String × String → String) :=
  .ofRows Prod.fst (entries.filterMap formatRow)

/-- `_normalized_document_ids`. -/
def normalizedDocumentIds (entries : List Json) : List String :=
  entries.filterMap (Json.fieldText? "normalized_document_id")

/-- The artifact and the path of an entry. -/
def pathRow (entry : Json) : Option (String × String) := do
  let artifactId ← entry.fieldText? "artifact_id"
  let path ← entry.fieldText? "root_relative_path"
  return (artifactId, path)

/-- `_artifact_paths`. -/
def artifactPaths (entries : List Json) : Table (Prod.fst : String × String → String) :=
  .ofRows Prod.fst (entries.filterMap pathRow)

/-- `artifact_by_path` of `_work_signals`. -/
def artifactByPath (entries : List Json) : Table (Prod.snd : String × String → String) :=
  .ofRows Prod.snd (artifactPaths entries).rows

/-- `_corpus_to_rmp_ids`: the artifact of the packet domain behind each id of the corpus, found by
    root and path. -/
def corpusToRmpIds (generation : Generation) (files : GenerationFiles)
    (roots : List (CorpusRootRef × RootBundle)) : Except PayloadError (List (String × String)) := do
  let byRoot : Table (fun root : CorpusRootRef × RootBundle => root.1.rootId) :=
    .ofRows _ (roots.filter fun root => root.2.packet.payload.isSome)
  let snapshot ← requireDocument generation files snapshotFile
  let artifacts ← snapshot.getItem "artifacts" (.arr [])
  let entries ← artifacts.iterate
  let _ ← entries.mapM Json.asMapping
  let rows := entries.filterMap fun entry => do
    let corpusId ← entry.fieldText? "virtual_source_id"
    let root ← byRoot.lookup (← entry.fieldText? "root_id")
    let relative ← entry.fieldText? "root_relative_path"
    let resolved ← (Table.ofRows ArtifactRecord.sourcePath root.2.artifacts).lookup relative
    return (corpusId, resolved.artifactId)
  return (Table.ofRows Prod.fst rows).rows

end ConstellationTopology
