import ConstellationTopology.Library.Collection
import ConstellationTopology.Library.Fallible
import ConstellationTopology.Library.Stringify
import ConstellationTopology.Run.Hashing

set_option autoImplicit false

/-! # The complete work-signal payload

The reading half of `packets/adapters/meta_work_signals.py`: the manifest, the payload of one record
a line, and the recomputation of every count and hash that the manifest declares.

The JSON library and the printing of Python values are parameters. A directory is what each name in
it gives to a reader. -/

namespace ConstellationTopology

/-- `DOCUMENT_WORK_SIGNALS_FILE`. -/
def documentWorkSignalsFile : String := "document-work-signals.jsonl"

/-- `DOCUMENT_WORK_SIGNALS_MANIFEST_FILE`. -/
def documentWorkSignalsManifestFile : String := "document-work-signals.manifest.json"

/-- `DOCUMENT_WORK_SIGNALS_SCHEMA`. -/
def documentWorkSignalsSchema : String := "l9.document-work-signals/v1"

/-- `DOCUMENT_WORK_SIGNALS_MANIFEST_SCHEMA`. -/
def documentWorkSignalsManifestSchema : String := "l9.document-work-signals-manifest/v1"

/-- The records of a payload, with their manifest. -/
structure WorkSignalPayload where
  records : List Json
  manifest : Json

/-- What ends the reading: a `MetaGenerationError`, or an exception nothing translates. -/
inductive PayloadError
  | generation (message : String)
  | uncaught (exception message : String)

/-- What is used of Python: `json.loads`, `repr`, and the message of a failed decoding. -/
structure PythonReader where
  loads : String → Except String Json
  repr : Json → String
  decodeError : ByteArray → String

/-- A directory of the producer: `none` for a name that is no file, an error for a file that cannot
    be read. `path` prints the path of a name. -/
structure Generation where
  root : String
  path : String → String
  file : String → Option (Except String ByteArray)

/-! ## Reading fields -/

/-- An `isinstance(value, int)`, which a boolean passes. -/
def Json.wholeNumber? : Json → Option ℤ
  | .int value => some value
  | .bool value => some (if value then 1 else 0)
  | _ => none

/-- `if not passed: raise error`. -/
def require (passed : Prop) [Decidable passed] (error : PayloadError) : Except PayloadError Unit :=
  if passed then .ok () else .error error

/-- `_require_int`. -/
def requireInt (container : Json) (key : String) (minimum : ℤ) (context : String) :
    Except PayloadError ℤ :=
  match container.get? key with
  | some (.int value) =>
      if value < minimum then
        .error (.generation (context ++ ": " ++ key ++ " is " ++ toString value
          ++ ", below the minimum of " ++ toString minimum))
      else .ok value
  | _ => .error (.generation (context ++ ": " ++ key ++ " is not an integer"))

/-- `_require_text`. -/
def requireText (container : Json) (key context : String) : Except PayloadError String :=
  match container.fieldText? key with
  | some text =>
      if text = "" then .error (.generation (context ++ ": " ++ key ++ " is missing or empty"))
      else .ok text
  | none => .error (.generation (context ++ ": " ++ key ++ " is missing or empty"))

/-! ## The manifest -/

/-- The line ends of a file that is read as text. -/
def universalNewlines : List Char → List Char
  | [] => []
  | '\r' :: '\n' :: rest => '\n' :: universalNewlines rest
  | '\r' :: rest => '\n' :: universalNewlines rest
  | ch :: rest => ch :: universalNewlines rest

variable (python : PythonReader) (generation : Generation)

/-- The text of the manifest file. -/
def readManifestText : Except PayloadError String :=
  match generation.file documentWorkSignalsManifestFile with
  | none => .error (.generation ("the generation at " ++ generation.root
      ++ " declares a complete work-signal payload but is missing "
      ++ documentWorkSignalsManifestFile
      ++ "; an unmanifested payload cannot be checked for completeness"))
  | some (.error exc) => .error (.generation ("cannot read "
      ++ generation.path documentWorkSignalsManifestFile ++ ": " ++ exc))
  | some (.ok bytes) =>
      match String.fromUTF8? bytes with
      | none => .error (.uncaught "UnicodeDecodeError" (python.decodeError bytes))
      | some text => .ok (String.ofList (universalNewlines text.toList))

/-- `_read_manifest`. -/
def readManifest : Except PayloadError Json := do
  let path := generation.path documentWorkSignalsManifestFile
  let text ← readManifestText python generation
  let manifest ← (python.loads text).mapError fun exc =>
    .generation ("cannot read " ++ path ++ ": " ++ exc)
  require manifest.isObject (.generation (path ++ " is not an object"))
  require (manifest.fieldText? "schema" = some documentWorkSignalsManifestSchema)
    (.generation (documentWorkSignalsManifestFile ++ " declares schema "
      ++ python.repr ((manifest.get? "schema").getD .null) ++ "; this reader supports exactly "
      ++ python.repr (.str documentWorkSignalsManifestSchema)))
  require (manifest.fieldText? "payload_file" = some documentWorkSignalsFile)
    (.generation ("the manifest describes payload_file "
      ++ python.repr ((manifest.get? "payload_file").getD .null) ++ ", not "
      ++ python.repr (.str documentWorkSignalsFile)))
  return manifest

/-! ## The records -/

/-- One line of the payload: the record and its signal id. -/
def parseLine (path : String) (number : ℕ) (line : String) :
    Except PayloadError (String × Json) := do
  let place := path ++ " line " ++ toString number
  require (strip line ≠ "") (.generation (place ++ " is blank; the payload is one record per line"))
  let record ← (python.loads line).mapError fun exc =>
    .generation (place ++ " did not parse: " ++ exc)
  require record.isObject (.generation (place ++ " is not an object"))
  match record.fieldText? "signal_id" with
  | none => .error (.generation (place ++ " carries no signal_id"))
  | some signalId =>
      require (signalId ≠ "") (.generation (place ++ " carries no signal_id"))
      return (signalId, record)

/-- The loop of `_parse_payload`, after the ids it has seen. -/
def parseLines (path : String) : ℕ → List String → List String → Except PayloadError (List Json)
  | _, _, [] => .ok []
  | number, seen, line :: rest => do
      let (signalId, record) ← parseLine python path number line
      require (signalId ∉ seen) (.generation (path ++ " line " ++ toString number
        ++ " repeats signal_id " ++ python.repr (.str signalId)
        ++ "; two records under one identity cannot both be kept"))
      let records ← parseLines path (number + 1) (signalId :: seen) rest
      return record :: records

/-- `_parse_payload`. -/
def parsePayload (path payloadText : String) : Except PayloadError (List Json) :=
  parseLines python path 1 [] (splitLines payloadText)

/-! ## The declared counts -/

/-- What a set of Python values keeps apart: numbers by their value, whatever their type. -/
inductive HashKey
  | none
  | number (value : ℚ)
  | text (value : String)
  deriving DecidableEq

/-- The key of a value in a set; a list and a mapping have none. -/
def hashKey : Json → Except PayloadError HashKey
  | .null => .ok .none
  | .bool value => .ok (.number (if value then 1 else 0))
  | .int value => .ok (.number value)
  | .float value => .ok (.number value)
  | .str value => .ok (.text value)
  | .arr _ => .error (.uncaught "TypeError" "unhashable type: 'list'")
  | .obj _ => .error (.uncaught "TypeError" "unhashable type: 'dict'")

/-- The document of a record. -/
def artifactIdOf (record : Json) : Json := (record.get? "artifact_id").getD .null

/-- `_check_declared_document_count`. -/
def checkDeclaredDocumentCount (manifest : Json) (records : List Json) :
    Except PayloadError Unit :=
  match manifest.get? "document_count" with
  | some (.int declared) => do
      let artifacts ← records.mapM fun record => hashKey (artifactIdOf record)
      let observed := artifacts.dedup.length
      require ((observed : ℤ) = declared) (.generation ("manifest declares " ++ toString declared
        ++ " document(s) and the payload carries signals from " ++ toString observed))
  | _ => .ok ()

/-- `_tally`: the texts under a key, each as often as it is counted. -/
def tally (records : List Json) (key : String) : List String :=
  records.filterMap (Json.fieldText? key)

/-- The loop of `_check_declared_tally`: what is left of the tally when each entry has taken its
    name out. -/
def checkEntries (fieldName recordKey : String) :
    List Json → List String → Except PayloadError (List String)
  | [], observed => .ok observed
  | entry :: rest, observed => do
      require entry.isObject
        (.generation ("manifest " ++ fieldName ++ " carries a non-object entry"))
      match entry.fieldText? recordKey, (entry.get? "signal_count").bind Json.wholeNumber? with
      | some name, some expected =>
          require ((observed.count name : ℤ) = expected)
            (.generation ("manifest " ++ fieldName ++ " declares "
              ++ python.repr ((entry.get? "signal_count").getD .null) ++ " signal(s) for "
              ++ python.repr (.str name) ++ " and the payload carries "
              ++ toString (observed.count name)))
          checkEntries fieldName recordKey rest (observed.filter (· ≠ name))
      | _, _ => .error (.generation ("manifest " ++ fieldName ++ " entry is not well formed"))

/-- `_check_declared_tally`. -/
def checkDeclaredTally (manifest : Json) (records : List Json) (fieldName recordKey : String) :
    Except PayloadError Unit :=
  match manifest.get? fieldName with
  | some (.arr declared) => do
      let observed ← checkEntries python fieldName recordKey declared (tally records recordKey)
      require (observed = []) (.generation ("the payload carries " ++ recordKey
        ++ "(s) the manifest " ++ fieldName ++ " does not declare: "
        ++ ", ".intercalate (sortedSet observed)))
  | _ => .ok ()

/-- `_check_declared_counts`. -/
def checkDeclaredCounts (manifest : Json) (records : List Json) : Except PayloadError Unit := do
  checkDeclaredDocumentCount manifest records
  checkDeclaredTally python manifest records "by_format" "format"
  checkDeclaredTally python manifest records "by_predicate" "predicate"

/-! ## The payload -/

/-- The bytes of the payload file. -/
def readPayload : Except PayloadError ByteArray :=
  match generation.file documentWorkSignalsFile with
  | none => .error (.generation ("the generation at " ++ generation.root ++ " carries "
      ++ documentWorkSignalsManifestFile ++ " but no " ++ documentWorkSignalsFile
      ++ "; the manifest describes a payload that is not there"))
  | some (.error exc) => .error (.generation ("cannot read "
      ++ generation.path documentWorkSignalsFile ++ ": " ++ exc))
  | some (.ok bytes) => .ok bytes

/-- `payload_bytes.decode("utf-8")`. -/
def decodePayload (path : String) (bytes : ByteArray) : Except PayloadError String :=
  match String.fromUTF8? bytes with
  | none => .error (.generation (path ++ " is not UTF-8: " ++ python.decodeError bytes))
  | some text => .ok text

/-- The hash of the records, whatever bytes they came in. -/
def workSignalsSemanticHash (c : Codec) (records : List Json) : String :=
  c.sha256Bytes (c.canonicalBytes
    (.obj [("schema", .str documentWorkSignalsSchema), ("records", .arr records)]))

/-- `load_work_signal_payload`. -/
def loadWorkSignalPayload (c : Codec) : Except PayloadError WorkSignalPayload := do
  let manifest ← readManifest python generation
  let path := generation.path documentWorkSignalsFile
  let payloadBytes ← readPayload generation
  let byteLength ← requireInt manifest "payload_byte_length" 0 "manifest"
  require ((payloadBytes.size : ℤ) = byteLength) (.generation ("manifest says the payload is "
    ++ toString byteLength ++ " byte(s) and it is " ++ toString payloadBytes.size))
  let declaredArtifactHash ← requireText manifest "payload_artifact_hash" "manifest"
  require (c.artifactHash payloadBytes = declaredArtifactHash) (.generation
    ("payload artifact hash is " ++ c.artifactHash payloadBytes ++ " and the manifest declares "
      ++ declaredArtifactHash))
  let payloadText ← decodePayload python path payloadBytes
  let records ← parsePayload python path payloadText
  let declaredCount ← requireInt manifest "record_count" 0 "manifest"
  require ((records.length : ℤ) = declaredCount) (.generation ("manifest declares "
    ++ toString declaredCount ++ " record(s) and the payload parsed to "
    ++ toString records.length))
  let declaredSemanticHash ← requireText manifest "payload_semantic_hash" "manifest"
  require (workSignalsSemanticHash c records = declaredSemanticHash) (.generation
    ("payload semantic hash is " ++ workSignalsSemanticHash c records
      ++ " and the manifest declares " ++ declaredSemanticHash))
  checkDeclaredCounts python manifest records
  return { records := records, manifest := manifest }

end ConstellationTopology
