import ConstellationTopology.Packets.ManifestBinding
import ConstellationTopology.Packets.PayloadStorage

set_option autoImplicit false

/-! # Where a payload may be stored

A bundle stores each domain of a payload in the packet or in a file that the packet names, with the
semantic hash of the packet and its whole payload. The loader takes an inline payload as it stands
and looks for six domains among the files, so what is left beside an inline payload is not found,
nor are assertions that are kept in a file. -/

namespace ConstellationTopology

/-- A bundle that is in order and stores a payload. `docs` are the records of the payload,
    `inlineFields` is what the packet has of them itself, and `parts` are the files it names. -/
structure StoredBundle (reader : BundleReader) (models : RepositoryModels) (disk : LinkedDisk)
    (path : Path) (payload : RepositoryModelPayload) where
  root : Path
  manifest : PacketBundleManifest
  file : OpenedFile
  value : Json
  packet : PacketDocument
  inlineFields : Option JsonMapping
  parts : List PayloadPart
  docs : PayloadDocuments
  receipt : BundleMember × ValidationReceipt
  model : reader.repositoryModel = repositoryPacketModel models
  resolved : disk.resolve path = some root
  directory : disk.isDirectory root = true
  verified : verifyBundleManifest reader disk root = .ok manifest
  read : readJson reader disk (joinPath root "packet.json") = .ok (file, value)
  validated : models.packet value = some packet
  supported : packet.packetVersion ∈ ["1.0.0", "1.1.0"]
  passed : packet.validation.status = .passed
  revision : packet.sourceRevision ≠ ""
  /-- the hash of the packet with the payload that is stored -/
  hashed : reader.codec.semanticHash ((repositoryPacketModel models).semanticView
    { packet with payload := some payload.toJson }) = packet.semanticHash
  packetId : manifest.packetId = packet.packetId
  semanticHash : manifest.semanticHash = packet.semanticHash
  receipt_read : readReceipt reader disk root packet (repositoryReceiptReference packet)
    "input validation receipt status" "input validation receipt" = .ok receipt
  described : docs.Describe models payload
  inline : nullableField readMapping "payload" value = some inlineFields
  inline_known : ∀ fields ∈ inlineFields, ∀ field ∈ fields,
    field.1 ∈ RepositoryDomain.members.map RepositoryDomain.value
  inline_value : ∀ fields ∈ inlineFields, ∀ (d : RepositoryDomain) (v : Json),
    fields.lookup d.value = some v → v = docs.document d
  parts_read : packet.payloadRefs.mapM (readRepositoryPart reader disk root) = .ok parts
  parts_value : ∀ (d : RepositoryDomain) (v : Json),
    (parts.map fun part => (part.key, part.value)).lookup d.value = some v → v = docs.document d
  stored : ∀ d, ¬ payload.AtDefault d → (∃ fields ∈ inlineFields, (fields.lookup d.value).isSome) ∨
    ((parts.map fun part => (part.key, part.value)).lookup d.value).isSome

namespace StoredBundle

variable {reader : BundleReader} {models : RepositoryModels} {disk : LinkedDisk} {path : Path}
  {payload : RepositoryModelPayload} (bundle : StoredBundle reader models disk path payload)

/-- The files by their domains. -/
def files : JsonMapping := bundle.parts.map fun part => (part.key, part.value)

/-- The loader finds the domain where it looks for it. -/
def reached (d : RepositoryDomain) : Bool :=
  match bundle.inlineFields with
  | some fields => (fields.lookup d.value).isSome
  | none => d ≠ .assertions && (bundle.files.lookup d.value).isSome

/-- An inline payload has every domain that is not at its default, and without one the payload has
    no assertions. -/
def Reaches : Prop :=
  match bundle.inlineFields with
  | some fields => ∀ d, ¬ payload.AtDefault d → (fields.lookup (RepositoryDomain.value d)).isSome
  | none => payload.assertions = none

theorem atDefault_assertions : payload.AtDefault .assertions ↔ payload.assertions = none := by
  unfold RepositoryModelPayload.AtDefault
  show payload.assertions.map _ = none ↔ _
  exact Option.map_eq_none_iff

/-- What is not reached is at its default, if and only if the payload is stored where it may be. -/
theorem reaches_iff :
    bundle.Reaches ↔ ∀ d, bundle.reached d = false → payload.AtDefault d := by
  unfold Reaches reached
  cases hinline : bundle.inlineFields with
  | some fields =>
      simp only
      constructor
      · intro h d hmissing
        by_contra hd
        rw [h d hd] at hmissing
        cases hmissing
      · intro h d hd
        by_contra hmissing
        exact hd (h d (Bool.eq_false_iff.2 hmissing))
  | none =>
      simp only
      constructor
      · intro h d hmissing
        by_contra hd
        have hassertions : d ≠ .assertions := fun heq => hd (heq ▸ atDefault_assertions.2 h)
        rcases bundle.stored d hd with ⟨fields, hfields, _⟩ | hfile
        · rw [hinline] at hfields
          cases hfields
        · have hlookup : (bundle.files.lookup d.value).isSome = true := hfile
          simp [hassertions, hlookup] at hmissing
      · intro h
        exact atDefault_assertions.1 (h .assertions rfl)

/-- The packet with what is found of the payload. -/
def found : PacketDocument :=
  { bundle.packet with payload := some (payload.keep bundle.reached).toJson }

/-- `packet.json` before the files are read. -/
def document : PacketDocument :=
  { bundle.packet with
    payload := bundle.inlineFields.map fun _ => (payload.keep bundle.reached).toJson }

theorem readPacketDocument_eq :
    readPacketDocument reader disk reader.repositoryModel bundle.root =
      .ok ({ reference := "packet.json", file := bundle.file }, bundle.document) := by
  have hpayload : nullableField (inlinePayload models) "payload" bundle.value =
      some (bundle.inlineFields.map fun _ => payload.keep bundle.reached) := by
    have hinline := bundle.inline
    unfold nullableField at hinline ⊢
    cases hget : bundle.value.get? "payload" with
    | none =>
        rw [hget] at hinline
        rw [← Option.some.inj hinline]
        rfl
    | some v =>
        rw [hget] at hinline
        cases v with
        | null =>
            rw [← Option.some.inj hinline]
            rfl
        | obj fields =>
            have hfields : bundle.inlineFields = some fields := (Option.some.inj hinline).symm
            have hstored := inlinePayload_stored bundle.described
              (bundle.inline_known fields hfields) (bundle.inline_value fields hfields)
            have hreached : bundle.reached = fun d => (fields.lookup d.value).isSome := by
              funext d
              unfold reached
              rw [hfields]
            simp only [hstored, hfields, hreached, Option.map_some]
        | _ => cases hinline
  have hmodel : reader.repositoryModel.modelValidate bundle.value = some bundle.document := by
    rw [bundle.model]
    show (models.packet bundle.value).bind _ = _
    rw [bundle.validated]
    show (nullableField (inlinePayload models) "payload" bundle.value).bind _ = _
    rw [hpayload]
    show some _ = some _
    unfold document
    rw [Option.map_map]
    rfl
  simp only [readPacketDocument, bundle.read, hmodel, expect, bind, pure, Except.bind, Except.pure]

theorem materialize_eq :
    ∃ members, materializeRepositoryPayload reader disk bundle.root bundle.document =
      .ok (bundle.found, members) := by
  unfold materializeRepositoryPayload
  cases hinline : bundle.inlineFields with
  | some fields =>
      have hdocument : bundle.document = bundle.found := by
        unfold document found
        rw [hinline]
        rfl
      have hpayload : bundle.document.payload = some (payload.keep bundle.reached).toJson := by
        rw [hdocument]
        rfl
      rw [hpayload, ← hdocument]
      exact ⟨[], rfl⟩
  | none =>
      have hpayload : bundle.document.payload = none := by
        unfold document
        rw [hinline]
        rfl
      have hstored := referencedPayload_stored bundle.described bundle.parts_value
      have hreached : bundle.reached = fun d =>
          d ≠ .assertions && (bundle.files.lookup d.value).isSome := by
        funext d
        unfold reached
        rw [hinline]
      have hmodel : reader.repositoryModel.payloadModel
          (bundle.parts.map fun part => (part.key, part.value)) =
            some (payload.keep bundle.reached).toJson := by
        rw [bundle.model, hreached]
        show (referencedPayload models _).map _ = _
        rw [hstored]
        rfl
      have hrefs : bundle.document.payloadRefs = bundle.packet.payloadRefs := rfl
      rw [hpayload]
      simp only [hrefs, bundle.parts_read, hmodel, expect, bind, pure, Except.bind, Except.pure]
      exact ⟨_, rfl⟩

/-- What is loaded is what is found. -/
theorem found_of_loaded {loaded : PacketBundle}
    (hload : loadRepositoryModelBundle reader disk path = .ok loaded) :
    loaded.packet.payload = some (payload.keep bundle.reached).toJson := by
  obtain ⟨members, hmaterialized⟩ := bundle.materialize_eq
  have hplace : resolveBundlePath disk path = .ok bundle.root :=
    resolveBundlePath_eq_ok.2 bundle.resolved
  simp only [loadRepositoryModelBundle, hplace, bundle.directory, bundle.verified,
    bundle.readPacketDocument_eq, hmaterialized, bind_eq_ok, pure_eq_ok, Except.ok.injEq,
    exists_eq_left'] at hload
  obtain ⟨_, _, _, _, _, _, _, _, rfl⟩ := hload
  rfl

/-- **Payload storage.** A stored payload is loaded as it is if and only if it is stored where the
    loader looks for it. -/
theorem payload_storage_iff :
    (∃ loaded, loadRepositoryModelBundle reader disk path = .ok loaded ∧
        loaded.packet.payload = some payload.toJson) ↔ bundle.Reaches := by
  obtain ⟨members, hmaterialized⟩ := bundle.materialize_eq
  have hplace : resolveBundlePath disk path = .ok bundle.root :=
    resolveBundlePath_eq_ok.2 bundle.resolved
  rw [reaches_iff, ← RepositoryModelPayload.keep_toJson_iff]
  constructor
  · rintro ⟨loaded, hload, hpayload⟩
    exact Option.some.inj ((bundle.found_of_loaded hload).symm.trans hpayload)
  · intro hkept
    have hfound : bundle.found = { bundle.packet with payload := some payload.toJson } := by
      unfold found
      rw [hkept]
    have hvalid : validateRepositoryModelPacket reader bundle.found = .ok () := by
      rw [hfound]
      simp only [validateRepositoryModelPacket, bundle.supported, bundle.passed, bundle.model,
        bundle.hashed, demand, Option.isSome_some, if_true, bind, Except.bind]
      rw [if_pos bundle.revision]
    have hreceipt : readReceipt reader disk bundle.root bundle.found
        (repositoryReceiptReference bundle.found) "input validation receipt status"
        "input validation receipt" = .ok bundle.receipt := bundle.receipt_read
    have hmatch : matchManifest bundle.manifest bundle.found = .ok () := by
      have hid : bundle.manifest.packetId = bundle.found.packetId := bundle.packetId
      have hhash : bundle.manifest.semanticHash = bundle.found.semanticHash := bundle.semanticHash
      simp only [matchManifest, hid, hhash, demand, if_true, bind, Except.bind]
    refine ⟨{ root := bundle.root
              manifest := bundle.manifest
              packet := bundle.found
              receipt := some bundle.receipt.2
              packetMember := { reference := "packet.json", file := bundle.file }
              payloadMembers := members
              receiptMember := some bundle.receipt.1 }, ?_, congrArg some hkept⟩
    simp only [loadRepositoryModelBundle, hplace, bundle.directory, bundle.verified,
      bundle.readPacketDocument_eq, hmaterialized, hvalid, hmatch, hreceipt, demand, if_true, bind,
      pure, Except.bind, Except.pure]

end StoredBundle

/-! ## One assertion

A repository states its licence. The packet has the statement itself, or names a file for it. -/

/-- The statement that a repository has a licence. -/
def licenceAssertion : RepositoryModelAssertion where
  assertionId := "assertion:licence"
  subjectId := "repo:a"
  predicate := "package.license"
  object := "MIT"
  sourcePath := "pyproject.toml"
  startLine := 4
  endLine := 4
  evidenceExcerpt := "license = MIT"
  sourceContentHash := "sha256:11"
  extractorId := "pyproject"
  evidenceClass := .declared
  authority := "source"
  confidence := "high"
  startLine_positive := by decide
  endLine_positive := by decide

/-- The payload that states it. -/
def licencePayload : RepositoryModelPayload where
  assertions := some [licenceAssertion]

/-- The statement, as one domain. -/
def licenceDomain : Json := .arr [licenceAssertion.toJson]

/-- What the packet names and what it has itself. -/
def licenceRefs (storedInline : Bool) : List (String × String) :=
  if storedInline then [] else [("assertions", "assertions.json")]

def licenceFields (storedInline : Bool) : Option JsonMapping :=
  if storedInline then some [("assertions", licenceDomain)] else none

/-- The fields of the packet that the semantic view takes as they are. -/
def licenceHead : List (String × Json) :=
  [("packet_type", .str "l9.repository-model"),
    ("packet_version", .str "1.1.0"),
    ("subject", .obj [("repository_id", .str "repo:a")]),
    ("source_snapshot", .obj [("revision", .str "r1"), ("semantic_hash", .str "sha256:0")]),
    ("producer", .obj [("name", .str "repo-model"), ("version", .str "1.0.0")]),
    ("profile", .obj [("id", .str "p"), ("version", .str "1.0.0"), ("hash", .str "sha256:0")]),
    ("schema_hash", .str "sha256:1")]

def licenceHash (storedInline : Bool) : String :=
  textCodec.semanticHash (.obj (licenceHead ++
    [("payload_refs", textFields (licenceRefs storedInline)), ("payload", licencePayload.toJson)]))

/-- `packet.json`. -/
def licencePacket (storedInline : Bool) : Json :=
  .obj (licenceHead ++
    [("payload_refs", textFields (licenceRefs storedInline)),
      ("payload", ((licenceFields storedInline).map Json.obj).getD .null),
      ("validation", .obj [("status", .str "passed")]),
      ("packet_id", .str "packet:draft"),
      ("semantic_hash", .str (licenceHash storedInline))])

def licenceManifest (storedInline : Bool) : Json :=
  listedManifestJson [] (filesHash textCodec []) (licenceHash storedInline)

def licenceReceipt (storedInline : Bool) : ValidationReceipt :=
  finalizeValidationReceipt textCodec
    { receiptId := ""
      subjectPacketId := "packet:draft"
      subjectSemanticHash := licenceHash storedInline
      validator := ⟨"validator", "1.0.0"⟩
      status := .passed
      createdAt := ⟨"2026-01-01T00:00:00Z"⟩
      semanticHash := "" }

/-- A receipt as its file holds it. -/
def receiptDocument (receipt : ValidationReceipt) : Json :=
  .obj [("subject_packet_id", .str receipt.subjectPacketId),
    ("subject_semantic_hash", .str receipt.subjectSemanticHash),
    ("receipt_id", .str receipt.receiptId),
    ("validator", receipt.validator.toJson),
    ("status", .str receipt.status.value),
    ("created_at", .str receipt.createdAt.isoformat),
    ("semantic_hash", .str receipt.semanticHash)]

/-- The data models, as far as the packet has fields for them. -/
def licenceModels : RepositoryModels where
  packet value := do
    let packetVersion ← value.fieldText? "packet_version"
    let packetId ← value.fieldText? "packet_id"
    let semanticHash ← value.fieldText? "semantic_hash"
    let payloadRefs ← (value.get? "payload_refs").bind readTextMapping
    let validation ← value.get? "validation"
    let status ← (validation.fieldText? "status").bind ValidationStatus.ofValue?
    let snapshot ← value.get? "source_snapshot"
    let sourceRevision ← snapshot.fieldText? "revision"
    return { packetVersion, packetId, semanticHash, payloadRefs, validation := { status },
             sourceRevision, document := value }
  repository _ := none
  artifact _ := none
  capability _ := none
  relationship _ := none
  evidence _ := none
  assertion value :=
    if value.fieldText? "assertion_id" = some "assertion:licence" then some licenceAssertion
    else none
  view packet := licenceHead.filterMap fun field =>
    (packet.document.get? field.1).map fun value => (field.1, value)

/-- The text of a document in a file. -/
def documentBytes (value : Json) : ByteArray := (value.stringify noFloats).toUTF8

/-- The files of a bundle with one domain. -/
def storedDisk (manifest packet domain receipt : ByteArray) : LinkedDisk :=
  ⟨[(["bundle"], .directory),
    (["bundle", "manifest.json"], .file manifest),
    (["bundle", "packet.json"], .file packet),
    (["bundle", "assertions.json"], .file domain),
    (["bundle", "receipts"], .directory),
    (["bundle", "receipts", "validation-receipt.json"], .file receipt)]⟩

theorem storedDisk_manifest (manifest packet domain receipt : ByteArray) :
    (storedDisk manifest packet domain receipt).openFile (joinPath ["bundle"] "manifest.json") =
      some ⟨["bundle", "manifest.json"], manifest⟩ := rfl

theorem storedDisk_packet (manifest packet domain receipt : ByteArray) :
    (storedDisk manifest packet domain receipt).openFile (joinPath ["bundle"] "packet.json") =
      some ⟨["bundle", "packet.json"], packet⟩ := rfl

theorem storedDisk_domain (manifest packet domain receipt : ByteArray) :
    (storedDisk manifest packet domain receipt).openFile ["bundle", "assertions.json"] =
      some ⟨["bundle", "assertions.json"], domain⟩ := rfl

theorem storedDisk_receipt (manifest packet domain receipt : ByteArray) :
    (storedDisk manifest packet domain receipt).openFile
        ["bundle", "receipts", "validation-receipt.json"] =
      some ⟨["bundle", "receipts", "validation-receipt.json"], receipt⟩ := rfl

theorem storedDisk_resolves (manifest packet domain receipt : ByteArray) :
    resolveMember (storedDisk manifest packet domain receipt) ["bundle"] "assertions.json" =
        .ok ["bundle", "assertions.json"] ∧
      resolveMember (storedDisk manifest packet domain receipt) ["bundle"]
        "receipts/validation-receipt.json" =
          .ok ["bundle", "receipts", "validation-receipt.json"] :=
  ⟨rfl, rfl⟩

def licenceDisk (storedInline : Bool) : LinkedDisk :=
  storedDisk (documentBytes (licenceManifest storedInline))
    (documentBytes (licencePacket storedInline)) (documentBytes licenceDomain)
    (documentBytes (receiptDocument (licenceReceipt storedInline)))

/-- The documents of the bundle. -/
def licenceDocuments (storedInline : Bool) : List Json :=
  [licenceDomain, licencePacket storedInline, licenceManifest storedInline,
    receiptDocument (licenceReceipt storedInline)]

def licenceReader (storedInline : Bool) : BundleReader where
  loads text :=
    match (licenceDocuments storedInline).find? fun value => value.stringify noFloats = text with
    | some value => .ok value
    | none => .error "Expecting value"
  decode := String.fromUTF8?
  pydantic := plainPydantic
  codec := textCodec
  now := ⟨"2026-01-01T00:00:00Z"⟩
  repositoryModel := repositoryPacketModel licenceModels
  topology := draftModel
  corpusIntelligence := draftModel

/-- The documents are told apart by how they begin. -/
theorem licenceReader_loads (storedInline : Bool) :
    ∀ value ∈ licenceDocuments storedInline,
      (licenceReader storedInline).loads (value.stringify noFloats) = .ok value := by
  have hheads : ((licenceDocuments storedInline).map fun value =>
      (value.stringifyChars noFloats).take 3).Nodup := by
    show [['[', '{', '"'], ['{', '"', 'p'], ['{', '"', 'a'], ['{', '"', 's']].Nodup
    decide
  intro value hvalue
  have hfind : (licenceDocuments storedInline).find? (fun other =>
      other.stringify noFloats = value.stringify noFloats) = some value := by
    cases hfound : (licenceDocuments storedInline).find? fun other =>
        other.stringify noFloats = value.stringify noFloats with
    | none => simpa using List.find?_eq_none.1 hfound value hvalue
    | some other =>
        have hsame : other.stringify noFloats = value.stringify noFloats := by
          simpa using List.find?_some hfound
        have htake := congrArg (List.take 3) (String.ofList_injective hsame)
        rw [List.inj_on_of_nodup_map hheads (List.mem_of_find?_eq_some hfound) hvalue htake]
  unfold licenceReader
  simp only [hfind]

/-- A document of the bundle is read from the file that has it. -/
theorem licenceReader_read (storedInline : Bool) (path location : Path) (value : Json)
    (hvalue : value ∈ licenceDocuments storedInline)
    (hopen : (licenceDisk storedInline).openFile path = some ⟨location, documentBytes value⟩) :
    readJson (licenceReader storedInline) (licenceDisk storedInline) path =
      .ok (⟨location, documentBytes value⟩, value) :=
  readJson_stringify hopen (licenceReader_loads storedInline value hvalue)

/-- What `packet.json` is validated to, its payload apart. -/
def licenceHeader (storedInline : Bool) : PacketDocument where
  packetVersion := "1.1.0"
  packetId := "packet:draft"
  semanticHash := licenceHash storedInline
  payloadRefs := licenceRefs storedInline
  validation := { status := .passed }
  sourceRevision := "r1"
  document := licencePacket storedInline

theorem licenceModels_packet (storedInline : Bool) :
    licenceModels.packet (licencePacket storedInline) = some (licenceHeader storedInline) := by
  cases storedInline <;> rfl

theorem licenceReceipt_ofJson (receiptId subjectSemanticHash semanticHash : String)
    (now : Timestamp) (receipt : ValidationReceipt)
    (h : receipt =
      { receiptId := receiptId
        subjectPacketId := "packet:draft"
        subjectSemanticHash := subjectSemanticHash
        validator := ⟨"validator", "1.0.0"⟩
        status := .passed
        createdAt := ⟨"2026-01-01T00:00:00Z"⟩
        semanticHash := semanticHash }) :
    ValidationReceipt.ofJson plainPydantic now (receiptDocument receipt) = some receipt := by
  subst h
  rfl

theorem validate_finalized (c : Codec) (candidate : ValidationReceipt) :
    validateValidationReceipt c (finalizeValidationReceipt c candidate) = .ok () := by
  simp [validateValidationReceipt, finalizeValidationReceipt, validationReceiptSemanticView]

/-- A receipt is read when each of its checks succeeds. -/
theorem readReceipt_of_read {reader : BundleReader} {disk : LinkedDisk} {root : Path}
    {packet : PacketDocument} {reference statusMessage role : String} {candidate : Path}
    {file : OpenedFile} {value : Json} {receipt : ValidationReceipt}
    (hmember : resolveMember disk root reference = .ok candidate)
    (hread : readJson reader disk candidate = .ok (file, value))
    (hreceipt : ValidationReceipt.ofJson reader.pydantic reader.now value = some receipt)
    (hvalid : validateValidationReceipt reader.codec receipt = .ok ())
    (hstatus : receipt.status = .passed) (hpacket : receipt.subjectPacketId = packet.packetId)
    (hhash : receipt.subjectSemanticHash = packet.semanticHash) :
    readReceipt reader disk root packet reference statusMessage role =
      .ok ({ reference, file }, receipt) := by
  simp only [readReceipt, hmember, hread, hreceipt, hvalid, hstatus, hpacket, hhash, demand,
    if_true, expect, bind, pure, Except.bind, Except.pure, Except.mapError]

theorem licenceReceipt_read (storedInline : Bool) :
    readReceipt (licenceReader storedInline) (licenceDisk storedInline) ["bundle"]
        (licenceHeader storedInline) (repositoryReceiptReference (licenceHeader storedInline))
        "input validation receipt status" "input validation receipt" =
      .ok ({ reference := "receipts/validation-receipt.json"
             file := ⟨["bundle", "receipts", "validation-receipt.json"],
               documentBytes (receiptDocument (licenceReceipt storedInline))⟩ },
        licenceReceipt storedInline) := by
  have hread := licenceReader_read storedInline ["bundle", "receipts", "validation-receipt.json"]
    ["bundle", "receipts", "validation-receipt.json"]
    (receiptDocument (licenceReceipt storedInline)) (by simp [licenceDocuments])
    (storedDisk_receipt _ _ _ _)
  exact readReceipt_of_read (storedDisk_resolves _ _ _ _).2 hread
    (licenceReceipt_ofJson _ _ _ _ _ rfl) (validate_finalized _ _) rfl rfl rfl

/-- The files that the packet names. -/
def licenceParts (storedInline : Bool) : List PayloadPart :=
  if storedInline then []
  else [{ member := some { reference := "assertions.json"
                           file := ⟨["bundle", "assertions.json"], documentBytes licenceDomain⟩ }
          key := "assertions"
          value := licenceDomain }]

theorem readRepositoryPart_of_read {reader : BundleReader} {disk : LinkedDisk} {root : Path}
    {field : String × String} {candidate : Path} {file : OpenedFile} {value : Json}
    (hmember : resolveMember disk root field.2 = .ok candidate)
    (hread : readJson reader disk candidate = .ok (file, value)) :
    readRepositoryPart reader disk root field =
      .ok { member := some { reference := field.2, file }, key := field.1, value } := by
  simp only [readRepositoryPart, hmember, hread, bind, pure, Except.bind, Except.pure]

theorem licenceParts_read (storedInline : Bool) :
    (licenceHeader storedInline).payloadRefs.mapM
      (readRepositoryPart (licenceReader storedInline) (licenceDisk storedInline) ["bundle"]) =
        .ok (licenceParts storedInline) := by
  rw [mapM_eq_ok]
  cases storedInline with
  | true => exact List.Forall₂.nil
  | false =>
      have hread := licenceReader_read false ["bundle", "assertions.json"]
        ["bundle", "assertions.json"] licenceDomain (by simp [licenceDocuments])
        (storedDisk_domain _ _ _ _)
      exact List.Forall₂.cons
        (readRepositoryPart_of_read (storedDisk_resolves _ _ _ _).1 hread) List.Forall₂.nil

theorem licence_verified (storedInline : Bool) :
    verifyBundleManifest (licenceReader storedInline) (licenceDisk storedInline) ["bundle"] =
      .ok (listedManifest [] (filesHash textCodec []) (licenceHash storedInline)) := by
  have hread := licenceReader_read storedInline (joinPath ["bundle"] "manifest.json")
    ["bundle", "manifest.json"] (licenceManifest storedInline) (by simp [licenceDocuments])
    (storedDisk_manifest _ _ _ _)
  exact verifyBundleManifest_listed rfl rfl hread (List.forall_mem_nil _)

theorem licencePacket_read (storedInline : Bool) :
    readJson (licenceReader storedInline) (licenceDisk storedInline)
        (joinPath ["bundle"] "packet.json") =
      .ok (⟨["bundle", "packet.json"], documentBytes (licencePacket storedInline)⟩,
        licencePacket storedInline) :=
  licenceReader_read storedInline (joinPath ["bundle"] "packet.json") ["bundle", "packet.json"]
    (licencePacket storedInline) (by simp [licenceDocuments]) (storedDisk_packet _ _ _ _)

/-- The statement is the only domain that is stored. -/
theorem licence_lookup {d : RepositoryDomain} {v : Json}
    (h : [("assertions", licenceDomain)].lookup d.value = some v) :
    v = ({ assertions := some [licenceAssertion.toJson] } : PayloadDocuments).document d := by
  cases d with
  | assertions => exact (Option.some.inj h).symm
  | _ => cases h

/-- The bundle, whichever place the statement is kept in. -/
def licenceBundle (storedInline : Bool) : StoredBundle (licenceReader storedInline) licenceModels
    (licenceDisk storedInline) ["bundle"] licencePayload where
  root := ["bundle"]
  manifest := listedManifest [] (filesHash textCodec []) (licenceHash storedInline)
  file := ⟨["bundle", "packet.json"], documentBytes (licencePacket storedInline)⟩
  value := licencePacket storedInline
  packet := licenceHeader storedInline
  inlineFields := licenceFields storedInline
  parts := licenceParts storedInline
  docs := { assertions := some [licenceAssertion.toJson] }
  receipt := _
  model := rfl
  resolved := rfl
  directory := rfl
  verified := licence_verified storedInline
  read := licencePacket_read storedInline
  validated := licenceModels_packet storedInline
  supported := show "1.1.0" ∈ ["1.0.0", "1.1.0"] by decide
  passed := rfl
  revision := show "r1" ≠ "" by decide
  hashed := by cases storedInline <;> rfl
  packetId := rfl
  semanticHash := rfl
  receipt_read := licenceReceipt_read storedInline
  described := ⟨rfl, rfl, rfl, rfl, rfl, rfl, rfl⟩
  inline := by cases storedInline <;> rfl
  inline_known := by
    intro fields hfields
    cases storedInline with
    | true =>
        cases hfields
        decide
    | false => cases hfields
  inline_value := by
    intro fields hfields d v hlookup
    cases storedInline with
    | true =>
        cases hfields
        exact licence_lookup hlookup
    | false => cases hfields
  parts_read := licenceParts_read storedInline
  parts_value := by
    intro d v hlookup
    cases storedInline with
    | true => cases hlookup
    | false => exact licence_lookup hlookup
  stored := by
    intro d hd
    cases d with
    | assertions =>
        cases storedInline with
        | true => exact Or.inl ⟨[("assertions", licenceDomain)], rfl, rfl⟩
        | false => exact Or.inr rfl
    | _ => exact absurd rfl hd

/-- The statement is loaded when the packet has it. -/
theorem assertions_inline_loaded :
    ∃ loaded, loadRepositoryModelBundle (licenceReader true) (licenceDisk true) ["bundle"] =
        .ok loaded ∧ loaded.packet.payload = some licencePayload.toJson := by
  refine (licenceBundle true).payload_storage_iff.2 ?_
  intro d hd
  cases d with
  | assertions => rfl
  | _ => exact absurd rfl hd

/-- It is lost when it is kept in a file. -/
theorem assertions_lost :
    ¬ ∀ (reader : BundleReader) (models : RepositoryModels) (disk : LinkedDisk) (path : Path)
      (payload : RepositoryModelPayload), StoredBundle reader models disk path payload →
        ∃ loaded, loadRepositoryModelBundle reader disk path = .ok loaded ∧
          loaded.packet.payload = some payload.toJson := by
  intro h
  obtain ⟨loaded, hload, hpayload⟩ := h _ _ _ _ _ (licenceBundle false)
  have hkept := Option.some.inj (((licenceBundle false).found_of_loaded hload).symm.trans hpayload)
  have hdefault := RepositoryModelPayload.keep_toJson_iff.1 hkept .assertions rfl
  cases StoredBundle.atDefault_assertions.1 hdefault

end ConstellationTopology
