import ConstellationTopology.Library.JsonText
import ConstellationTopology.Packets.Transport
import ConstellationTopology.Worker.Contracts

set_option autoImplicit false

/-! # Signed transport packets

`worker/signature.py` and the construction of `worker/transport_factory.py`. A packet is signed
over a view of it that leaves out its own id, the time of its making and the signatures. What a
packet is verified against is computed from the canonical form of that view, so a packet that is
written and read back verifies like the one that was signed (`verify_sign`), and a signature that
was made for another packet verifies only a packet with the same view (`agreeOnView_of_value`). -/

namespace ConstellationTopology

/-- `hmac.new(key, message, sha256).hexdigest()`: a text of hexadecimal digits. -/
structure Hmac where
  hexdigest : ByteArray → ByteArray → String
  ascii : ∀ key message, ∀ ch ∈ (hexdigest key message).toList, ch.toNat < 128

/-- No two messages have one code, under whatever keys. -/
def Hmac.CollisionFree (hmac : Hmac) : Prop :=
  ∀ key message key' message', hmac.hexdigest key message = hmac.hexdigest key' message' →
    message = message'

/-! ## The view -/

/-- `header.model_dump(mode="json", exclude={"packet_id", "created_at"})`. -/
def TransportHeader.signingJson (header : TransportHeader) : Json :=
  .obj [("packet_type", .str header.packetType.value),
    ("action", .str header.action),
    ("schema_version", .str header.schemaVersion),
    ("idempotency_key", .str header.idempotencyKey),
    ("trace_id", .str header.traceId),
    ("correlation_id", .str header.correlationId),
    ("workflow_id", (header.workflowId.map .str).getD .null)]

/-- `transport_signing_view`. -/
def transportSigningView (packet : TransportPacket) : Json :=
  .obj [("header", packet.header.signingJson),
    ("provenance", .obj packet.provenance),
    ("governance", .obj packet.governance),
    ("attachments", .arr (packet.attachments.map TransportAttachment.toJson)),
    ("payload", .obj packet.payload)]

variable (c : Codec) (hmac : Hmac)

/-- `calculate_transport_packet_id`. -/
def calculateTransportPacketId (packet : TransportPacket) : String :=
  "packet:" ++ c.semanticDigest (transportSigningView packet)

/-- `_signature_value`. -/
def signatureValue (packet : TransportPacket) (key : ByteArray) : String :=
  "hmac-sha256:" ++ hmac.hexdigest key (c.canonicalBytes (transportSigningView packet))

/-! ## Signing -/

/-- The packet under the id of its view. -/
def TransportPacket.identified (packet : TransportPacket) : TransportPacket :=
  { packet with header := { packet.header with packetId := calculateTransportPacketId c packet } }

/-- `sign_transport_packet`; an empty key is refused with the message of a `ValueError`. -/
def signTransportPacket (packet : TransportPacket) (key : ByteArray) (keyId : String) :
    Except String TransportPacket :=
  if key.size = 0 then .error "TransportPacket signing key may not be empty"
  else
    let identified := packet.identified c
    .ok { identified with
      security := { signatures :=
        [{ algorithm := "hmac-sha256"
           keyId := keyId
           value := signatureValue c hmac identified key }] } }

/-- `build_transport_packet`, for a payload that has been dumped to JSON data. -/
def buildTransportPacket (payload : Json) (packetType : TransportPacketType)
    (action idempotencyKey traceId correlationId : String) (workflowId : Option String)
    (key : ByteArray) (keyId : String) (provenance governance : JsonMapping)
    (attachments : List TransportAttachment) : Except String TransportPacket :=
  match payload with
  | .obj fields =>
      signTransportPacket c hmac
        { header :=
            { packetId := "packet:pending"
              packetType := packetType
              action := action
              schemaVersion := "transport-packet/1.0.0"
              idempotencyKey := idempotencyKey
              traceId := traceId
              correlationId := correlationId
              workflowId := workflowId }
          provenance := provenance
          governance := governance
          attachments := attachments
          payload := fields } key keyId
  | _ => .error "TransportPacket payload must serialize to a mapping"

/-! ## Verification -/

/-- What ends a verification: a worker failure, or the exception of a comparison. -/
inductive VerificationError
  | worker (error : WorkerError)
  | typeError (message : String)

/-- Every character is an ASCII one. -/
def IsAscii (text : String) : Prop := ∀ ch ∈ text.toList, ch.toNat < 128

instance (text : String) : Decidable (IsAscii text) :=
  List.decidableBAll (fun ch : Char => ch.toNat < 128) text.toList

/-- `hmac.compare_digest` of two texts. -/
def compareDigest (a b : String) : Except VerificationError Bool :=
  if IsAscii a ∧ IsAscii b then .ok (a = b)
  else .error (.typeError "comparing strings with non-ASCII characters is not supported")

/-- The signatures of an allowed algorithm and key. -/
def candidateSignatures (packet : TransportPacket)
    (allowedAlgorithms allowedKeyIds : List String) : List TransportSignature :=
  packet.security.signatures.filter fun signature =>
    signature.algorithm ∈ allowedAlgorithms ∧
      (allowedKeyIds = [] ∨ signature.keyId ∈ allowedKeyIds)

/-- `any(...)`: the first signature that is equal ends the loop. -/
def anyMatches (expected : String) :
    List TransportSignature → Except VerificationError Bool
  | [] => .ok false
  | signature :: rest => do
      if ← compareDigest signature.value expected then return true
      anyMatches expected rest

/-- The packet is not the one its id names. -/
def transportPacketIdMismatch (expected found : String) : WorkerError where
  code := "transport-packet-id-mismatch"
  message := "expected " ++ expected ++ ", got " ++ found
  blocked := true

/-- The packet carries no signature. -/
def transportSignatureMissing : WorkerError where
  code := "transport-signature-missing"
  message := "no allowed TransportPacket signature and key identity is present"
  blocked := true

/-- The signature is not that of the packet. -/
def transportSignatureInvalid : WorkerError where
  code := "transport-signature-invalid"
  message := "TransportPacket HMAC verification failed"
  blocked := true

/-- `verify_transport_packet`. -/
def verifyTransportPacket (packet : TransportPacket) (key : ByteArray)
    (allowedAlgorithms allowedKeyIds : List String) : Except VerificationError Unit :=
  let expectedPacketId := calculateTransportPacketId c packet
  let candidates := candidateSignatures packet allowedAlgorithms allowedKeyIds
  if packet.header.packetId ≠ expectedPacketId then
    .error (.worker (transportPacketIdMismatch expectedPacketId packet.header.packetId))
  else if candidates = [] then .error (.worker transportSignatureMissing)
  else
    match anyMatches (signatureValue c hmac packet key) candidates with
    | .error error => .error error
    | .ok false => .error (.worker transportSignatureInvalid)
    | .ok true => .ok ()

/-! ## What is computed from a view -/

section Views

variable {c hmac}

theorem signatureValue_congr {packet packet' : TransportPacket}
    (h : (transportSigningView packet).canonicalData =
      (transportSigningView packet').canonicalData) (key : ByteArray) :
    signatureValue c hmac packet key = signatureValue c hmac packet' key := by
  unfold signatureValue Codec.canonicalBytes Codec.canonicalJson
  rw [h]

theorem packetId_congr {packet packet' : TransportPacket}
    (h : (transportSigningView packet).canonicalData =
      (transportSigningView packet').canonicalData) :
    calculateTransportPacketId c packet = calculateTransportPacketId c packet' := by
  unfold calculateTransportPacketId Codec.semanticDigest Codec.canonicalBytes Codec.canonicalJson
  rw [Json.canonicalData_dropKeys_congr volatileFields h]

theorem canonicalMapping_canonicalData (fields : JsonMapping) :
    (Json.obj (canonicalMapping fields)).canonicalData = (Json.obj fields).canonicalData :=
  Json.canonicalData_idem (.obj fields)

/-- Sorting the mappings of a packet does not show in its view. -/
theorem view_canonical (packet : TransportPacket) :
    (transportSigningView packet.canonical).canonicalData =
      (transportSigningView packet).canonicalData := by
  unfold transportSigningView
  simp only [Json.canonicalData, Json.canonicalFields]
  have hmapping : ∀ fields : JsonMapping,
      Json.sortFields (Json.canonicalFields (canonicalMapping fields)) =
        Json.sortFields (Json.canonicalFields fields) :=
    fun fields => Json.obj.inj (canonicalMapping_canonicalData fields)
  simp only [TransportPacket.canonical, hmapping]

end Views

/-! ## A signed packet verifies -/

section Verifies

variable {c hmac} {packet : TransportPacket} {key : ByteArray} {keyId : String}
  {allowedAlgorithms allowedKeyIds : List String}

theorem isAscii_signatureValue (packet : TransportPacket) (key : ByteArray) :
    IsAscii (signatureValue c hmac packet key) := by
  intro ch hch
  rw [signatureValue, String.toList_append, List.mem_append] at hch
  rcases hch with hlabel | hcode
  · have hascii : ∀ ch ∈ "hmac-sha256:".toList, ch.toNat < 128 := by simp
    exact hascii ch hlabel
  · exact hmac.ascii _ _ ch hcode

theorem compareDigest_eq_true {a b : String} (h : compareDigest a b = .ok true) : a = b := by
  unfold compareDigest at h
  split at h
  · simpa using h
  · cases h

theorem compareDigest_self {a : String} (h : IsAscii a) : compareDigest a a = .ok true := by
  rw [compareDigest, if_pos ⟨h, h⟩, decide_eq_true rfl]

/-- A packet verifies when it has the id of its view and one allowed signature, of its code. -/
theorem verify_of_signature {signature : TransportSignature}
    (hid : packet.header.packetId = calculateTransportPacketId c packet)
    (hsignatures : packet.security.signatures = [signature])
    (halgorithm : signature.algorithm ∈ allowedAlgorithms)
    (hkeyId : allowedKeyIds = [] ∨ signature.keyId ∈ allowedKeyIds)
    (hvalue : signature.value = signatureValue c hmac packet key) :
    verifyTransportPacket c hmac packet key allowedAlgorithms allowedKeyIds = .ok () := by
  have hcandidates : candidateSignatures packet allowedAlgorithms allowedKeyIds = [signature] := by
    rw [candidateSignatures, hsignatures, List.filter_singleton]
    simp [halgorithm, hkeyId]
  have hmatches : anyMatches (signatureValue c hmac packet key) [signature] = .ok true := by
    rw [anyMatches, hvalue, compareDigest_self (isAscii_signatureValue packet key)]
    rfl
  simp only [verifyTransportPacket, hid, hcandidates, hmatches]
  simp

/-- The packet that `sign_transport_packet` gives for a key that is not empty. -/
def signedPacket (c : Codec) (hmac : Hmac) (packet : TransportPacket) (key : ByteArray)
    (keyId : String) : TransportPacket :=
  { packet.identified c with
    security := { signatures :=
      [{ algorithm := "hmac-sha256"
         keyId := keyId
         value := signatureValue c hmac (packet.identified c) key }] } }

theorem signTransportPacket_of_key (hkey : key.size ≠ 0) :
    signTransportPacket c hmac packet key keyId = .ok (signedPacket c hmac packet key keyId) :=
  if_neg hkey

/-- The signed packet verifies, and so does what validation makes of its canonical data. -/
theorem verify_signed (halgorithm : "hmac-sha256" ∈ allowedAlgorithms)
    (hkeyId : allowedKeyIds = [] ∨ keyId ∈ allowedKeyIds) :
    verifyTransportPacket c hmac (signedPacket c hmac packet key keyId) key allowedAlgorithms
        allowedKeyIds = .ok () ∧
      verifyTransportPacket c hmac (signedPacket c hmac packet key keyId).canonical key
        allowedAlgorithms allowedKeyIds = .ok () := by
  have hview := view_canonical (signedPacket c hmac packet key keyId)
  constructor
  · exact verify_of_signature rfl rfl halgorithm hkeyId rfl
  · exact verify_of_signature (packetId_congr hview).symm rfl halgorithm hkeyId
      (signatureValue_congr hview key).symm

/-- What the factory builds verifies. -/
theorem verify_built {payload : Json} {packetType : TransportPacketType}
    {action idempotencyKey traceId correlationId : String} {workflowId : Option String}
    {provenance governance : JsonMapping} {attachments : List TransportAttachment}
    {built : TransportPacket}
    (h : buildTransportPacket c hmac payload packetType action idempotencyKey traceId correlationId
      workflowId key keyId provenance governance attachments = .ok built)
    (halgorithm : "hmac-sha256" ∈ allowedAlgorithms)
    (hkeyId : allowedKeyIds = [] ∨ keyId ∈ allowedKeyIds) :
    verifyTransportPacket c hmac built key allowedAlgorithms allowedKeyIds = .ok () := by
  unfold buildTransportPacket at h
  split at h
  · unfold signTransportPacket at h
    split at h
    · cases h
    · cases h
      exact verify_of_signature rfl rfl halgorithm hkeyId rfl
  · cases h

end Verifies

/-! ## A signature of another packet -/

/-- Two packets agree on every field of the signing view, mappings whatever the order of their
    keys. -/
structure AgreeOnView (packet other : TransportPacket) : Prop where
  packetType : packet.header.packetType = other.header.packetType
  action : packet.header.action = other.header.action
  schemaVersion : packet.header.schemaVersion = other.header.schemaVersion
  idempotencyKey : packet.header.idempotencyKey = other.header.idempotencyKey
  traceId : packet.header.traceId = other.header.traceId
  correlationId : packet.header.correlationId = other.header.correlationId
  workflowId : packet.header.workflowId = other.header.workflowId
  provenance : (Json.obj packet.provenance).canonicalData = (Json.obj other.provenance).canonicalData
  governance : (Json.obj packet.governance).canonicalData = (Json.obj other.governance).canonicalData
  attachments : packet.attachments = other.attachments
  payload : (Json.obj packet.payload).canonicalData = (Json.obj other.payload).canonicalData

/-- Fields of objects of one canonical form have one canonical form. -/
theorem field_of_canonicalData_eq {v w : Json} (h : v.canonicalData = w.canonicalData)
    (key : String) {x y : Json} (hx : v.get? key = some x) (hy : w.get? key = some y) :
    x.canonicalData = y.canonicalData := by
  have hfield := congrArg (Json.get? key) h
  rw [Json.get?_canonicalData, Json.get?_canonicalData, hx, hy] at hfield
  exact Option.some.inj hfield

theorem TransportPacketType.value_injective : Function.Injective TransportPacketType.value := by
  intro a b h
  cases a <;> cases b <;> first | rfl | exact absurd h (by decide)

theorem TransportAttachment.toJson_canonicalData_injective :
    Function.Injective fun attachment : TransportAttachment => attachment.toJson.canonicalData := by
  intro a b h
  have hid := field_of_canonicalData_eq h "attachment_id" rfl rfl
  have huri := field_of_canonicalData_eq h "uri" rfl rfl
  have hmedia := field_of_canonicalData_eq h "media_type" rfl rfl
  have hhash := field_of_canonicalData_eq h "content_hash" rfl rfl
  have hsize := field_of_canonicalData_eq h "size_bytes" rfl rfl
  have hencrypted := field_of_canonicalData_eq h "encrypted" rfl rfl
  cases a
  cases b
  simp only [Json.canonicalData, Json.str.injEq, Json.int.injEq, Json.bool.injEq] at *
  simp [*]

variable {packet other : TransportPacket}

/-- Equal canonical forms of the views, field by field. -/
theorem agreeOnView_of_view (h : (transportSigningView packet).canonicalData =
    (transportSigningView other).canonicalData) : AgreeOnView packet other := by
  have hheader : packet.header.signingJson.canonicalData = other.header.signingJson.canonicalData :=
    field_of_canonicalData_eq h "header" rfl rfl
  have htext : ∀ key : String, ∀ {x y : String}, packet.header.signingJson.get? key = some (.str x) →
      other.header.signingJson.get? key = some (.str y) → x = y := fun key _ _ hx hy =>
    Json.str.inj (field_of_canonicalData_eq hheader key hx hy)
  have hworkflow : ((packet.header.workflowId.map Json.str).getD .null).canonicalData =
      ((other.header.workflowId.map Json.str).getD .null).canonicalData :=
    field_of_canonicalData_eq hheader "workflow_id" rfl rfl
  have hattachments := field_of_canonicalData_eq h "attachments" rfl rfl
  rw [Json.canonicalData, Json.canonicalData, Json.canonicalItems_eq_map,
    Json.canonicalItems_eq_map, List.map_map, List.map_map] at hattachments
  exact
    { packetType := TransportPacketType.value_injective (htext "packet_type" rfl rfl)
      action := htext "action" rfl rfl
      schemaVersion := htext "schema_version" rfl rfl
      idempotencyKey := htext "idempotency_key" rfl rfl
      traceId := htext "trace_id" rfl rfl
      correlationId := htext "correlation_id" rfl rfl
      workflowId := by
        cases hx : packet.header.workflowId <;> cases hy : other.header.workflowId <;>
          simp_all [Json.canonicalData]
      provenance := field_of_canonicalData_eq h "provenance" rfl rfl
      governance := field_of_canonicalData_eq h "governance" rfl rfl
      attachments := List.map_injective_iff.2 TransportAttachment.toJson_canonicalData_injective
        (Json.arr.inj hattachments)
      payload := field_of_canonicalData_eq h "payload" rfl rfl }

/-- One code of two packets, under whatever keys, is the code of one view. -/
theorem agreeOnView_of_value {c : Codec} {hmac : Hmac} (hc : c.Faithful)
    (hhmac : hmac.CollisionFree) {key key' : ByteArray}
    (h : signatureValue c hmac packet key = signatureValue c hmac other key') :
    AgreeOnView packet other := by
  have hcode := (String.append_right_inj _).1 h
  exact agreeOnView_of_view (hc.canonicalBytes_inj.1 (hhmac _ _ _ _ hcode))

/-- The signature by which a packet verifies. -/
structure VerifiesBy (c : Codec) (hmac : Hmac) (packet : TransportPacket) (key : ByteArray)
    (allowedAlgorithms allowedKeyIds : List String) (signature : TransportSignature) : Prop where
  candidate : signature ∈ candidateSignatures packet allowedAlgorithms allowedKeyIds
  compared : compareDigest signature.value (signatureValue c hmac packet key) = .ok true

/-- What verifies does so by one of its signatures. -/
theorem exists_verifiesBy {c : Codec} {hmac : Hmac} {key : ByteArray}
    {allowedAlgorithms allowedKeyIds : List String}
    (h : verifyTransportPacket c hmac packet key allowedAlgorithms allowedKeyIds = .ok ()) :
    ∃ signature, VerifiesBy c hmac packet key allowedAlgorithms allowedKeyIds signature := by
  have hany : ∀ signatures, anyMatches (signatureValue c hmac packet key) signatures = .ok true →
      ∃ signature ∈ signatures,
        compareDigest signature.value (signatureValue c hmac packet key) = .ok true := by
    intro signatures hmatches
    induction signatures with
    | nil => cases hmatches
    | cons signature rest ih =>
        rw [anyMatches] at hmatches
        cases hcompare : compareDigest signature.value (signatureValue c hmac packet key) with
        | error error =>
            rw [hcompare] at hmatches
            cases hmatches
        | ok equal =>
            cases equal with
            | true => exact ⟨signature, List.mem_cons_self, hcompare⟩
            | false =>
                rw [hcompare] at hmatches
                obtain ⟨found, hfound, hequal⟩ := ih hmatches
                exact ⟨found, List.mem_cons_of_mem _ hfound, hequal⟩
  simp only [verifyTransportPacket] at h
  split at h
  · cases h
  · split at h
    · cases h
    · split at h
      · cases h
      · cases h
      · next hmatches =>
          obtain ⟨signature, hcandidate, hcompared⟩ := hany _ hmatches
          exact ⟨signature, hcandidate, hcompared⟩

/-- **Signing is complete and sound.** What is signed verifies, also after it has been written as
    canonical JSON and read back. What verifies does so by a signature it carries, and if the value
    of that signature was made for another packet, the two agree on every field of the view. -/
theorem transport_signing {c : Codec} {hmac : Hmac} (hc : c.Faithful)
    (hhmac : hmac.CollisionFree) :
    (∀ (packet : TransportPacket) (key : ByteArray) (keyId : String)
        (allowedAlgorithms allowedKeyIds : List String),
      key.size ≠ 0 → "hmac-sha256" ∈ allowedAlgorithms →
        allowedKeyIds = [] ∨ keyId ∈ allowedKeyIds →
          ∃ signed, signTransportPacket c hmac packet key keyId = .ok signed ∧
            verifyTransportPacket c hmac signed key allowedAlgorithms allowedKeyIds = .ok () ∧
            ∀ (pydantic : Pydantic) (loads : String → Option Json),
              loads (c.canonicalJson signed.toJson) = some signed.toJson.canonicalData →
                ∃ received, (loads (c.canonicalJson signed.toJson)).bind
                    (TransportPacket.ofJson pydantic) = some received ∧
                  verifyTransportPacket c hmac received key allowedAlgorithms allowedKeyIds =
                    .ok ()) ∧
    ∀ (packet : TransportPacket) (key : ByteArray) (allowedAlgorithms allowedKeyIds : List String),
      verifyTransportPacket c hmac packet key allowedAlgorithms allowedKeyIds = .ok () →
        (∃ signature, VerifiesBy c hmac packet key allowedAlgorithms allowedKeyIds signature) ∧
        ∀ (signature : TransportSignature) (other signed : TransportPacket) (key' : ByteArray)
            (keyId : String),
          VerifiesBy c hmac packet key allowedAlgorithms allowedKeyIds signature →
            signTransportPacket c hmac other key' keyId = .ok signed →
              signature.value ∈ signed.security.signatures.map TransportSignature.value →
                AgreeOnView packet other := by
  constructor
  · intro packet key keyId allowedAlgorithms allowedKeyIds hkey halgorithm hkeyId
    obtain ⟨hverified, hreceived⟩ :
        verifyTransportPacket c hmac (signedPacket c hmac packet key keyId) key allowedAlgorithms
          allowedKeyIds = .ok () ∧ _ := verify_signed halgorithm hkeyId
    refine ⟨_, signTransportPacket_of_key hkey, hverified, ?_⟩
    intro pydantic loads hloads
    refine ⟨_, ?_, hreceived⟩
    rw [hloads]
    exact TransportPacket.ofJson_toJson _
  · intro packet key allowedAlgorithms allowedKeyIds h
    refine ⟨exists_verifiesBy h, ?_⟩
    intro signature other signed key' keyId hby hsigned hvalue
    have hsame := compareDigest_eq_true hby.compared
    unfold signTransportPacket at hsigned
    split at hsigned
    · cases hsigned
    · cases hsigned
      rw [List.map_singleton, List.mem_singleton] at hvalue
      exact agreeOnView_of_value hc hhmac (hsame.symm.trans hvalue)

/-- Two letters for each byte of the message. -/
def letterHmac : Hmac where
  hexdigest _ message := String.ofList (message.data.toList.flatMap fun byte =>
    [Char.ofNat (97 + byte.toNat / 16), Char.ofNat (97 + byte.toNat % 16)])
  ascii := by
    intro _ message ch hch
    rw [String.toList_ofList, List.mem_flatMap] at hch
    obtain ⟨byte, -, hch⟩ := hch
    have hbyte := byte.toNat_lt
    simp only [List.mem_cons, List.not_mem_nil, or_false] at hch
    rcases hch with rfl | rfl
    · rw [toNat_ofNat_of_lt (by omega)]
      omega
    · rw [toNat_ofNat_of_lt (by omega)]
      omega

theorem letterHmac_collisionFree : letterHmac.CollisionFree := by
  intro _ message _ message' h
  have hletters := String.ofList_injective h
  have hbytes : ∀ xs ys : List UInt8,
      (xs.flatMap fun byte => [Char.ofNat (97 + byte.toNat / 16),
        Char.ofNat (97 + byte.toNat % 16)]) =
      (ys.flatMap fun byte => [Char.ofNat (97 + byte.toNat / 16),
        Char.ofNat (97 + byte.toNat % 16)]) → xs = ys := by
    intro xs
    induction xs with
    | nil =>
        intro ys hys
        cases ys with
        | nil => rfl
        | cons y ys => cases hys
    | cons x xs ih =>
        intro ys hys
        cases ys with
        | nil => cases hys
        | cons y ys =>
            simp only [List.flatMap_cons, List.cons_append, List.nil_append, List.cons.injEq] at hys
            obtain ⟨hhigh, hlow, hrest⟩ := hys
            have hx := x.toNat_lt
            have hy := y.toNat_lt
            have hhigh := congrArg Char.toNat hhigh
            have hlow := congrArg Char.toNat hlow
            rw [toNat_ofNat_of_lt (by omega), toNat_ofNat_of_lt (by omega)] at hhigh hlow
            rw [ih ys hrest, UInt8.toNat_inj.1 (show x.toNat = y.toNat by omega)]
  exact ByteArray.ext (Array.toList_inj.1 (hbytes _ _ hletters))

/-- A dispatch whose payload has two keys and a null. -/
def dispatchPacket : TransportPacket where
  header :=
    { packetId := "packet:pending"
      packetType := .command
      action := "compile-topology"
      schemaVersion := "transport-packet/1.0.0"
      idempotencyKey := "sha256:idempotent"
      traceId := "trace:1"
      correlationId := "correlation:1" }
  payload := [("payload_schema", .str "l9.stage-dispatch/1.0.0"), ("data", .null)]

/-- The same dispatch under a date, its payload in another order. -/
def datedPacket : TransportPacket :=
  { dispatchPacket with
    header := { dispatchPacket.header with createdAt := some ⟨"2024-01-01T00:00:00Z"⟩ }
    payload := [("data", .null), ("payload_schema", .str "l9.stage-dispatch/1.0.0")] }

theorem datedPacket_view (c : Codec) :
    (transportSigningView (datedPacket.identified c)).canonicalData =
      (transportSigningView (dispatchPacket.identified c)).canonicalData := rfl

/-- Both verify, and the one by the signature that was made for the other. -/
theorem transport_signing_dispatch :
    ∃ signed dated,
      signTransportPacket textCodec letterHmac dispatchPacket "key".toUTF8 "hmac-v1" = .ok signed ∧
      signTransportPacket textCodec letterHmac datedPacket "key".toUTF8 "hmac-v1" = .ok dated ∧
      verifyTransportPacket textCodec letterHmac signed "key".toUTF8 ["hmac-sha256"] ["hmac-v1"] =
        .ok () ∧
      verifyTransportPacket textCodec letterHmac dated "key".toUTF8 ["hmac-sha256"] ["hmac-v1"] =
        .ok () ∧
      AgreeOnView dated dispatchPacket := by
  have hsigning := transport_signing textCodec_faithful letterHmac_collisionFree
  obtain ⟨signed, hsigned, hverified, -⟩ := hsigning.1 dispatchPacket "key".toUTF8 "hmac-v1"
    ["hmac-sha256"] ["hmac-v1"] (by decide) (by decide) (by decide)
  obtain ⟨dated, hdated, hdatedVerified, -⟩ := hsigning.1 datedPacket "key".toUTF8 "hmac-v1"
    ["hmac-sha256"] ["hmac-v1"] (by decide) (by decide) (by decide)
  obtain ⟨⟨signature, hby⟩, hagree⟩ := hsigning.2 dated _ _ _ hdatedVerified
  refine ⟨signed, dated, hsigned, hdated, hverified, hdatedVerified,
    hagree signature dispatchPacket signed _ _ hby hsigned ?_⟩
  have hvalue := List.mem_map_of_mem (f := TransportSignature.value)
    (List.mem_of_mem_filter hby.candidate)
  rw [signTransportPacket_of_key (by decide), Except.ok.injEq] at hsigned hdated
  subst hsigned hdated
  have hsame : signatureValue textCodec letterHmac (datedPacket.identified textCodec) "key".toUTF8 =
      signatureValue textCodec letterHmac (dispatchPacket.identified textCodec) "key".toUTF8 :=
    signatureValue_congr (datedPacket_view _) _
  rw [signedPacket, List.map_singleton, hsame] at hvalue
  exact hvalue

end ConstellationTopology
