import ConstellationTopology.CompileIdentity
import ConstellationTopology.Validation.FindingIdentity
import ConstellationTopology.Worker.Contracts
import ConstellationTopology.Worker.Signature

set_option autoImplicit false

/-! # Admitting a dispatch

`validate_stage_dispatch` of `worker/stage_runner.py`: the signed command is read, compared with the
local profiles, the clock and the checkout, and its idempotency key is calculated again from what it
asks for (`calculate_idempotency_key`). So the keys of two admitted dispatches say whether they ask
for the same work (`admitted_key_iff`), and a dispatch is authority for a window of time only
(`admission_window`). -/

namespace ConstellationTopology

/-! ## The idempotency key -/

/-- The hash of every semantic input of a compile. -/
def idempotencyInputs (policies : CompilerPolicies) (inputRefs : List PacketRef)
    (configuration : ResolvedConfiguration) (compilerBuildIdentity : Option String)
    (adapterMode : String) : Json :=
  .obj [("packet_type", .str "l9.topology"), ("packet_version", .str "1.0.0"),
    ("input_semantic_hashes", Json.strings (sortedBy id (inputRefs.map PacketRef.semanticHash))),
    ("compiler_name", .str compilerProducer.name),
    ("compiler_version", .str compilerProducer.version),
    ("compiler_build_identity", .str (match compilerBuildIdentity with
      | some identity => if identity = "" then "version:" ++ compilerProducer.version else identity
      | none => "version:" ++ compilerProducer.version)),
    ("configuration_profile_hash", .str configuration.profileHash),
    ("schema_contract_hash", .str configuration.schemaContractHash),
    ("active_contract_versions", textFields configuration.activeContractVersions),
    ("reconciliation_policy_version", .str "2.0.0"),
    ("reconciliation_policy_hash", .str policies.reconciliationPolicyHash),
    ("predicate_policy_version", .str "1.4.0"),
    ("predicate_policy_hash", .str policies.predicatePolicyHash),
    ("edge_taxonomy_version", .str "2.0.0"), ("edge_taxonomy_hash", .str policies.edgeTaxonomyHash),
    ("adapter_mode", .str adapterMode)]

/-- `calculate_idempotency_key`. -/
def calculateIdempotencyKey (c : Codec) (policies : CompilerPolicies) (inputRefs : List PacketRef)
    (configuration : ResolvedConfiguration) (compilerBuildIdentity : Option String)
    (adapterMode : String) : String :=
  c.semanticHash
    (idempotencyInputs policies inputRefs configuration compilerBuildIdentity adapterMode)

/-! ## The dispatch -/

/-- A datetime: the microseconds of an aware one; a naive one is no moment. -/
inductive DispatchTime
  | aware (microseconds : ℤ)
  | naive

/-- `StageDispatchData`. -/
structure StageDispatchData where
  runId : String
  stageId : String
  workflowId : String
  action : String
  targetRepository : String
  targetRevision : String
  inputPackets : List PacketRef
  profile : ProfileRef
  issuedAt : DispatchTime
  expiresAt : DispatchTime
  dispatchNonce : String
  callback : Option String := none
  outputUri : Option String := none

/-- The payload of a dispatch. -/
structure StageDispatchPayload where
  payloadSchema : String := "l9.stage-dispatch/1.0.0"
  data : StageDispatchData

/-- What the admission is run with; the clock is in microseconds. -/
structure AdmissionEnvironment where
  policies : CompilerPolicies
  hmac : Hmac
  key : ByteArray
  /-- `str(value)` -/
  str : Json → String
  /-- `left == right` -/
  equal : Json → Json → Bool
  /-- `StageDispatchPayload.model_validate` -/
  modelValidate : JsonMapping → Option StageDispatchPayload
  now : ℤ
  /-- `_current_git_revision`, where the revision is enforced -/
  checkout : Option (Except StageException String)

/-- The repository a dispatch has to name. -/
def targetRepositoryName : String := "Quantum-L9/l9-constellation-topology"

/-- `MAX_CLOCK_SKEW`. -/
def maxClockSkew : ℤ := 2 * 60 * 1000000

/-- `MAX_DISPATCH_TTL`. -/
def maxDispatchTtl : ℤ := 15 * 60 * 1000000

/-- `_normalize_revision`. -/
def normalizeRevision (value : String) : String := removeMarker "git:" value

/-- `re.fullmatch(r"[0-9a-f]{40}|[0-9a-f]{64}", revision)`. -/
def isObjectId (revision : String) : Bool :=
  (revision.toList.length = 40 ∨ revision.toList.length = 64) ∧
    (revision.toList.all fun ch => "0123456789abcdef".toList.contains ch) = true

section

variable (c : Codec) (env : AdmissionEnvironment) (configuration : ResolvedConfiguration)

/-- `str(value) for value in profile.get(key, ())`. -/
def profileTexts (key : String) (profile : Json) : Except StageException (List String) :=
  match profile.get? key with
  | none => .ok []
  | some value =>
      ((sequenceItems value).mapError fun exc => .other exc "").map (List.map env.str)

/-- The truth of `profile.get(key, default)`. -/
def profileFlag (key : String) (fallback : Bool) (profile : Json) : Bool :=
  match profile.get? key with
  | some value => value.truthy
  | none => fallback

/-- What the worker raises for it. -/
def VerificationError.raised : VerificationError → StageException
  | .worker error => .worker error
  | .typeError message => .other "TypeError" message

/-- The signature, if the profile asks for one. -/
def checkSignature (packet : TransportPacket) : Except StageException Unit := do
  let algorithms ← profileTexts env "allowed_signature_algorithms" configuration.packetProfile
  let keyIds ← profileTexts env "allowed_key_ids" configuration.packetProfile
  if profileFlag "require_signature" true configuration.packetProfile then
    (verifyTransportPacket c env.hmac packet env.key algorithms keyIds).mapError
      VerificationError.raised
  else return ()

/-- The moment of a datetime that is compared with the clock. -/
def DispatchTime.compared : DispatchTime → Except StageException ℤ
  | aware microseconds => .ok microseconds
  | naive => .error (.other "TypeError" "can't compare offset-naive and offset-aware datetimes")

/-- `_validate_dispatch_freshness`. -/
def validateDispatchFreshness (now : ℤ) (data : StageDispatchData) :
    Except StageException Unit := do
  let issuedAt ← data.issuedAt.compared
  demand (issuedAt ≤ now + maxClockSkew) (blockedFailure "dispatch-issued-in-future"
    "dispatch issued_at is further in the future than the allowed clock skew")
  let expiresAt ← data.expiresAt.compared
  demand (now < expiresAt) (blockedFailure "dispatch-expired"
    "dispatch expires_at is in the past; stale authority is rejected")
  demand (expiresAt - issuedAt ≤ maxDispatchTtl) (blockedFailure "dispatch-ttl-too-long"
    "dispatch validity window exceeds the maximum admission TTL")

/-- The header, the payload schema, the action and the target. -/
def checkDispatch (packet : TransportPacket) (dispatch : StageDispatchPayload) :
    Except StageException Unit := do
  let data := dispatch.data
  let schemas ← profileTexts env "allowed_payload_schemas" configuration.packetProfile
  demand (dispatch.payloadSchema ∈ schemas) (blockedFailure "dispatch-payload-schema-forbidden"
    ("payload schema is not allowlisted: " ++ dispatch.payloadSchema))
  demand (packet.header.action = data.action) (blockedFailure "dispatch-action-mismatch"
    "TransportPacket header action does not match stage payload action")
  demand (packet.header.workflowId = none ∨ packet.header.workflowId = some data.workflowId)
    (blockedFailure "dispatch-workflow-mismatch"
      "TransportPacket workflow_id does not match stage payload workflow_id")
  validateDispatchFreshness env.now data
  let actions ← profileTexts env "allowed_actions" configuration.packetProfile
  demand (data.action ∈ actions) (blockedFailure "dispatch-action-forbidden"
    ("action is not allowlisted: " ++ data.action))
  let repositories ← profileTexts env "allowed_target_repositories" configuration.packetProfile
  demand (data.targetRepository ∈ repositories ∧ data.targetRepository = targetRepositoryName)
    (blockedFailure "dispatch-target-forbidden"
      ("target repository is not allowlisted: " ++ data.targetRepository))

/-- The revision is a Git object id, and that of the checkout where this is enforced. -/
def checkRevision (data : StageDispatchData) : Except StageException Unit := do
  let targetRevision := normalizeRevision data.targetRevision
  demand (isObjectId targetRevision = true) (blockedFailure "target-revision-invalid"
    "target revision must be an exact lowercase Git object ID")
  match env.checkout with
  | none => return ()
  | some answer => do
      let currentRevision ← answer
      demand (targetRevision = currentRevision) (blockedFailure "target-revision-mismatch"
        ("worker checkout is " ++ currentRevision ++ ", dispatch requires " ++ data.targetRevision))

/-- The compiler profile, the callback and the output. -/
def checkProfile (data : StageDispatchData) : Except StageException Unit := do
  let mismatch := blockedFailure "topology-profile-mismatch"
    "dispatch profile does not match the checked-out compiler profile"
  let id ← (profileKey "id" configuration.topologyProfile).mapError fun exc => .other exc ""
  demand (data.profile.id = env.str id) mismatch
  let version ← (profileKey "version" configuration.topologyProfile).mapError fun exc =>
    .other exc ""
  demand (data.profile.version = env.str version) mismatch
  demand (data.profile.hash = c.semanticHash configuration.topologyProfile) mismatch
  demand (profileFlag "require_callback" false configuration.packetProfile = false ∨
      data.callback.isSome = true) (blockedFailure "dispatch-callback-missing"
    "the foundational worker profile requires a stage callback")
  demand (profileFlag "require_output_uri" false configuration.packetProfile = false ∨
      data.outputUri.isSome = true) (blockedFailure "dispatch-output-uri-missing"
    "the foundational worker profile requires an immutable output URI")

/-- One turn of the loop over the input references. -/
def checkInputReference (requiredVersions : List String) (reference : PacketRef) :
    Except StageException Unit := do
  demand (reference.packetType = "l9.repository-model") (blockedFailure "input-packet-type-invalid"
    ("expected l9.repository-model, got " ++ reference.packetType))
  demand (reference.packetVersion ∈ requiredVersions) (blockedFailure "unsupported-contract-version"
    ("Repository Model Packet version is not supported: " ++ reference.packetVersion))
  demand (reference.validationStatus = .passed) (blockedFailure "input-validation-failed"
    ("input packet is not validated: " ++ reference.packetId))
  demand (reference.sourceRevision.isSome = true) (blockedFailure "input-source-revision-missing"
    ("input packet lacks source revision: " ++ reference.packetId))

/-- The checks of the input references. -/
def checkInputReferences (data : StageDispatchData) : Except StageException Unit := do
  let requiredVersions ← profileTexts env "required_repository_packet_versions"
    configuration.topologyProfile
  demand (data.inputPackets ≠ []) (blockedFailure "input-packets-missing"
    "compile-topology requires at least one Repository Model Packet")
  let _ ← data.inputPackets.mapM (checkInputReference requiredVersions)
  return ()

/-- `value is False`. -/
def isFalseValue : Json → Bool
  | .bool value => !value
  | _ => false

/-- The key and the provenance. -/
def checkIdentity (packet : TransportPacket) (data : StageDispatchData) :
    Except StageException Unit := do
  let expected := calculateIdempotencyKey c env.policies data.inputPackets configuration
    (some (normalizeRevision data.targetRevision)) "canonical"
  demand (packet.header.idempotencyKey = expected) (blockedFailure "idempotency-key-mismatch"
    ("expected " ++ expected ++ ", got " ++ packet.header.idempotencyKey))
  demand ((packet.provenance.lookup "resolved_by_gate").any isFalseValue = true)
    (blockedFailure "dispatch-resolution-invalid"
      "foundational profile requires provenance.resolved_by_gate=false")
  demand (env.equal ((packet.provenance.lookup "resolver").getD .null)
      ((configuration.packetProfile.get? "resolver").getD .null) = true)
    (blockedFailure "dispatch-resolver-invalid"
      "dispatch resolver does not match the foundational packet profile")

/-- `validate_stage_dispatch`. -/
def validateStageDispatch (packet : TransportPacket) :
    Except StageException StageDispatchPayload := do
  checkSignature c env configuration packet
  demand (packet.header.packetType = .command) (blockedFailure "dispatch-packet-type-invalid"
    "topology stage dispatch requires header.packet_type=command")
  demand (packet.header.schemaVersion = "transport-packet/1.0.0")
    (blockedFailure "transport-version-unsupported"
      ("unsupported transport schema: " ++ packet.header.schemaVersion))
  let dispatch ← expect (env.modelValidate packet.payload) (.other "ValidationError" "")
  checkDispatch env configuration packet dispatch
  checkRevision env dispatch.data
  checkProfile c env configuration dispatch.data
  checkInputReferences env configuration dispatch.data
  checkIdentity c env configuration packet dispatch.data
  return dispatch

end

/-! ## What the key says -/

/-- Two dispatches ask for one piece of work under two configurations. -/
structure SameWork (policies policies' : CompilerPolicies)
    (configuration configuration' : ResolvedConfiguration)
    (data data' : StageDispatchData) : Prop where
  inputs : (data.inputPackets.map PacketRef.semanticHash).Perm
    (data'.inputPackets.map PacketRef.semanticHash)
  revision : normalizeRevision data.targetRevision = normalizeRevision data'.targetRevision
  profile : configuration.profileHash = configuration'.profileHash
  schemaContract : configuration.schemaContractHash = configuration'.schemaContractHash
  contracts : (textFields configuration.activeContractVersions).semantic =
    (textFields configuration'.activeContractVersions).semantic
  reconciliation : policies.reconciliationPolicyHash = policies'.reconciliationPolicyHash
  predicates : policies.predicatePolicyHash = policies'.predicatePolicyHash
  edgeTaxonomy : policies.edgeTaxonomyHash = policies'.edgeTaxonomyHash

theorem sortedBy_id_eq_iff {xs ys : List String} :
    sortedBy id xs = sortedBy id ys ↔ xs.Perm ys := by
  constructor
  · intro h
    exact (sortedBy_perm id xs).symm.trans (h ▸ sortedBy_perm id ys)
  · intro h
    exact sortedBy_congr (fun _ _ _ _ heq => heq) h

theorem ne_empty_of_isObjectId {revision : String} (h : isObjectId revision = true) :
    revision ≠ "" := by
  rintro rfl
  exact absurd h (by decide)

/-- The inputs of the key, where a build identity is given. -/
theorem idempotencyInputs_semantic_iff {policies policies' : CompilerPolicies}
    {configuration configuration' : ResolvedConfiguration} {data data' : StageDispatchData}
    (h : isObjectId (normalizeRevision data.targetRevision) = true)
    (h' : isObjectId (normalizeRevision data'.targetRevision) = true) :
    (idempotencyInputs policies data.inputPackets configuration
        (some (normalizeRevision data.targetRevision)) "canonical").semantic =
      (idempotencyInputs policies' data'.inputPackets configuration'
        (some (normalizeRevision data'.targetRevision)) "canonical").semantic ↔
      SameWork policies policies' configuration configuration' data data' := by
  -- an object id is not empty, so the version never stands in for it
  rw [idempotencyInputs, idempotencyInputs, if_neg (ne_empty_of_isObjectId h),
    if_neg (ne_empty_of_isObjectId h')]
  constructor
  · intro hinputs
    have hhashes := Json.field_of_semantic_eq hinputs "input_semantic_hashes" rfl rfl
    constructor
    · rw [FindingKey.semantic_strings, FindingKey.semantic_strings] at hhashes
      exact sortedBy_id_eq_iff.1 (FindingKey.strings_injective hhashes)
    · exact Json.str.inj (Json.field_of_semantic_eq hinputs "compiler_build_identity" rfl rfl)
    · exact Json.str.inj (Json.field_of_semantic_eq hinputs "configuration_profile_hash" rfl rfl)
    · exact Json.str.inj (Json.field_of_semantic_eq hinputs "schema_contract_hash" rfl rfl)
    · exact Json.field_of_semantic_eq hinputs "active_contract_versions" rfl rfl
    · exact Json.str.inj (Json.field_of_semantic_eq hinputs "reconciliation_policy_hash" rfl rfl)
    · exact Json.str.inj (Json.field_of_semantic_eq hinputs "predicate_policy_hash" rfl rfl)
    · exact Json.str.inj (Json.field_of_semantic_eq hinputs "edge_taxonomy_hash" rfl rfl)
  · intro hwork
    rw [sortedBy_id_eq_iff.2 hwork.inputs, hwork.revision, hwork.profile, hwork.schemaContract,
      hwork.reconciliation, hwork.predicates, hwork.edgeTaxonomy]
    -- all fields but the contract versions are the same by now
    refine Json.semantic_obj_congr ?_
    iterate 8 refine .cons ⟨rfl, rfl⟩ ?_
    refine .cons ⟨rfl, hwork.contracts⟩ ?_
    iterate 7 refine .cons ⟨rfl, rfl⟩ ?_
    exact .nil

/-! ## What an admitted dispatch is -/

section Admitted

variable {c : Codec} {env env' : AdmissionEnvironment}
  {configuration configuration' : ResolvedConfiguration} {packet packet' : TransportPacket}
  {dispatch dispatch' : StageDispatchPayload}

/-- The dispatch is authority from a moment to another, not too long after it. -/
structure AuthorityWindow (data : StageDispatchData) (issuedAt expiresAt : ℤ) : Prop where
  issued : data.issuedAt = .aware issuedAt
  expires : data.expiresAt = .aware expiresAt
  lifetime : expiresAt - issuedAt ≤ maxDispatchTtl

theorem compared_eq_ok {time : DispatchTime} {microseconds : ℤ} :
    time.compared = .ok microseconds ↔ time = .aware microseconds := by
  cases time <;> simp [DispatchTime.compared]

/-- What the admission of a dispatch settles of its authority. -/
structure AdmittedDispatch (c : Codec) (env : AdmissionEnvironment)
    (configuration : ResolvedConfiguration) (packet : TransportPacket)
    (data : StageDispatchData) : Prop where
  fresh : ∃ issuedAt expiresAt, AuthorityWindow data issuedAt expiresAt ∧
    issuedAt ≤ env.now + maxClockSkew ∧ env.now < expiresAt
  revision : isObjectId (normalizeRevision data.targetRevision) = true
  key : packet.header.idempotencyKey = calculateIdempotencyKey c env.policies data.inputPackets
    configuration (some (normalizeRevision data.targetRevision)) "canonical"

theorem validateStageDispatch_spec
    (h : validateStageDispatch c env configuration packet = .ok dispatch) :
    AdmittedDispatch c env configuration packet dispatch.data := by
  simp only [validateStageDispatch, bind_eq_ok, demand_eq_ok, expect_eq_ok, pure_eq_ok] at h
  obtain ⟨_, -, _, -, _, -, found, -, _, hdispatch, _, hrevision, _, -, _, -, _, hidentity, rfl⟩ := h
  simp only [checkDispatch, validateDispatchFreshness, bind_eq_ok, demand_eq_ok,
    compared_eq_ok] at hdispatch
  obtain ⟨_, -, _, -, _, -, _, -, _, ⟨issuedAt, hissued, _, hbegun, expiresAt, hexpires, _,
    hunexpired, hlifetime⟩, -⟩ := hdispatch
  simp only [checkRevision, bind_eq_ok, demand_eq_ok] at hrevision
  simp only [checkIdentity, bind_eq_ok, demand_eq_ok] at hidentity
  exact ⟨⟨issuedAt, expiresAt, ⟨hissued, hexpires, hlifetime⟩, hbegun, hunexpired⟩,
    hrevision.choose_spec.1, hidentity.choose_spec.1⟩

/-- A dispatch that is admitted twice is admitted within seventeen minutes. -/
theorem admitted_within
    (h : validateStageDispatch c env configuration packet = .ok dispatch)
    (h' : validateStageDispatch c env' configuration' packet' = .ok dispatch)
    : env'.now - env.now < maxDispatchTtl + maxClockSkew := by
  obtain ⟨issuedAt, expiresAt, hwindow, hbegun, -⟩ := (validateStageDispatch_spec h).fresh
  obtain ⟨issuedAt', expiresAt', hwindow', -, hunexpired⟩ := (validateStageDispatch_spec h').fresh
  -- both admissions read the same two moments
  obtain rfl := DispatchTime.aware.inj (hwindow.expires.symm.trans hwindow'.expires)
  have hlifetime := hwindow.lifetime
  omega

/-- The window of a dispatch that does not live too long. -/
theorem validateDispatchFreshness_eq {data : StageDispatchData} {issuedAt expiresAt : ℤ} (now : ℤ)
    (h : AuthorityWindow data issuedAt expiresAt) :
    validateDispatchFreshness now data =
      if now + maxClockSkew < issuedAt then
        .error (blockedFailure "dispatch-issued-in-future"
          "dispatch issued_at is further in the future than the allowed clock skew")
      else if expiresAt ≤ now then
        .error (blockedFailure "dispatch-expired"
          "dispatch expires_at is in the past; stale authority is rejected")
      else .ok () := by
  rw [validateDispatchFreshness, bind_of_ok (compared_eq_ok.2 h.issued)]
  by_cases hissued : now + maxClockSkew < issuedAt
  · rw [if_pos hissued, demand, if_neg (by omega)]
    rfl
  · rw [if_neg hissued, bind_of_ok (demand_of (by omega)),
      bind_of_ok (compared_eq_ok.2 h.expires)]
    by_cases hexpired : expiresAt ≤ now
    · rw [if_pos hexpired, demand, if_neg (by omega)]
      rfl
    · rw [if_neg hexpired, bind_of_ok (demand_of (by omega))]
      exact demand_of h.lifetime

/-- The checks of the header and the payload, once passed, are left with the clock. -/
theorem checkDispatch_at (h : checkDispatch env configuration packet dispatch = .ok ()) (now : ℤ) :
    checkDispatch { env with now := now } configuration packet dispatch =
      validateDispatchFreshness now dispatch.data := by
  simp only [checkDispatch, bind_eq_ok, demand_eq_ok] at h
  obtain ⟨schemas, hschemas, _, hschema, _, haction, _, hworkflow, _, -, actions, hactions, _,
    hallowed, repositories, hrepositories, htarget⟩ := h
  have hprofile : ∀ key, profileTexts { env with now := now } key configuration.packetProfile =
      profileTexts env key configuration.packetProfile := fun _ => rfl
  rw [checkDispatch, hprofile, hprofile, hprofile, bind_of_ok hschemas,
    bind_of_ok (demand_of hschema), bind_of_ok (demand_of haction),
    bind_of_ok (demand_of hworkflow)]
  cases validateDispatchFreshness now dispatch.data with
  | error exception => rfl
  | ok _ =>
      rw [bind_of_ok rfl, bind_of_ok hactions, bind_of_ok (demand_of hallowed),
        bind_of_ok hrepositories]
      exact demand_of htarget

/-- Once the dispatch was admitted, the clock alone decides at another moment. -/
theorem validateStageDispatch_at
    (h : validateStageDispatch c env configuration packet = .ok dispatch) (now : ℤ) :
    validateStageDispatch c { env with now := now } configuration packet =
      (validateDispatchFreshness now dispatch.data).map fun _ => dispatch := by
  simp only [validateStageDispatch, bind_eq_ok, demand_eq_ok, expect_eq_ok, pure_eq_ok] at h
  obtain ⟨_, hsignature, _, htype, _, hversion, found, hfound, _, hdispatch, _, hrevision, _,
    hprofile, _, hreferences, _, hidentity, rfl⟩ := h
  -- nothing but the freshness reads the clock
  have hsignature' : checkSignature c { env with now := now } configuration packet = .ok () :=
    hsignature
  have hrevision' : checkRevision { env with now := now } found.data = .ok () := hrevision
  have hprofile' : checkProfile c { env with now := now } configuration found.data = .ok () :=
    hprofile
  have hreferences' : checkInputReferences { env with now := now } configuration found.data =
    .ok () := hreferences
  have hidentity' : checkIdentity c { env with now := now } configuration packet found.data =
    .ok () := hidentity
  rw [validateStageDispatch, bind_of_ok hsignature', bind_of_ok (demand_of htype),
    bind_of_ok (demand_of hversion), bind_of_ok (expect_eq_ok.2 hfound),
    checkDispatch_at hdispatch]
  cases validateDispatchFreshness now found.data with
  | error exception => rfl
  | ok _ =>
      rw [bind_of_ok rfl, bind_of_ok hrevision', bind_of_ok hprofile', bind_of_ok hreferences',
        bind_of_ok hidentity']
      rfl

/-- **The authority of a dispatch is a window of time.** What was admitted once is admitted at another
moment exactly within its window, is refused as stale after it and as premature before it, and no two
admissions of it, whatever the workers, are seventeen minutes apart. -/
theorem admission_window
    (h : validateStageDispatch c env configuration packet = .ok dispatch) :
    ∃ issuedAt expiresAt, AuthorityWindow dispatch.data issuedAt expiresAt ∧
      (∀ now, validateStageDispatch c { env with now := now } configuration packet =
        if now + maxClockSkew < issuedAt then
          .error (blockedFailure "dispatch-issued-in-future"
            "dispatch issued_at is further in the future than the allowed clock skew")
        else if expiresAt ≤ now then
          .error (blockedFailure "dispatch-expired"
            "dispatch expires_at is in the past; stale authority is rejected")
        else .ok dispatch) ∧
      ∀ env' configuration' packet',
        validateStageDispatch c env' configuration' packet' = .ok dispatch →
          env'.now - env.now < maxDispatchTtl + maxClockSkew ∧
            env.now - env'.now < maxDispatchTtl + maxClockSkew := by
  obtain ⟨issuedAt, expiresAt, hwindow, -⟩ := (validateStageDispatch_spec h).fresh
  refine ⟨issuedAt, expiresAt, hwindow, ?_, ?_⟩
  · intro now
    rw [validateStageDispatch_at h, validateDispatchFreshness_eq now hwindow]
    split
    · rfl
    · split <;> rfl
  · intro env' configuration' packet' h'
    exact ⟨admitted_within h h', admitted_within h' h⟩

/-- Two admitted dispatches have one idempotency key exactly if they ask for one piece of work. -/
theorem admitted_key_iff (hc : c.Faithful)
    (h : validateStageDispatch c env configuration packet = .ok dispatch)
    (h' : validateStageDispatch c env' configuration' packet' = .ok dispatch') :
    packet.header.idempotencyKey = packet'.header.idempotencyKey ↔
      SameWork env.policies env'.policies configuration configuration' dispatch.data
        dispatch'.data := by
  have hfirst := validateStageDispatch_spec h
  have hsecond := validateStageDispatch_spec h'
  rw [hfirst.key, hsecond.key, calculateIdempotencyKey, calculateIdempotencyKey,
    hc.semanticHash_inj]
  exact idempotencyInputs_semantic_iff hfirst.revision hsecond.revision

/-! ### A dispatch of two references -/

/-- A foundational profile that asks for no signature. -/
def unsignedConfiguration : ResolvedConfiguration where
  topologyProfile := .obj [("id", .str "topology"), ("version", .str "1.0.0"),
    ("required_repository_packet_versions", .arr [.str "1.0.0"])]
  riskProfile := .obj []
  maturityProfile := .obj []
  reportProfile := .obj []
  packetProfile := .obj [("require_signature", .bool false),
    ("allowed_payload_schemas", .arr [.str "l9.stage-dispatch/1.0.0"]),
    ("allowed_actions", .arr [.str "compile-topology"]),
    ("allowed_target_repositories", .arr [.str targetRepositoryName]),
    ("resolver", .str "gate")]
  outputPolicy := .obj []
  profileHash := "sha256:profiles"
  schemaContractHash := "sha256:schemas"

def modelReference (id hash : String) : PacketRef where
  packetId := id
  packetType := "l9.repository-model"
  packetVersion := "1.0.0"
  uri := "packet://" ++ id
  semanticHash := hash
  validationStatus := .passed
  sourceRevision := some "main"

def pairDispatch (revision : String) (references : List PacketRef) : StageDispatchPayload where
  data := {
    runId := "run"
    stageId := "compile"
    workflowId := "workflow"
    action := "compile-topology"
    targetRepository := targetRepositoryName
    targetRevision := revision
    inputPackets := references
    profile := {
      id := "topology"
      version := "1.0.0"
      hash := textCodec.semanticHash unsignedConfiguration.topologyProfile }
    issuedAt := .aware 0
    expiresAt := .aware 1000000
    dispatchNonce := "nonce" }

/-- A worker whose payloads all mean `dispatch`. -/
def pairEnvironment (dispatch : StageDispatchPayload) : AdmissionEnvironment where
  policies := ⟨"reconciliation", "taxonomy", "predicates"⟩
  hmac := letterHmac
  key := "key".toUTF8
  str value := match value with
    | .str text => text
    | _ => ""
  equal left right := match left, right with
    | .str text, .str text' => text == text'
    | _, _ => false
  modelValidate _ := some dispatch
  now := 0
  checkout := none

def pairPacket (dispatch : StageDispatchPayload) : TransportPacket where
  header := {
    packetId := "transport"
    packetType := .command
    action := "compile-topology"
    schemaVersion := "transport-packet/1.0.0"
    idempotencyKey := calculateIdempotencyKey textCodec (pairEnvironment dispatch).policies
      dispatch.data.inputPackets unsignedConfiguration
      (some (normalizeRevision dispatch.data.targetRevision)) "canonical"
    traceId := "trace"
    correlationId := "correlation" }
  provenance := [("resolved_by_gate", .bool false), ("resolver", .str "gate")]
  payload := []

theorem pairDispatch_admitted {revision id id' hash hash' : String}
    (h : isObjectId (normalizeRevision revision) = true) :
    let dispatch := pairDispatch revision [modelReference id hash, modelReference id' hash']
    validateStageDispatch textCodec (pairEnvironment dispatch) unsignedConfiguration
      (pairPacket dispatch) = .ok dispatch := by
  intro dispatch
  simp only [validateStageDispatch, bind_eq_ok, demand_eq_ok, expect_eq_ok, pure_eq_ok]
  refine ⟨(), rfl, (), rfl, (), rfl, dispatch, rfl, (), ?_, (), ?_, (), ?_, (), ?_, (), ?_, rfl⟩
  · simp only [checkDispatch, validateDispatchFreshness, bind_eq_ok, demand_eq_ok]
    have hfresh : (0 : ℤ) ≤ 0 + maxClockSkew ∧ (0 : ℤ) < 1000000 ∧
      (1000000 - 0 : ℤ) ≤ maxDispatchTtl := by decide
    exact ⟨_, rfl, (), List.mem_cons_self, (), rfl, (), Or.inl rfl, (),
      ⟨0, rfl, (), hfresh.1, 1000000, rfl, (), hfresh.2.1, hfresh.2.2⟩, _, rfl, (), List.mem_cons_self, _, rfl,
      List.mem_cons_self, rfl⟩
  · simp only [checkRevision, bind_eq_ok, demand_eq_ok]
    exact ⟨(), h, rfl⟩
  · simp only [checkProfile, bind_eq_ok, demand_eq_ok]
    exact ⟨_, rfl, (), rfl, _, rfl, (), rfl, (), rfl, (), Or.inl rfl, Or.inl rfl⟩
  · simp only [checkInputReferences, bind_eq_ok, demand_eq_ok, mapM_eq_ok]
    refine ⟨_, rfl, (), List.cons_ne_nil _ _, [(), ()], ?_, rfl⟩
    have hmodel : ∀ id hash, checkInputReference ["1.0.0"] (modelReference id hash) = .ok () := by
      intro id hash
      simp [checkInputReference, modelReference, bind_eq_ok]
    exact .cons (hmodel _ _) (.cons (hmodel _ _) .nil)
  · simp only [checkIdentity, bind_eq_ok, demand_eq_ok]
    exact ⟨(), rfl, (), rfl, rfl⟩

theorem admitted_key_orders :
    let first := pairDispatch ("git:" ++ "0123456789012345678901234567890123456789")
      [modelReference "a" "sha256:a", modelReference "b" "sha256:b"]
    let second := pairDispatch "0123456789012345678901234567890123456789"
      [modelReference "b" "sha256:b", modelReference "a" "sha256:a"]
    (pairPacket first).header.idempotencyKey = (pairPacket second).header.idempotencyKey :=
  (admitted_key_iff textCodec_faithful (pairDispatch_admitted (by decide +kernel))
    (pairDispatch_admitted (by decide +kernel))).2
    ⟨List.Perm.swap _ _ _, by decide +kernel, rfl, rfl, rfl, rfl, rfl, rfl⟩

theorem admission_window_late :
    let dispatch := pairDispatch "0123456789012345678901234567890123456789"
      [modelReference "a" "sha256:a", modelReference "b" "sha256:b"]
    validateStageDispatch textCodec { pairEnvironment dispatch with now := 2000000 }
      unsignedConfiguration (pairPacket dispatch) =
        .error (blockedFailure "dispatch-expired"
          "dispatch expires_at is in the past; stale authority is rejected") := by
  intro dispatch
  have hadmitted : validateStageDispatch textCodec (pairEnvironment dispatch) unsignedConfiguration
      (pairPacket dispatch) = .ok dispatch := pairDispatch_admitted (by decide +kernel)
  obtain ⟨issuedAt, expiresAt, hwindow, hat, -⟩ := admission_window hadmitted
  obtain rfl := DispatchTime.aware.inj hwindow.issued
  obtain rfl := DispatchTime.aware.inj hwindow.expires
  exact hat 2000000

end Admitted

end ConstellationTopology
