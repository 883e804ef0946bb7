import ConstellationTopology.Io.PacketBundleOutputSink
import ConstellationTopology.Library.Pool
import ConstellationTopology.Worker.ExecutionAuthority
import ConstellationTopology.Worker.Registry

set_option autoImplicit false

/-! # The stage runner

`_dispatch_stage` and `_execute_stage`, one step for each access to what the workers share: the
lease store, the packet registry and the file tree. Between two steps of one worker any other worker
may move, and a worker may stop for good (`crash`). What the outside world answers at a step (the
compiler, the packet store, the callback endpoint, sqlite and file system errors, the clock, the
random secrets) is its `StageEnvironment`.

An exception raised while the permit is held passes through the cleanup, `authority.fail`, and is
then re-raised; `cleanup` and `raised` record the step it came from. -/

namespace ConstellationTopology

/-! ## What a step reads from outside -/

/-- A compiled topology: the identity of its packet and its rendered artifacts. -/
structure Compilation (c : Codec) where
  packetDigest : String
  packetType : String
  packetVersion : String
  semanticHash : String
  artifactHash : String
  artifacts : List (RenderedArtifact c)
  /-- a hexadecimal digest -/
  packetDigest_hex : ∀ ch ∈ packetDigest.toList, ch.isAlphanum = true

theorem zeroDigest_hex : ∀ ch ∈ "0".toList, ch.isAlphanum = true := by
  simp

/-- The id of the compiled packet. -/
def Compilation.packetId {c : Codec} (compilation : Compilation c) : String :=
  "packet:" ++ compilation.packetDigest

/-- What `publish` returns. -/
structure PublishedPacket where
  uri : String
  bundleManifestDigest : String
  registryManifestDigest : Option String := none
  stagingUri : Option String := none
  deriving DecidableEq, Repr

/-- The steps of a dispatch. -/
inductive StageStep
  | lookupRegistry
  | acquire
  | lookupRecovery
  | reuseVerify
  | reuseCallback
  | reuseAcknowledge
  | assertInitial
  | resolveInputs
  | compile
  | assertBeforeCommit
  | commitBundle
  | persistReceipt
  | assertBeforePublish
  | publish
  | verifyPublished
  | finalize
  | register
  | callback
  | acknowledge
  | release
  | cleanup
  deriving DecidableEq, Repr

/-- The answers of the outside world. -/
structure StageEnvironment (c : Codec) where
  sqliteFault : StageStep → SqliteFault := fun _ => none
  clock : StageStep → Timestamp
  secrets : Secrets
  inputs : Except StageException Unit := .ok ()
  compilation : Except StageException (Compilation c)
  bundleFaults : BundleFaults := {}
  receiptFaults : WriteFaults := fun _ => none
  published : Except StageException PublishedPacket
  verified : Except StageException (Option String) := .ok none
  callback : Except StageException Unit := .ok ()

/-- What all workers share. -/
structure StageStores where
  leases : LeaseStore
  registry : PacketRegistry
  files : FileTree

/-! ## Pieces of `_execute_stage` -/

/-- The version the worker reports. -/
def compilerVersion : String := "2.0.0"

/-- `_bundle_output_location`: where the bundle goes and the URI it is published under. -/
def bundleOutputLocation (outputUri : OutputUri) (workspace : Path) (packetId : String) :
    Except StageException (Path × String) :=
  match outputUri with
  | .unset =>
      let path := workspace ++ ["published", replaceChar ':' '_' packetId]
      .ok (path, pathToFileUri path)
  | .file path => .ok (path, pathToFileUri path)
  | .oci uri => .ok (workspace ++ ["outgoing", replaceChar ':' '_' packetId], uri)
  | .other scheme => .error (.worker
      { code := "packet-uri-unsupported"
        message := "unsupported output packet URI scheme: " ++ scheme
        blocked := true })

section

variable {c : Codec}

/-- Where the receipts of executions are kept. -/
def receiptDirectory (workspace : Path) : Path := workspace ++ ["execution-receipts"]

/-- The file of a receipt. -/
def receiptDestination (packetId : String) : String :=
  replaceChar ':' '_' packetId ++ "-commit-receipt.json"

/-- The sink of `_persist_commit_receipt`. -/
def receiptSink (workspace : Path) : FileSystemOutputSink where
  outputRoot := receiptDirectory workspace
  policy :=
    { allowedOutputRoots := ["."]
      allowedArtifactKinds := [.commitReceipt]
      allowOverwrite := false
      requireExpectedHashForReplace := false
      atomicWrites := true }

/-- `canonical_bytes(receipt) + b"\n"`. -/
def receiptContent (c : Codec) (receipt : CommitReceipt) : String :=
  c.canonicalJson receipt.toJson ++ "\n"

/-- The artifact of `_persist_commit_receipt`, for a destination that is a valid relative path. -/
def receiptArtifact (c : Codec) (receipt : CommitReceipt) (destination normalized : String)
    (h : normalizeSourcePath destination = .ok normalized) : RenderedArtifact c where
  logicalId := "stage-commit-receipt"
  destinationPath := normalized
  artifactKind := .commitReceipt
  mediaType := "application/json"
  content := receiptContent c receipt
  contentHash := c.artifactHash (receiptContent c receipt).toUTF8
  contentHash_matches := rfl
  destination_normalized := normalized_of_eq h

/-- `_persist_commit_receipt`. -/
def persistCommitReceipt (c : Codec) (workspace : Path) (packetId : String)
    (receipt : CommitReceipt) (faults : WriteFaults) (now : Timestamp) (files : FileTree) :
    Except StageException String × FileTree :=
  match h : normalizeSourcePath (receiptDestination packetId) with
  | .error message => (.error (.other "ValidationError" message), files)
  | .ok normalized =>
      let artifact := receiptArtifact c receipt (receiptDestination packetId) normalized h
      let (writeReceipt, files') :=
        (receiptSink workspace).commit [{ artifact : WriteIntent c }] faults now files
      if writeReceipt.status ≠ .passed then
        (.error (.worker
          { code := "commit-receipt-persistence-failed"
            message := c.dumpsInOrder writeReceipt.toJson
            retryable := true }), files')
      else
        (.ok (pathToFileUri (resolvePath (receiptDirectory workspace)
          (receiptDestination packetId))), files')

/-- A metadata item that is left out when its value is missing or empty. -/
def truthyItem (key : String) (value : Option String) : List (String × String) :=
  match value with
  | none => []
  | some text => if text = "" then [] else [(key, text)]

/-- The reference to the published packet. -/
def outputPacketRef (dispatch : StageDispatch) (compilation : Compilation c)
    (published : PublishedPacket) : PacketRef where
  packetId := compilation.packetId
  packetType := compilation.packetType
  packetVersion := compilation.packetVersion
  uri := published.uri
  semanticHash := compilation.semanticHash
  artifactHash := some compilation.artifactHash
  validationStatus := .passed
  subjectId := some "constellation:foundational-repository-intelligence"
  sourceRevision := some dispatch.targetRevision

/-- Where the receipt of a published packet is. -/
def validationUri (published : PublishedPacket) : String :=
  published.uri ++ "#receipts/validation-receipt.json"

/-- The registry entry of a published packet. -/
def publishedEntry (dispatch : StageDispatch) (compilation : Compilation c)
    (published : PublishedPacket) (descriptorDigest : Option String) (commitUri : String) :
    RegistryEntry where
  idempotencyKey := dispatch.idempotencyKey
  packetRef := outputPacketRef dispatch compilation published
  validationReceiptUri := validationUri published
  commitReceiptUri := commitUri
  metadata :=
    [("run_id", dispatch.runId), ("stage_id", dispatch.stageId),
      ("compiler_version", compilerVersion),
      ("bundle_manifest_digest", published.bundleManifestDigest)]
    ++ truthyItem "registry_manifest_digest" published.registryManifestDigest
    ++ truthyItem "registry_descriptor_digest" descriptorDigest
    ++ truthyItem "publication_staging_uri" published.stagingUri

/-- `StageResult(…)`. -/
def stageResult (dispatch : StageDispatch) (compilation : Compilation c)
    (published : PublishedPacket) (commitUri : String) (now : Timestamp) : StageResult where
  runId := dispatch.runId
  stageId := dispatch.stageId
  outputPacket := outputPacketRef dispatch compilation published
  validationReceiptUri := validationUri published
  commitReceiptUri := commitUri
  idempotencyKey := dispatch.idempotencyKey
  completedAt := now

end

/-- The reuse branch found no recovery record. -/
def reuseUnavailable : WorkerError where
  code := "execution-lease-reuse-unavailable"
  message := "lease reports a finalized stage but no recovery record is present"
  blocked := true

/-- A published packet without its receipt. -/
def publicationEvidenceMissing : WorkerError where
  code := "registry-publication-evidence-missing"
  message := "registry entry lacks bundle manifest digest"
  blocked := true

/-! ## The steps -/

/-- Where a worker stands, with the locals it still needs. -/
inductive StageControl (c : Codec)
  | lookupRegistry
  | acquire
  | lookupRecovery
  | reuseVerify (entry : RegistryEntry)
  | reuseCallback (entry : RegistryEntry)
  | reuseAcknowledge (entry : RegistryEntry)
  | assertInitial (permit : ExecutionPermit)
  | resolveInputs (permit : ExecutionPermit)
  | compile (permit : ExecutionPermit)
  | assertBeforeCommit (permit : ExecutionPermit) (compilation : Compilation c)
      (bundlePath : Path)
  | commitBundle (permit : ExecutionPermit) (compilation : Compilation c) (bundlePath : Path)
  | persistReceipt (permit : ExecutionPermit) (compilation : Compilation c) (bundlePath : Path)
      (receipt : CommitReceipt)
  | assertBeforePublish (permit : ExecutionPermit) (compilation : Compilation c)
      (bundlePath : Path) (commitUri : String)
  | publish (permit : ExecutionPermit) (compilation : Compilation c) (bundlePath : Path)
      (commitUri : String)
  | verifyPublished (permit : ExecutionPermit) (compilation : Compilation c) (bundlePath : Path)
      (commitUri : String) (published : PublishedPacket)
  | finalize (permit : ExecutionPermit) (compilation : Compilation c) (bundlePath : Path)
      (commitUri : String) (published : PublishedPacket) (descriptorDigest : Option String)
  | register (permit : ExecutionPermit) (compilation : Compilation c) (bundlePath : Path)
      (commitUri : String) (published : PublishedPacket) (descriptorDigest : Option String)
  | callback (permit : ExecutionPermit) (result : StageResult) (bundlePath : Path)
  | acknowledge (permit : ExecutionPermit) (result : StageResult) (bundlePath : Path)
  | release (permit : ExecutionPermit) (result : StageResult) (bundlePath : Path)
  | cleanup (permit : ExecutionPermit) (step : StageStep) (exception : StageException)
  | returned (outcome : StageExecutionOutcome)
  | raised (step : StageStep) (exception : StageException)

section

variable {c : Codec}

/-- `PacketBundleOutputSink(bundle_path, allow_overwrite=False)`. -/
def bundleSink (bundlePath : Path) : PacketBundleOutputSink := { bundleRoot := bundlePath }

/-- The intents `commit_compilation` enqueues. -/
def compilationIntents (compilation : Compilation c) : List (WriteIntent c) :=
  compilation.artifacts.map fun artifact => { artifact }

/-- The reuse of a registered packet, `_reuse_registered_packet`, from its first step. -/
def startReuse (entry : RegistryEntry) : StageControl c :=
  match entry.metadata.lookup "bundle_manifest_digest" with
  | none => .raised .reuseVerify (.worker publicationEvidenceMissing)
  | some digest =>
      if digest = "" then .raised .reuseVerify (.worker publicationEvidenceMissing)
      else .reuseVerify entry

/-- The answer from a published packet. -/
def reuseOutcome (dispatch : StageDispatch) (entry : RegistryEntry) (now : Timestamp) :
    StageExecutionOutcome where
  payload := .inr
    { idempotencyKey := dispatch.idempotencyKey
      reusedPacket := entry.packetRef
      createdAt := now }
  reused := true
  outputBundle := none

/-- What `acquire` is called with. -/
def StageDispatch.acquireRequest (dispatch : StageDispatch) : AcquireRequest where
  idempotencyKey := dispatch.idempotencyKey
  packetId := dispatch.packetId
  dispatchNonce := dispatch.dispatchNonce
  stageId := dispatch.stageId

/-- Continue, or clean up after an exception. -/
def guardStep {α : Type} (permit : ExecutionPermit) (step : StageStep)
    (answer : Except StageException α) (next : α → StageControl c) : StageControl c :=
  match answer with
  | .ok value => next value
  | .error exception => .cleanup permit step exception

/-- Raise a worker failure as a stage exception. -/
def raising {α : Type} (answer : Except WorkerError α) : Except StageException α :=
  answer.mapError .worker

/-- After `publish` returned, up to the end of `_execute_stage` without a callback. -/
def successOutcome (result : StageResult) (bundlePath : Path) : StageExecutionOutcome where
  payload := .inl result
  reused := false
  outputBundle := some bundlePath

/-- One step of a worker; `none` when its dispatch has ended. -/
def advance (workspace : Path) (dispatch : StageDispatch) (env : StageEnvironment c)
    (stores : StageStores) : StageControl c → Option (StageStores × StageControl c)
  | .lookupRegistry =>
      match stores.registry.getEntry dispatch.idempotencyKey (env.sqliteFault .lookupRegistry) with
      | .error e => some (stores, .raised .lookupRegistry (.worker e))
      | .ok (some entry) => some (stores, startReuse entry)
      | .ok none => some (stores, .acquire)
  | .acquire =>
      let (answer, leases) := stores.leases.acquire dispatch.acquireRequest env.secrets
        (env.sqliteFault .acquire)
      match answer with
      | .error e => some ({ stores with leases }, .raised .acquire (.worker e))
      | .ok { permit := some permit, .. } => some ({ stores with leases }, .assertInitial permit)
      | .ok { permit := none, .. } => some ({ stores with leases }, .lookupRecovery)
  | .lookupRecovery =>
      match stores.registry.getEntry dispatch.idempotencyKey (env.sqliteFault .lookupRecovery) with
      | .error e => some (stores, .raised .lookupRecovery (.worker e))
      | .ok (some entry) => some (stores, startReuse entry)
      | .ok none => some (stores, .raised .lookupRecovery (.worker reuseUnavailable))
  | .reuseVerify entry =>
      match env.verified with
      | .error e => some (stores, .raised .reuseVerify e)
      | .ok _ =>
          if dispatch.callback.isSome then some (stores, .reuseCallback entry)
          else some (stores, .returned (reuseOutcome dispatch entry (env.clock .reuseVerify)))
  | .reuseCallback entry =>
      match env.callback with
      | .error e => some (stores, .raised .reuseCallback e)
      | .ok () => some (stores, .reuseAcknowledge entry)
  | .reuseAcknowledge entry =>
      let (answer, registry) := stores.registry.acknowledge dispatch.idempotencyKey
        (env.sqliteFault .reuseAcknowledge)
      match answer with
      | .error e => some ({ stores with registry }, .raised .reuseAcknowledge (.worker e))
      | .ok _ => some ({ stores with registry },
          .returned (reuseOutcome dispatch entry (env.clock .reuseVerify)))
  | .assertInitial permit =>
      some (stores, guardStep permit .assertInitial
        (raising (stores.leases.assertActive permit (env.sqliteFault .assertInitial)))
        fun _ => .resolveInputs permit)
  | .resolveInputs permit =>
      some (stores, guardStep permit .resolveInputs env.inputs fun _ => .compile permit)
  | .compile permit =>
      some (stores, guardStep permit .compile env.compilation fun compilation =>
        guardStep permit .compile
          (bundleOutputLocation dispatch.outputUri workspace compilation.packetId)
          fun location => .assertBeforeCommit permit compilation location.1)
  | .assertBeforeCommit permit compilation bundlePath =>
      some (stores, guardStep permit .assertBeforeCommit
        (raising (stores.leases.assertActive permit (env.sqliteFault .assertBeforeCommit)))
        fun _ => .commitBundle permit compilation bundlePath)
  | .commitBundle permit compilation bundlePath =>
      let (answer, files) := (bundleSink bundlePath).commit (compilationIntents compilation)
        env.bundleFaults (env.clock .commitBundle) stores.files
      match answer with
      | .error exc => some ({ stores with files }, .cleanup permit .commitBundle (.other "OSError" exc))
      | .ok receipt =>
          if receipt.status ≠ .passed then
            some ({ stores with files }, .cleanup permit .commitBundle (.worker
              { code := "packet-bundle-commit-failed"
                message := c.dumpsInOrder receipt.toJson
                blocked := true }))
          else some ({ stores with files }, .persistReceipt permit compilation bundlePath receipt)
  | .persistReceipt permit compilation bundlePath receipt =>
      let (answer, files) := persistCommitReceipt c workspace compilation.packetId receipt
        env.receiptFaults (env.clock .persistReceipt) stores.files
      some ({ stores with files }, guardStep permit .persistReceipt answer fun commitUri =>
        .assertBeforePublish permit compilation bundlePath commitUri)
  | .assertBeforePublish permit compilation bundlePath commitUri =>
      some (stores, guardStep permit .assertBeforePublish
        (raising (stores.leases.assertActive permit (env.sqliteFault .assertBeforePublish)))
        fun _ => .publish permit compilation bundlePath commitUri)
  | .publish permit compilation bundlePath commitUri =>
      some (stores, guardStep permit .publish env.published fun published =>
        .verifyPublished permit compilation bundlePath commitUri published)
  | .verifyPublished permit compilation bundlePath commitUri published =>
      some (stores, guardStep permit .verifyPublished env.verified fun descriptorDigest =>
        .finalize permit compilation bundlePath commitUri published descriptorDigest)
  | .finalize permit compilation bundlePath commitUri published descriptorDigest =>
      let (answer, leases) := stores.leases.finalize permit
        (outputPacketRef dispatch compilation published) (env.sqliteFault .finalize)
      some ({ stores with leases }, guardStep permit .finalize (raising answer) fun _ =>
        .register permit compilation bundlePath commitUri published descriptorDigest)
  | .register permit compilation bundlePath commitUri published descriptorDigest =>
      let (answer, registry) := stores.registry.register
        (publishedEntry dispatch compilation published descriptorDigest commitUri)
        (env.sqliteFault .register)
      let result := stageResult dispatch compilation published commitUri (env.clock .register)
      some ({ stores with registry }, guardStep permit .register (raising answer) fun _ =>
        if dispatch.callback.isSome then .callback permit result bundlePath
        else .release permit result bundlePath)
  | .callback permit result bundlePath =>
      some (stores, guardStep permit .callback env.callback fun _ =>
        .acknowledge permit result bundlePath)
  | .acknowledge permit result bundlePath =>
      let (answer, registry) := stores.registry.acknowledge dispatch.idempotencyKey
        (env.sqliteFault .acknowledge)
      some ({ stores with registry }, guardStep permit .acknowledge (raising answer) fun _ =>
        .release permit result bundlePath)
  | .release permit result bundlePath =>
      let (answer, leases) := stores.leases.release permit (env.sqliteFault .release)
      some ({ stores with leases }, guardStep permit .release (raising answer) fun _ =>
        .returned (successOutcome result bundlePath))
  | .cleanup permit step exception =>
      let (_, leases) := stores.leases.fail permit "stage-execution-failed"
        (env.sqliteFault .cleanup)
      some ({ stores with leases }, .raised step exception)
  | .returned _ | .raised _ _ => none

end

/-! ## Any number of workers -/

/-- A worker on one dispatch. -/
structure StageWorker (c : Codec) where
  workspace : Path
  dispatch : StageDispatch
  control : StageControl c

namespace StageWorker

variable {c : Codec}

/-- A worker that has just received its dispatch. -/
def start (description : Path × StageDispatch) : StageWorker c where
  workspace := description.1
  dispatch := description.2
  control := .lookupRegistry

/-- One step of a worker. -/
def advance (env : StageEnvironment c) (stores : StageStores) (worker : StageWorker c) :
    Option (StageStores × StageWorker c) :=
  (ConstellationTopology.advance worker.workspace worker.dispatch env stores worker.control).map
    fun (stores, control) => (stores, { worker with control })

end StageWorker

/-- Any interleaving of any workers, from empty stores and a given file tree. -/
def stageSystem (c : Codec) (files : FileTree) :
    TransitionSystem (Pool StageStores (StageWorker c))
      (PoolLabel (Path × StageDispatch) (StageEnvironment c)) :=
  Pool.system ⟨LeaseStore.empty, Table.empty, files⟩ StageWorker.start StageWorker.advance

end ConstellationTopology
