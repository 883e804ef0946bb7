import ConstellationTopology.Library.Collection
import ConstellationTopology.Run.Hashing
import ConstellationTopology.Run.SourcePath
import Mathlib.Algebra.GroupWithZero.Nat

set_option autoImplicit false

/-! # Rendered artifacts, write plans and commit receipts

The value objects of the output sinks and the two functions that identify them by content:
`make_write_plan` and `make_commit_receipt`. -/

namespace ConstellationTopology

/-! ## Artifacts and intents -/

/-- What an artifact is. -/
inductive ArtifactKind
  | topologyPacket
  | validationReceipt
  | reportManifest
  | humanReport
  | graphExport
  | riskReport
  | maturityReport
  | diagram
  | debugArtifact
  | commitReceipt
  | publicationPlan
  deriving DecidableEq, Repr

/-- The kind as it is serialized. -/
def ArtifactKind.text : ArtifactKind → String
  | topologyPacket => "topology-packet"
  | validationReceipt => "validation-receipt"
  | reportManifest => "report-manifest"
  | humanReport => "human-report"
  | graphExport => "graph-export"
  | riskReport => "risk-report"
  | maturityReport => "maturity-report"
  | diagram => "diagram"
  | debugArtifact => "debug-artifact"
  | commitReceipt => "commit-receipt"
  | publicationPlan => "publication-plan"

/-- Rendered text with its identity. The content is UTF-8 (a plan of other bytes cannot be
    serialized), the hash is its own and the destination is a normalized relative path. -/
structure RenderedArtifact (c : Codec) where
  logicalId : String
  destinationPath : String
  artifactKind : ArtifactKind
  mediaType : String
  content : String
  contentHash : String
  semanticHash : Option String := none
  sourceRefs : List String := []
  contentHash_matches : contentHash = c.artifactHash content.toUTF8
  destination_normalized : ∃ raw, normalizeSourcePath raw = .ok destinationPath

theorem normalized_of_eq {raw normalized : String}
    (h : normalizeSourcePath raw = .ok normalized) :
    ∃ raw, normalizeSourcePath raw = .ok normalized :=
  ⟨raw, h⟩

/-- A requested external effect. -/
structure WriteIntent (c : Codec) where
  artifact : RenderedArtifact c
  expectedExistingHash : Option String := none
  required : Bool := true

/-- Whether a sink writes or only plans. -/
inductive WriteMode
  | dryRun
  | write
  deriving DecidableEq, Repr

/-- The policy of a sink. -/
structure WritePolicy where
  mode : WriteMode := .write
  allowedOutputRoots : List String := ["."]
  allowedArtifactKinds : List ArtifactKind
  allowOverwrite : Bool := false
  requireExpectedHashForReplace : Bool := true
  enforcePathContainment : Bool := true
  rejectCollisions : Bool := true
  atomicWrites : Bool := true
  maximumOutputCount : Nat := 1000
  maximumOutputBytes : Nat := 268435456

/-! ## Plans -/

/-- What a planned entry does to its destination. -/
inductive WriteAction
  | create
  | replace
  | skip
  deriving DecidableEq, Repr

/-- The action as it is serialized. -/
def WriteAction.text : WriteAction → String
  | create => "create"
  | replace => "replace"
  | skip => "skip"

/-- One planned effect, with what it would replace. -/
structure WritePlanEntry (c : Codec) where
  intent : WriteIntent c
  action : WriteAction
  existingHash : Option String := none
  reason : String

/-- Whether a plan may be committed. -/
inductive PlanStatus
  | ready
  | blocked
  deriving DecidableEq, Repr

/-- What a sink would do, and what speaks against it. -/
structure WritePlan (c : Codec) where
  planId : String
  entries : List (WritePlanEntry c)
  totalBytes : Nat
  status : PlanStatus
  issues : List String

/-! ## Receipts -/

/-- How one artifact fared. -/
inductive ResultStatus
  | written
  | skipped
  | failed
  deriving DecidableEq, Repr

/-- The status of a result as it is serialized. -/
def ResultStatus.text : ResultStatus → String
  | written => "written"
  | skipped => "skipped"
  | failed => "failed"

/-- What became of one artifact. -/
structure CommitArtifactResult where
  logicalId : String
  destinationPath : String
  status : ResultStatus
  contentHash : String
  message : String
  deriving DecidableEq, Repr

/-- How a commit ended. -/
inductive CommitStatus
  | passed
  | failed
  | blocked
  deriving DecidableEq, Repr

/-- The status of a commit as it is serialized. -/
def CommitStatus.text : CommitStatus → String
  | passed => "passed"
  | failed => "failed"
  | blocked => "blocked"

/-- What a commit did, artifact by artifact. -/
structure CommitReceipt where
  packetType : String := "l9.commit-receipt"
  packetVersion : String := "1.0.0"
  receiptId : String
  planId : String
  status : CommitStatus
  results : List CommitArtifactResult
  createdAt : Timestamp
  semanticHash : String

/-! ## Their JSON form

`model_dump(mode="json", exclude_none=True)`: a field that is `None` is left out. -/

section

variable {c : Codec}

/-- An artifact as it is dumped. -/
def RenderedArtifact.toJson (artifact : RenderedArtifact c) : Json :=
  .obj ([("logical_id", .str artifact.logicalId),
      ("destination_path", .str artifact.destinationPath),
      ("artifact_kind", .str artifact.artifactKind.text),
      ("media_type", .str artifact.mediaType),
      ("content", .str artifact.content),
      ("content_hash", .str artifact.contentHash)]
    ++ optionalField "semantic_hash" (artifact.semanticHash.map .str)
    ++ [("source_refs", Json.strings artifact.sourceRefs)])

/-- An intent as it is dumped. -/
def WriteIntent.toJson (intent : WriteIntent c) : Json :=
  .obj ([("artifact", intent.artifact.toJson)]
    ++ optionalField "expected_existing_hash" (intent.expectedExistingHash.map .str)
    ++ [("required", .bool intent.required)])

/-- An entry as it is dumped. -/
def WritePlanEntry.toJson (entry : WritePlanEntry c) : Json :=
  .obj ([("intent", entry.intent.toJson), ("action", .str entry.action.text)]
    ++ optionalField "existing_hash" (entry.existingHash.map .str)
    ++ [("reason", .str entry.reason)])

end

/-- A result as it is dumped. -/
def CommitArtifactResult.toJson (result : CommitArtifactResult) : Json :=
  .obj [("logical_id", .str result.logicalId),
    ("destination_path", .str result.destinationPath),
    ("status", .str result.status.text),
    ("content_hash", .str result.contentHash),
    ("message", .str result.message)]

/-- A receipt as it is dumped. -/
def CommitReceipt.toJson (receipt : CommitReceipt) : Json :=
  .obj [("packet_type", .str receipt.packetType),
    ("packet_version", .str receipt.packetVersion),
    ("receipt_id", .str receipt.receiptId),
    ("plan_id", .str receipt.planId),
    ("status", .str receipt.status.text),
    ("results", .arr (receipt.results.map CommitArtifactResult.toJson)),
    ("created_at", .str receipt.createdAt.isoformat),
    ("semantic_hash", .str receipt.semanticHash)]

/-! ## Making plans and receipts -/

variable (c : Codec)

/-- `make_write_plan`: a plan is identified by its entries and issues. -/
def makeWritePlan (entries : List (WritePlanEntry c)) (issues : List String) : WritePlan c where
  planId := c.stableId "write-plan"
    (.obj [("entries", .arr (entries.map WritePlanEntry.toJson)), ("issues", Json.strings issues)])
  entries := entries
  totalBytes := (entries.map fun entry => entry.intent.artifact.content.toUTF8.size).sum
  status := if issues = [] then .ready else .blocked
  issues := issues

/-- The status of a receipt: blocked before failed before passed. -/
def commitStatus (plan : WritePlan c) (results : List CommitArtifactResult) (blocked : Bool) :
    CommitStatus :=
  if blocked ∨ plan.status = .blocked then .blocked
  else if results.any fun result => result.status = .failed then .failed
  else .passed

/-- `make_commit_receipt`: a receipt is identified by itself, before it has an id. -/
def makeCommitReceipt (plan : WritePlan c) (results : List CommitArtifactResult) (blocked : Bool)
    (now : Timestamp) : CommitReceipt :=
  let candidate : CommitReceipt :=
    { receiptId := "receipt:pending"
      planId := plan.planId
      status := commitStatus c plan results blocked
      results := results
      createdAt := now
      semanticHash := "sha256:pending" }
  { candidate with
    receiptId := c.stableId "receipt" candidate.toJson
    semanticHash := c.semanticHash candidate.toJson }

@[simp] theorem makeCommitReceipt_status (plan : WritePlan c) (results : List CommitArtifactResult)
    (blocked : Bool) (now : Timestamp) :
    (makeCommitReceipt c plan results blocked now).status = commitStatus c plan results blocked :=
  rfl

@[simp] theorem makeCommitReceipt_createdAt (plan : WritePlan c)
    (results : List CommitArtifactResult) (blocked : Bool) (now : Timestamp) :
    (makeCommitReceipt c plan results blocked now).createdAt = now :=
  rfl

theorem commitStatus_eq_passed_iff (plan : WritePlan c) (results : List CommitArtifactResult)
    (blocked : Bool) :
    commitStatus c plan results blocked = .passed ↔
      blocked = false ∧ plan.status = .ready ∧ ∀ result ∈ results, result.status ≠ .failed := by
  unfold commitStatus
  cases blocked <;> cases hplan : plan.status <;> simp

theorem commitStatus_eq_failed_iff (plan : WritePlan c) (results : List CommitArtifactResult)
    (blocked : Bool) :
    commitStatus c plan results blocked = .failed ↔
      blocked = false ∧ plan.status = .ready ∧ ∃ result ∈ results, result.status = .failed := by
  unfold commitStatus
  cases blocked <;> cases hplan : plan.status <;> simp

/-- Receipts made at different times are different bytes. -/
theorem canonicalBytes_receipt_inj {c : Codec} (hc : c.Faithful) {receipt receipt' : CommitReceipt}
    (h : c.canonicalBytes receipt.toJson = c.canonicalBytes receipt'.toJson) :
    receipt.createdAt = receipt'.createdAt := by
  have hdata := hc.canonicalBytes_inj.1 h
  have hfield := congrArg (Json.get? "created_at") hdata
  rw [Json.get?_canonicalData, Json.get?_canonicalData] at hfield
  have hiso : receipt.createdAt.isoformat = receipt'.createdAt.isoformat := by
    simpa [CommitReceipt.toJson, Json.canonicalData, List.lookup_cons] using hfield
  cases hl : receipt.createdAt
  cases hr : receipt'.createdAt
  simp_all

end ConstellationTopology
