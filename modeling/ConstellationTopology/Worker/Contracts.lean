import ConstellationTopology.Io.WritePlan
import ConstellationTopology.Packets.TopologyPacket

set_option autoImplicit false

/-! # Records the stage worker passes around

The typed worker failure, the dispatch and its results, with the fields the worker reads or
writes. -/

namespace ConstellationTopology

/-- A typed worker failure with its retry semantics. -/
structure WorkerError where
  code : String
  message : String
  retryable : Bool := false
  blocked : Bool := false
  deriving DecidableEq, Repr

/-- `output_uri`, as `_bundle_output_location` distinguishes it. -/
inductive OutputUri
  | unset
  | file (path : Path)
  | oci (uri : String)
  | other (scheme : String)
  deriving DecidableEq, Repr

/-- The header and payload fields of a validated dispatch. -/
structure StageDispatch where
  idempotencyKey : String
  packetId : String
  runId : String
  stageId : String
  dispatchNonce : String
  targetRevision : String
  callback : Option String := none
  outputUri : OutputUri := .unset
  deriving DecidableEq, Repr

/-- What a stage answers. -/
structure StageResult where
  runId : String
  stageId : String
  outputPacket : PacketRef
  validationReceiptUri : String
  commitReceiptUri : String
  idempotencyKey : String
  completedAt : Timestamp
  deriving DecidableEq, Repr

/-- The receipt of an answer that was published before. -/
structure ReuseReceipt where
  idempotencyKey : String
  reusedPacket : PacketRef
  reason : String := "validated packet already registered for identical semantic inputs"
  createdAt : Timestamp
  deriving DecidableEq, Repr

/-- What `execute_stage` hands back. -/
structure StageExecutionOutcome where
  payload : StageResult ⊕ ReuseReceipt
  reused : Bool
  outputBundle : Option Path

/-- An exception of a stage: a worker failure or anything else. -/
inductive StageException
  | worker (error : WorkerError)
  | other (kind message : String)
  deriving DecidableEq, Repr

/-- Only a worker failure can be retryable. -/
def StageException.retryable : StageException → Bool
  | worker error => error.retryable
  | other _ _ => false

/-- A worker failure that no retry mends. -/
def blockedFailure (code message : String) : StageException :=
  .worker { code, message, blocked := true }

/-- A failure after which the dispatch may be sent again. -/
def retryableFailure (code message : String) : StageException :=
  .worker { code, message, retryable := true }

end ConstellationTopology
