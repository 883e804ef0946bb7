import ConstellationTopology.Io.PacketBundleOutputSink
import ConstellationTopology.Io.WriteContainment

set_option autoImplicit false

/-! # The bundle commit step by step

`PacketBundleOutputSink.commit` once more, with the staging directory where it is: a sibling of the
bundle with a fresh name, below which the destinations are resolved anew. Every call that may raise
is a step of its own, also those after the rename. -/

namespace ConstellationTopology

/-- The calls of `commit` that may raise an `OSError` or a `ValueError`. -/
inductive CommitStep
  | readDestinations
  | probeRoot
  | makeParent
  | makeStaging
  | readStaging
  | verifyBundle
  | syncTree
  | replace
  | openParent
  | syncParent
  | closeParent
  | probeStaging
  deriving DecidableEq, Repr

/-- What the environment answers during one commit: the error of each step, the error that leaves
    the staged commit at a target, the faults of its writes, the end of the name of the staging
    directory, and what its removal leaves behind. -/
structure CommitFaults where
  step : CommitStep → Option String := fun _ => none
  stage : Path → Option String := fun _ => none
  write : WriteFaults := fun _ => none
  suffix : String
  leftover : Path → Bool := fun _ => false

/-- The first of some steps that raises. -/
def CommitFaults.first (faults : CommitFaults) (steps : List CommitStep) : Option String :=
  steps.findSome? faults.step

namespace PacketBundleOutputSink

variable {c : Codec} (sink : PacketBundleOutputSink)

/-- `tempfile.mkdtemp(prefix=f".{output_root.name}.staging-", dir=output_root.parent)`. -/
def stagingRoot (suffix : String) : Path :=
  sink.bundleRoot.dropLast ++ ["." ++ (sink.bundleRoot.getLast?.getD "") ++ ".staging-" ++ suffix]

/-- The sink of the staging directory, where it is. -/
def stagingSink (suffix : String) : FileSystemOutputSink :=
  { sink.staging with outputRoot := sink.stagingRoot suffix }

/-- `output_root.exists()`: the root directory does. -/
def rootExists (tree : FileTree) : Bool := sink.bundleRoot = [] || tree.pathExists sink.bundleRoot

/-- The tree in which a commit stages: the parent of the bundle is there, and the staging
    directory is empty. -/
def stagingTree (suffix : String) (tree : FileTree) : FileTree :=
  (tree.makeDirectory sink.bundleRoot.dropLast).makeDirectory (sink.stagingRoot suffix)

/-- The loop of the staged commit. Reading a target may raise out of it. -/
def stageEntries (faults : CommitFaults) : List (WritePlanEntry c) → FileTree →
    Except String (List CommitArtifactResult) × FileTree
  | [], tree => (.ok [], tree)
  | entry :: rest, tree =>
      match faults.stage ((sink.stagingSink faults.suffix).target entry.intent) with
      | some exc => (.error exc, tree)
      | none =>
          let (result, tree') :=
            (sink.stagingSink faults.suffix).commitEntry entry faults.write tree
          let (results, tree'') := stageEntries faults rest tree'
          (results.map (result :: ·), tree'')

/-- `staging_sink.commit()`. -/
def stageBundle (intents : List (WriteIntent c)) (faults : CommitFaults) (now : Timestamp)
    (tree : FileTree) : Except String CommitReceipt × FileTree :=
  match faults.step .readStaging with
  | some exc => (.error exc, tree)
  | none =>
      let plan := (sink.stagingSink faults.suffix).plan intents tree
      if plan.status = .blocked then (.ok (makeCommitReceipt c plan [] true now), tree)
      else
        let (results, tree') := sink.stageEntries faults plan.entries tree
        (results.map fun results => makeCommitReceipt c plan results false now, tree')

/-- The receipt of a commit that failed as a whole. -/
def failedReceipt (plan : WritePlan c) (message : String) (now : Timestamp) : CommitReceipt :=
  makeCommitReceipt c plan (failedResults plan message) false now

/-- The body of the `try` with its handler. -/
def stageAndReplace (plan : WritePlan c) (intents : List (WriteIntent c)) (faults : CommitFaults)
    (now : Timestamp) (tree : FileTree) : CommitReceipt × FileTree :=
  let (answer, staged) := sink.stageBundle intents faults now tree
  match answer with
  | .error exc => (failedReceipt plan exc now, staged)
  | .ok stagingReceipt =>
      if stagingReceipt.status ≠ .passed then
        -- a blocked staging plan has no results, so this receipt has none
        (makeCommitReceipt c plan stagingReceipt.results false now, staged)
      else
        match faults.first [.verifyBundle, .syncTree, .replace] with
        | some exc => (failedReceipt plan exc now, staged)
        | none =>
            let replaced := staged.replaceTree (sink.stagingRoot faults.suffix) sink.bundleRoot
            match faults.first [.openParent, .syncParent, .closeParent] with
            | some exc => (failedReceipt plan exc now, replaced)
            | none => (makeCommitReceipt c plan (committedResults plan) false now, replaced)

/-- Everything after the checks, with the `finally` at the end. -/
def publishBundle (plan : WritePlan c) (intents : List (WriteIntent c)) (faults : CommitFaults)
    (now : Timestamp) (tree : FileTree) : Except String CommitReceipt × FileTree :=
  let parent := tree.makeDirectory sink.bundleRoot.dropLast
  match faults.step .makeParent, faults.step .makeStaging with
  | some exc, _ => (.error exc, tree)
  | none, some exc => (.error exc, parent)
  | none, none =>
      if parent.pathExists (sink.stagingRoot faults.suffix) then (.error "File exists", parent)
      else
        let (receipt, tree') :=
          sink.stageAndReplace plan intents faults now (sink.stagingTree faults.suffix tree)
        match faults.step .probeStaging with
        | some exc => (.error exc, tree')
        | none => (.ok receipt, tree'.removeTree (sink.stagingRoot faults.suffix) faults.leftover)

/-- `commit`. -/
def commitSteps (intents : List (WriteIntent c)) (faults : CommitFaults) (now : Timestamp)
    (tree : FileTree) : Except String CommitReceipt × FileTree :=
  let plan := sink.base.plan intents tree
  match faults.step .readDestinations with
  | some exc => (.error exc, tree)
  | none =>
      if plan.status = .blocked then (.ok (makeCommitReceipt c plan [] true now), tree)
      else if sink.mode = .dryRun then
        let (receipt, tree') := sink.base.commitPlan plan faults.write now tree
        (.ok receipt, tree')
      else if plan.entries.all fun entry => entry.action = .skip then
        (.ok (makeCommitReceipt c plan (skippedResults plan) false now), tree)
      else
        match faults.step .probeRoot with
        | some exc => (.error exc, tree)
        | none =>
            if sink.rootExists tree then
              (.ok (failedReceipt plan "immutable packet bundle already exists" now), tree)
            else sink.publishBundle plan intents faults now tree

/-! ## Atomicity -/

/-- Nothing at or below the bundle has changed. -/
def Unchanged (tree tree' : FileTree) : Prop :=
  ∀ path, sink.bundleRoot <+: path → Table.lookup tree' path = Table.lookup tree path

/-- The files at and below the bundle are the artifacts at their destinations. -/
def HoldsBundle (intents : List (WriteIntent c)) (tree : FileTree) : Prop :=
  ∀ path, sink.bundleRoot <+: path → ∀ content, tree.readFile? path = some content ↔
    ∃ intent ∈ intents, sink.base.target intent = path ∧
      content = intent.artifact.content.toUTF8

/-- Either nothing has changed, and only the reuse of an identical bundle passes; or the whole
    bundle has been verified and is in place, and the receipt has passed. -/
def CommitsAtomically (intents : List (WriteIntent c)) (faults : CommitFaults) (now : Timestamp)
    (tree : FileTree) : Prop :=
  let (answer, tree') := sink.commitSteps intents faults now tree
  (sink.Unchanged tree tree' ∧ ∀ receipt, answer = .ok receipt → receipt.status = .passed →
    (∀ result ∈ receipt.results, result.status = .skipped) ∧ sink.base.InPlace intents tree) ∨
  (sink.HoldsBundle intents tree' ∧ faults.step .verifyBundle = none ∧
    ∃ receipt, answer = .ok receipt ∧ receipt.status = .passed)

end PacketBundleOutputSink

end ConstellationTopology
