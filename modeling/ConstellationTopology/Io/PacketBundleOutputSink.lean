import ConstellationTopology.Io.FileSystemOutputSink

set_option autoImplicit false

/-! # The atomic packet bundle sink

`PacketBundleOutputSink.commit`: a bundle is staged in a fresh sibling directory, verified and moved
into place by one rename; an existing bundle may only be reused byte for byte.

The staging directory is modelled as a tree of its own in which the bundle already has its final
paths, so that the rename is the union of that tree into the real one. -/

namespace ConstellationTopology

/-- The steps of `commit` that may raise an `OSError` or a `ValueError` of their own. -/
inductive BundleStep
  | makeParent
  | makeStaging
  | verifyBundle
  | syncTree
  | replace
  | syncParent
  deriving DecidableEq, Repr

/-- What the environment answers during one commit: the error text of each step, if any, and the
    faults of the staged writes. -/
structure BundleFaults where
  step : BundleStep → Option String := fun _ => none
  write : WriteFaults := fun _ => none

/-- The sink of one bundle directory. -/
structure PacketBundleOutputSink where
  bundleRoot : Path
  mode : WriteMode := .write
  allowOverwrite : Bool := false

namespace PacketBundleOutputSink

/-- `_ALL_KINDS`. -/
def allKinds : List ArtifactKind :=
  [.topologyPacket, .validationReceipt, .reportManifest, .humanReport, .graphExport, .riskReport,
    .maturityReport, .diagram, .debugArtifact, .commitReceipt]

variable {c : Codec} (sink : PacketBundleOutputSink)

/-- `policy`: the bundle may be replaced only when the caller says so. -/
def policy : WritePolicy where
  mode := sink.mode
  allowedOutputRoots := ["."]
  allowedArtifactKinds := allKinds
  allowOverwrite := sink.allowOverwrite
  requireExpectedHashForReplace := false

/-- The inherited filesystem sink. -/
def base : FileSystemOutputSink := ⟨sink.bundleRoot, sink.policy⟩

/-- The sink of the staging directory. -/
def staging : FileSystemOutputSink :=
  ⟨sink.bundleRoot,
    { allowedOutputRoots := ["."]
      allowedArtifactKinds := allKinds
      allowOverwrite := false
      requireExpectedHashForReplace := false
      maximumOutputCount := sink.policy.maximumOutputCount
      maximumOutputBytes := sink.policy.maximumOutputBytes }⟩

/-- The results of a commit that failed as a whole. -/
def failedResults (plan : WritePlan c) (message : String) : List CommitArtifactResult :=
  plan.entries.map fun entry => FileSystemOutputSink.entryResult entry .failed message

/-- The results of a commit that reused an identical bundle. -/
def skippedResults (plan : WritePlan c) : List CommitArtifactResult :=
  plan.entries.map fun entry => FileSystemOutputSink.entryResult entry .skipped entry.reason

/-- The receipt of a commit that reused an identical bundle. -/
def reuseReceipt (intents : List (WriteIntent c)) (now : Timestamp) (tree : FileTree) :
    CommitReceipt :=
  makeCommitReceipt c (sink.base.plan intents tree) (skippedResults (sink.base.plan intents tree))
    false now

/-- The results of an atomic bundle commit. -/
def committedResults (plan : WritePlan c) : List CommitArtifactResult :=
  plan.entries.map fun entry =>
    if entry.action ≠ .skip then
      FileSystemOutputSink.entryResult entry .written "atomic bundle commit"
    else FileSystemOutputSink.entryResult entry .skipped entry.reason

/-- Stage, verify and rename. The two directory creations stand outside the `try`, so they raise;
    every later error becomes a failed receipt. -/
def commitStaged (plan : WritePlan c) (intents : List (WriteIntent c)) (faults : BundleFaults)
    (now : Timestamp) (tree : FileTree) : Except String CommitReceipt × FileTree :=
  match faults.step .makeParent, faults.step .makeStaging with
  | some exc, _ | none, some exc => (.error exc, tree)
  | none, none =>
      let (stagingReceipt, staged) := sink.staging.commit intents faults.write now Table.empty
      if stagingReceipt.status ≠ .passed then
        (.ok (makeCommitReceipt c plan stagingReceipt.results false now), tree)
      else
        match faults.step .verifyBundle, faults.step .syncTree, faults.step .replace with
        | some exc, _, _ | none, some exc, _ | none, none, some exc =>
            (.ok (makeCommitReceipt c plan (failedResults plan exc) false now), tree)
        | none, none, none =>
            -- the bundle is in place from here on, whatever the last sync does
            match faults.step .syncParent with
            | some exc =>
                (.ok (makeCommitReceipt c plan (failedResults plan exc) false now),
                  tree.union staged)
            | none =>
                (.ok (makeCommitReceipt c plan (committedResults plan) false now),
                  tree.union staged)

def commit (intents : List (WriteIntent c)) (faults : BundleFaults) (now : Timestamp)
    (tree : FileTree) : Except String CommitReceipt × FileTree :=
  let plan := sink.base.plan intents tree
  if plan.status = .blocked then (.ok (makeCommitReceipt c plan [] true now), tree)
  else if sink.mode = .dryRun then
    let (receipt, tree') := sink.base.commitPlan plan faults.write now tree
    (.ok receipt, tree')
  else if plan.entries.all fun entry => entry.action = .skip then
    (.ok (sink.reuseReceipt intents now tree), tree)
  else if tree.pathExists sink.bundleRoot then
    (.ok (makeCommitReceipt c plan
      (failedResults plan "immutable packet bundle already exists") false now), tree)
  else sink.commitStaged plan intents faults now tree

/-! ## A passed commit leaves the whole bundle in place -/

theorem staging_sameScreen : FileSystemOutputSink.SameScreen (c := c) sink.base sink.staging :=
  ⟨fun _ => rfl, rfl⟩

/-- A bundle that is planned without an issue is planned as all creations in the staging tree. -/
theorem staging_planIntents {intents : List (WriteIntent c)} {tree : FileTree}
    (h : (sink.base.planIntents tree [] intents).2 = []) :
    sink.staging.planIntents Table.empty [] intents =
      (intents.map fun intent =>
        { intent, action := .create, existingHash := none,
          reason := "destination does not exist" }, []) := by
  have hmissing : ∀ intent : WriteIntent c,
      sink.staging.planEntry intent (sink.base.target intent) Table.empty =
        ({ intent, action := .create, existingHash := none,
           reason := "destination does not exist" }, []) :=
    fun intent => sink.staging.planEntry_missing rfl
  rw [sink.base.planIntents_of_decisions sink.staging_sameScreen h
    fun intent _ => by rw [hmissing]]
  simp only [hmissing]

theorem staging_plan_ready {intents : List (WriteIntent c)} {tree : FileTree}
    (hlimit : sink.base.limitIssues intents = [])
    (h : (sink.base.planIntents tree [] intents).2 = []) :
    (sink.staging.plan intents Table.empty).status = .ready :=
  (sink.staging.plan_ready_iff intents Table.empty).2 ⟨hlimit, by rw [sink.staging_planIntents h]⟩

/-- A staged commit none of whose results failed has passed. -/
theorem staging_status_passed {intents : List (WriteIntent c)} {tree : FileTree}
    {faults : WriteFaults} {now : Timestamp} (hlimit : sink.base.limitIssues intents = [])
    (h : (sink.base.planIntents tree [] intents).2 = [])
    (hresults : ∀ result ∈ (sink.staging.commit intents faults now Table.empty).1.results,
      result.status ≠ .failed) :
    (sink.staging.commit intents faults now Table.empty).1.status = .passed := by
  have hready := sink.staging_plan_ready hlimit h
  have hnotBlocked : (sink.staging.plan intents Table.empty).status ≠ .blocked := by
    rw [hready]
    decide
  simp only [FileSystemOutputSink.commit, FileSystemOutputSink.commitPlan,
    if_neg hnotBlocked] at hresults ⊢
  rw [makeCommitReceipt_status, commitStatus_eq_passed_iff]
  exact ⟨rfl, hready, hresults⟩

/-- **Staging.** If the staged commit passes, every artifact is in the staging tree. -/
theorem staging_passed {intents : List (WriteIntent c)} {tree : FileTree} (faults : WriteFaults)
    (now : Timestamp) (h : (sink.base.planIntents tree [] intents).2 = [])
    (hlimit : sink.base.limitIssues intents = [])
    (hpassed : (sink.staging.commit intents faults now Table.empty).1.status = .passed) :
    ∀ intent ∈ intents,
      (sink.staging.commit intents faults now Table.empty).2.readFile? (sink.base.target intent) =
        some intent.artifact.content.toUTF8 := by
  have hplan := sink.staging_planIntents h
  have hready := sink.staging_plan_ready hlimit h
  have hnodup := (sink.base.targets_of_ready rfl h).1
  have hnotBlocked : (sink.staging.plan intents Table.empty).status ≠ .blocked := by
    rw [hready]
    decide
  simp only [FileSystemOutputSink.commit, FileSystemOutputSink.commitPlan, if_neg hnotBlocked,
    FileSystemOutputSink.plan_entries, hplan] at hpassed ⊢
  rw [makeCommitReceipt_status, commitStatus_eq_passed_iff] at hpassed
  intro intent hintent
  refine sink.staging.commitEntries_written rfl ?_ ?_ hpassed.2.2
    { intent, action := .create, existingHash := none, reason := "destination does not exist" }
    (List.mem_map_of_mem hintent)
  · intro entry hentry
    obtain ⟨i, -, rfl⟩ := List.mem_map.1 hentry
    exact WriteAction.noConfusion
  · rw [List.map_map]
    exact hnodup

/-- Reuse: when nothing has to change, every artifact is in place already. -/
theorem inPlace_of_all_skip {intents : List (WriteIntent c)} {tree : FileTree}
    (hrequired : ∀ intent ∈ intents, intent.required = true)
    (hissues : (sink.base.planIntents tree [] intents).2 = [])
    (hskip : ((sink.base.plan intents tree).entries.all fun entry => entry.action = .skip)
      = true) : sink.base.InPlace intents tree := by
  intro intent hintent
  have hdecision := sink.base.decisions_of_ready hissues intent hintent
  rw [FileSystemOutputSink.plan_entries, sink.base.entries_of_ready hissues,
    List.all_map, List.all_eq_true] at hskip
  exact sink.base.planEntry_skip_of_required (hrequired intent hintent) hdecision
    (by simpa using hskip intent hintent)

/-- A commit that failed as a whole has a failed result for each entry, so it has not passed. -/
theorem failed_receipt_not_passed {plan : WritePlan c} (message : String) (now : Timestamp)
    (h : ¬ (plan.entries.all fun entry => entry.action = .skip) = true) :
    (makeCommitReceipt c plan (failedResults plan message) false now).status ≠ .passed := by
  rw [makeCommitReceipt_status, Ne, commitStatus_eq_passed_iff]
  rintro ⟨-, -, hall⟩
  cases hentries : plan.entries with
  | nil => simp [hentries] at h
  | cons entry rest =>
      refine hall (FileSystemOutputSink.entryResult entry .failed message) ?_ rfl
      simp [failedResults, hentries]

/-- Nothing but a completed rename yields a passed receipt. -/
theorem commitStaged_passed {intents : List (WriteIntent c)} {tree tree' : FileTree}
    {faults : BundleFaults} {now : Timestamp} {receipt : CommitReceipt}
    (hlimit : sink.base.limitIssues intents = [])
    (hissues : (sink.base.planIntents tree [] intents).2 = [])
    (hnotSkip : ¬ ((sink.base.plan intents tree).entries.all fun entry => entry.action = .skip)
      = true)
    (hcommit : sink.commitStaged (sink.base.plan intents tree) intents faults now tree =
      (.ok receipt, tree')) (hpassed : receipt.status = .passed) :
    sink.base.InPlace intents tree' := by
  unfold commitStaged at hcommit
  split at hcommit
  · cases hcommit
  · cases hcommit
  · simp only at hcommit
    split at hcommit
    · next hstaging =>
        -- a staging failure is a failed result, so it cannot turn into a passed receipt
        cases hcommit
        rw [makeCommitReceipt_status, commitStatus_eq_passed_iff] at hpassed
        refine absurd ?_ hstaging
        exact sink.staging_status_passed hlimit hissues hpassed.2.2
    · next hstaging =>
        have hstaged := sink.staging_passed faults.write now hissues hlimit
          (not_not.1 hstaging)
        split at hcommit
        · cases hcommit
          exact absurd hpassed (failed_receipt_not_passed _ _ hnotSkip)
        · cases hcommit
          exact absurd hpassed (failed_receipt_not_passed _ _ hnotSkip)
        · cases hcommit
          exact absurd hpassed (failed_receipt_not_passed _ _ hnotSkip)
        · split at hcommit
          · cases hcommit
            exact absurd hpassed (failed_receipt_not_passed _ _ hnotSkip)
          · cases hcommit
            intro intent hintent
            rw [FileTree.readFile?_union tree (hstaged intent hintent), Option.map_some,
              intent.artifact.contentHash_matches]

/-- **A passed commit is complete.** The plan had no issue, and afterwards every artifact's bytes
    are at their destination, whether they were committed now or reused. -/
theorem commit_passed {intents : List (WriteIntent c)} {tree tree' : FileTree}
    {faults : BundleFaults} {now : Timestamp} {receipt : CommitReceipt}
    (hmode : sink.mode = .write) (hrequired : ∀ intent ∈ intents, intent.required = true)
    (hcommit : sink.commit intents faults now tree = (.ok receipt, tree'))
    (hpassed : receipt.status = .passed) :
    (sink.base.plan intents tree).status = .ready ∧ sink.base.InPlace intents tree' := by
  have hwrite : sink.mode ≠ .dryRun := by
    rw [hmode]
    decide
  cases hstatus : (sink.base.plan intents tree).status with
  | blocked =>
      simp only [commit, hstatus, if_true, Prod.mk.injEq, Except.ok.injEq] at hcommit
      rw [← hcommit.1, makeCommitReceipt_status, commitStatus_eq_passed_iff] at hpassed
      exact absurd hpassed.1 (by decide)
  | ready =>
      obtain ⟨hlimit, hissues⟩ := (sink.base.plan_ready_iff intents tree).1 hstatus
      refine ⟨rfl, ?_⟩
      have hnotBlocked : (sink.base.plan intents tree).status ≠ .blocked := by
        rw [hstatus]
        decide
      simp only [commit, if_neg hnotBlocked, if_neg hwrite] at hcommit
      split at hcommit
      · -- nothing to change: every artifact was there before
        next hskip =>
          cases hcommit
          intro intent hintent
          exact sink.inPlace_of_all_skip hrequired hissues hskip intent hintent
      · split at hcommit
        · -- another bundle is there: the receipt lists failures only
          next hnotSkip _ =>
            cases hcommit
            exact absurd hpassed (failed_receipt_not_passed _ _ hnotSkip)
        · next hnotSkip _ => exact sink.commitStaged_passed hlimit hissues hnotSkip hcommit hpassed

/-- **Reuse.** A bundle whose plan was ready once and whose bytes are in place commits again
    without touching the tree. -/
theorem commit_of_inPlace {intents : List (WriteIntent c)} {before tree : FileTree}
    (faults : BundleFaults) (now : Timestamp) (hmode : sink.mode = .write)
    (hready : (sink.base.plan intents before).status = .ready)
    (hplace : sink.base.InPlace intents tree) :
    sink.commit intents faults now tree = (.ok (sink.reuseReceipt intents now tree), tree) ∧
      (sink.reuseReceipt intents now tree).status = .passed := by
  obtain ⟨hlimit, hissues⟩ := (sink.base.plan_ready_iff intents before).1 hready
  have hskip : ∀ intent ∈ intents, sink.base.planEntry intent (sink.base.target intent) tree =
      ({ intent, action := .skip, existingHash := some intent.artifact.contentHash,
         reason := "content unchanged" }, []) :=
    fun intent hintent => sink.base.planEntry_unchanged (hplace intent hintent)
  have hsame : FileSystemOutputSink.SameScreen (c := c) sink.base sink.base := ⟨fun _ => rfl, rfl⟩
  have hplan := sink.base.planIntents_of_decisions hsame hissues
    fun intent hintent => by rw [hskip intent hintent]
  have hready' : (sink.base.plan intents tree).status = .ready :=
    (sink.base.plan_ready_iff intents tree).2 ⟨hlimit, by rw [hplan]⟩
  have hall : ((sink.base.plan intents tree).entries.all fun entry => entry.action = .skip)
      = true := by
    rw [FileSystemOutputSink.plan_entries, hplan, List.all_map, List.all_eq_true]
    intro intent hintent
    simp [hskip intent hintent]
  refine ⟨?_, ?_⟩
  · simp only [commit, hready', hmode, reduceCtorEq, if_false, hall, if_true]
  · rw [reuseReceipt, makeCommitReceipt_status, commitStatus_eq_passed_iff]
    refine ⟨rfl, hready', ?_⟩
    intro result hresult
    obtain ⟨entry, -, rfl⟩ := List.mem_map.1 hresult
    exact ResultStatus.noConfusion

end PacketBundleOutputSink

end ConstellationTopology
