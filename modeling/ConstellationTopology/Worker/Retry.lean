import ConstellationTopology.Library.JsonText
import ConstellationTopology.Worker.StageRunner

set_option autoImplicit false

/-! # Retrying a dispatch that failed after its bundle commit

A dispatch whose bundle is committed and that fails before its lease is published leaves two things
in the workspace: the bundle, which a retry reuses byte for byte, and the commit receipt. The retry
makes a receipt of its own, with the retry's time in it, and writes it where the first one lies
without leave to overwrite. So a retry gets through exactly when the first attempt left no receipt
(`retry_publishes_iff`). -/

namespace ConstellationTopology

variable {c : Codec}

/-! ## Where the commit receipt goes -/

/-- The file of the commit receipt. -/
def receiptPath (workspace : Path) (packetId : String) : Path :=
  receiptDirectory workspace ++ [receiptDestination packetId]

/-- A name with a letter that is free of separators is an ordinary file name. -/
structure OrdinaryName (name : String) : Prop where
  nul : '\x00' ∉ name.toList
  slash : '/' ∉ name.toList
  back : '\\' ∉ name.toList
  colon : ':' ∉ name.toList
  letter : 'j' ∈ name.toList

namespace OrdinaryName

variable {name : String} (h : OrdinaryName name)

include h

theorem normalize : normalizeSourcePath name = .ok name := by
  refine normalizeSourcePath_name h.slash h.back h.colon ?_ ?_ ?_ <;>
    · rintro rfl
      exact absurd h.letter (by simp)

theorem resolve (root : Path) : resolvePath root name = root ++ [name] := by
  refine resolvePath_name h.slash ?_ ?_ ?_ <;>
    · rintro rfl
      exact absurd h.letter (by simp)

end OrdinaryName

/-- A packet digest is hexadecimal, so the receipt of its packet has an ordinary name. -/
theorem ordinaryName_receiptDestination (compilation : Compilation c) :
    OrdinaryName (receiptDestination compilation.packetId) := by
  have hdigest : ∀ ch ∈ compilation.packetDigest.toList,
      ch ≠ '/' ∧ ch ≠ '\\' ∧ ch ≠ ':' ∧ ch ≠ '\x00' := by
    intro ch hch
    have halnum := compilation.packetDigest_hex ch hch
    refine ⟨?_, ?_, ?_, ?_⟩ <;>
      · rintro rfl
        exact absurd halnum (by decide)
  have hchars : ∀ ch ∈ (receiptDestination compilation.packetId).toList,
      ch ∈ "packet_".toList ∨ ch ∈ "-commit-receipt.json".toList ∨
        ch ∈ compilation.packetDigest.toList := by
    intro ch hch
    simp only [receiptDestination, replaceChar, Compilation.packetId, String.toList_append,
      String.toList_ofList, List.map_append, List.mem_append] at hch
    rcases hch with (hch | hch) | hch
    · left
      simpa using hch
    · right
      right
      obtain ⟨orig, horig, rfl⟩ := List.mem_map.1 hch
      rw [if_neg (hdigest orig horig).2.2.1]
      exact horig
    · exact Or.inr (Or.inl hch)
  have hfree : ∀ ch, ch ∉ "packet_".toList → ch ∉ "-commit-receipt.json".toList →
      ch ∉ compilation.packetDigest.toList →
        ch ∉ (receiptDestination compilation.packetId).toList := by
    intro ch h1 h2 h3 hch
    rcases hchars ch hch with h | h | h
    · exact h1 h
    · exact h2 h
    · exact h3 h
  refine ⟨?_, ?_, ?_, ?_, ?_⟩
  · exact hfree '\x00' (by simp) (by simp) fun h => (hdigest _ h).2.2.2 rfl
  · exact hfree '/' (by simp) (by simp) fun h => (hdigest _ h).1 rfl
  · exact hfree '\\' (by simp) (by simp) fun h => (hdigest _ h).2.1 rfl
  · exact hfree ':' (by simp) (by simp) fun h => (hdigest _ h).2.2.1 rfl
  · simp [receiptDestination]

/-! ## Persisting a receipt -/

/-- The receipt's bytes fit the sink's bound. -/
def ReceiptFits (c : Codec) (receipt : CommitReceipt) : Prop :=
  (receiptContent c receipt).toUTF8.size ≤ 268435456

/-- The receipt file holds these very bytes already. -/
def ReceiptInPlace (c : Codec) (path : Path) (receipt : CommitReceipt) (files : FileTree) : Prop :=
  (files.readFile? path).map c.artifactHash =
    some (c.artifactHash (receiptContent c receipt).toUTF8)

section Persist

variable (c) (workspace : Path) {packetId : String} (receipt : CommitReceipt)

/-- The single intent of `_persist_commit_receipt`. -/
def receiptIntent (hname : OrdinaryName (receiptDestination packetId)) : WriteIntent c where
  artifact := receiptArtifact c receipt (receiptDestination packetId) _ hname.normalize

theorem receipt_target (hname : OrdinaryName (receiptDestination packetId)) :
    (receiptSink workspace).target (receiptIntent c receipt hname) =
      receiptPath workspace packetId :=
  hname.resolve _

theorem receipt_planTarget (hname : OrdinaryName (receiptDestination packetId)) :
    (receiptSink workspace).planTarget (receiptIntent c receipt hname) =
      (receiptPath workspace packetId, []) :=
  (receiptSink workspace).planTarget_inside (hname.resolve _) hname.nul (List.prefix_append _ _)
    (List.mem_singleton_self _) (List.mem_singleton_self _)

theorem receipt_plan_issues (hname : OrdinaryName (receiptDestination packetId))
    (files : FileTree) :
    ((receiptSink workspace).planIntents files [] [receiptIntent c receipt hname]).2 =
      ((receiptSink workspace).planEntry (receiptIntent c receipt hname)
        (receiptPath workspace packetId) files).2 := by
  simp [FileSystemOutputSink.planIntents, receipt_planTarget c workspace receipt hname]

theorem receipt_plan_entries (hname : OrdinaryName (receiptDestination packetId))
    (files : FileTree) :
    ((receiptSink workspace).planIntents files [] [receiptIntent c receipt hname]).1 =
      [((receiptSink workspace).planEntry (receiptIntent c receipt hname)
        (receiptPath workspace packetId) files).1] := by
  simp [FileSystemOutputSink.planIntents, receipt_planTarget c workspace receipt hname]

theorem receipt_limitIssues (hname : OrdinaryName (receiptDestination packetId)) :
    (receiptSink workspace).limitIssues [receiptIntent c receipt hname] = [] ↔
      ReceiptFits c receipt := by
  simp [FileSystemOutputSink.limitIssues, receiptSink, receiptIntent, receiptArtifact, ReceiptFits]

/-- What lies at the path may stay (the same bytes) or be made (nothing there); anything else raises
    an issue, since the sink may not overwrite. -/
theorem receipt_planEntry_issues (hname : OrdinaryName (receiptDestination packetId))
    (files : FileTree) :
    ((receiptSink workspace).planEntry (receiptIntent c receipt hname)
        (receiptPath workspace packetId) files).2 = [] ↔
      ReceiptInPlace c (receiptPath workspace packetId) receipt files ∨
        files.pathExists (receiptPath workspace packetId) = false := by
  by_cases hplace : ReceiptInPlace c (receiptPath workspace packetId) receipt files
  · have hentry : (receiptSink workspace).planEntry (receiptIntent c receipt hname)
        (receiptPath workspace packetId) files = _ :=
      (receiptSink workspace).planEntry_unchanged hplace
    simp [hentry, hplace]
  · cases hexists : files.pathExists (receiptPath workspace packetId) with
    | false =>
        rw [(receiptSink workspace).planEntry_missing hexists]
        simp
    | true =>
        have hdiff : ¬ (files.readFile? (receiptPath workspace packetId)).map c.artifactHash =
            some (receiptIntent c receipt hname).artifact.contentHash := hplace
        simp only [FileSystemOutputSink.planEntry, if_neg hdiff, hexists, not_true_eq_false,
          if_false, receiptSink, Bool.false_eq_true, not_false_eq_true, if_true, hplace,
          Bool.true_eq_false, or_self, iff_false]
        split <;> simp [FileSystemOutputSink.requiredIssue, receiptIntent]

/-- What lies at the receipt's path lets the receipt be written: nothing, or the same bytes. -/
def ReceiptAdmitted (c : Codec) (path : Path) (receipt : CommitReceipt) (faults : WriteFaults)
    (files : FileTree) : Prop :=
  ReceiptFits c receipt ∧ (ReceiptInPlace c path receipt files ∨
    (files.pathExists path = false ∧ faults path = none))

theorem receipt_plan_status (hname : OrdinaryName (receiptDestination packetId))
    (files : FileTree) :
    ((receiptSink workspace).plan [receiptIntent c receipt hname] files).status = .ready ↔
      ReceiptFits c receipt ∧ (ReceiptInPlace c (receiptPath workspace packetId) receipt files ∨
        files.pathExists (receiptPath workspace packetId) = false) := by
  rw [FileSystemOutputSink.plan_ready_iff, receipt_limitIssues, receipt_plan_issues,
    receipt_planEntry_issues]

/-- The receipt's entry when its bytes are there: skipped, and nothing is written. -/
theorem receipt_commitEntries_inPlace (hname : OrdinaryName (receiptDestination packetId))
    (faults : WriteFaults) {files : FileTree}
    (hplace : ReceiptInPlace c (receiptPath workspace packetId) receipt files) :
    ∃ result, (receiptSink workspace).commitEntries faults
        ((receiptSink workspace).planIntents files [] [receiptIntent c receipt hname]).1 files =
          ([result], files) ∧ result.status = .skipped := by
  have hentry : (receiptSink workspace).planEntry (receiptIntent c receipt hname)
      (receiptPath workspace packetId) files = _ :=
    (receiptSink workspace).planEntry_unchanged hplace
  rw [receipt_plan_entries, hentry]
  exact ⟨_, rfl, rfl⟩

/-- The receipt's entry when nothing is there: the write decides. -/
theorem receipt_commitEntries_missing (hname : OrdinaryName (receiptDestination packetId))
    (faults : WriteFaults) {files : FileTree}
    (hmissing : files.pathExists (receiptPath workspace packetId) = false) :
    ∃ result files', (receiptSink workspace).commitEntries faults
        ((receiptSink workspace).planIntents files [] [receiptIntent c receipt hname]).1 files =
          ([result], files') ∧
      ((faults (receiptPath workspace packetId) = none ∧ result.status = .written ∧
          files' = files.writeFile (receiptPath workspace packetId)
            (receiptContent c receipt).toUTF8) ∨
        (faults (receiptPath workspace packetId) ≠ none ∧ result.status = .failed ∧
          files' = files)) := by
  let entry : WritePlanEntry c :=
    { intent := receiptIntent c receipt hname
      action := .create
      existingHash := none
      reason := "destination does not exist" }
  have hentry : (receiptSink workspace).planEntry (receiptIntent c receipt hname)
      (receiptPath workspace packetId) files = (entry, []) :=
    (receiptSink workspace).planEntry_missing hmissing
  have htarget := receipt_target c workspace receipt hname
  have hcommit : (receiptSink workspace).commitEntry entry faults files = _ :=
    (receiptSink workspace).commitEntry_create faults rfl rfl rfl rfl (htarget.symm ▸ hmissing)
  rw [receipt_plan_entries, hentry]
  simp only [FileSystemOutputSink.commitEntries, hcommit, entry, htarget]
  cases faults (receiptPath workspace packetId) with
  | none => exact ⟨_, _, rfl, Or.inl ⟨rfl, rfl, rfl⟩⟩
  | some fault => exact ⟨_, _, rfl, Or.inr ⟨Option.some_ne_none _, rfl, rfl⟩⟩

/-- **The receipt's commit.** It passes exactly when the receipt is admitted, and touches nothing
    but the receipt file, which it makes if there was none. -/
theorem receipt_commit (hname : OrdinaryName (receiptDestination packetId)) (faults : WriteFaults)
    (now : Timestamp) (files : FileTree) :
    let answer := (receiptSink workspace).commit [receiptIntent c receipt hname] faults now files
    let path := receiptPath workspace packetId
    (answer.1.status ≠ .passed ∧ ¬ ReceiptAdmitted c path receipt faults files ∧
        answer.2 = files) ∨
      (answer.1.status = .passed ∧ ReceiptAdmitted c path receipt faults files ∧
        (answer.2 = files ∨ files.pathExists path = false ∧
          answer.2 = files.writeFile path (receiptContent c receipt).toUTF8) ∧
        answer.2.pathExists path = true) := by
  intro answer path
  have hstatus := receipt_plan_status c workspace receipt hname files
  cases hplan : ((receiptSink workspace).plan [receiptIntent c receipt hname] files).status with
  | blocked =>
      left
      have hanswer : answer = (makeCommitReceipt c
          ((receiptSink workspace).plan [receiptIntent c receipt hname] files) [] true now,
          files) := by
        show (receiptSink workspace).commitPlan _ faults now files = _
        rw [FileSystemOutputSink.commitPlan, if_pos hplan]
      refine ⟨?_, ?_, by rw [hanswer]⟩
      · rw [hanswer, makeCommitReceipt_status, Ne, commitStatus_eq_passed_iff]
        exact fun h => Bool.noConfusion h.1
      · rintro ⟨hfits, hlies⟩
        have hready := hstatus.2 ⟨hfits, hlies.imp_right And.left⟩
        rw [hplan] at hready
        cases hready
  | ready =>
      obtain ⟨hfits, hlies⟩ := hstatus.1 hplan
      -- the receipt of a ready plan passes unless the single entry failed
      have hanswer : ∀ result files', (receiptSink workspace).commitEntries faults
          ((receiptSink workspace).planIntents files [] [receiptIntent c receipt hname]).1 files =
            ([result], files') →
          answer.2 = files' ∧ (answer.1.status = .passed ↔ result.status ≠ .failed) := by
        intro result files' hentries
        have hnotBlocked : ¬ ((receiptSink workspace).plan [receiptIntent c receipt hname]
            files).status = .blocked := by simp [hplan]
        have heq : answer = (makeCommitReceipt c
            ((receiptSink workspace).plan [receiptIntent c receipt hname] files) [result] false
            now, files') := by
          show (receiptSink workspace).commitPlan _ faults now files = _
          rw [FileSystemOutputSink.commitPlan, if_neg hnotBlocked,
            FileSystemOutputSink.plan_entries, hentries]
        rw [heq]
        refine ⟨rfl, ?_⟩
        rw [makeCommitReceipt_status, commitStatus_eq_passed_iff]
        simp [hplan]
      by_cases hplace : ReceiptInPlace c path receipt files
      · right
        obtain ⟨result, hentries, hskipped⟩ :=
          receipt_commitEntries_inPlace c workspace receipt hname faults hplace
        obtain ⟨hfiles, hpassed⟩ := hanswer _ _ hentries
        obtain ⟨content, hread, -⟩ := Option.map_eq_some_iff.1 hplace
        refine ⟨hpassed.2 (by simp [hskipped]), ⟨hfits, Or.inl hplace⟩, Or.inl hfiles, ?_⟩
        rw [hfiles]
        exact FileTree.pathExists_of_readFile? hread
      · have hmissing := hlies.resolve_left hplace
        obtain ⟨result, files', hentries, hcases⟩ :=
          receipt_commitEntries_missing c workspace receipt hname faults hmissing
        obtain ⟨hfiles, hpassed⟩ := hanswer _ _ hentries
        rcases hcases with ⟨hfault, hwritten, rfl⟩ | ⟨hfault, hfailed, rfl⟩
        · right
          refine ⟨hpassed.2 (by simp [hwritten]), ⟨hfits, Or.inr ⟨hmissing, hfault⟩⟩,
            Or.inr ⟨hmissing, hfiles⟩, ?_⟩
          rw [hfiles]
          exact FileTree.pathExists_of_readFile? (FileTree.readFile?_writeFile_self _ _ _)
        · left
          refine ⟨fun h => hpassed.1 h hfailed, ?_, hfiles⟩
          rintro ⟨-, hlies⟩
          exact hlies.elim hplace fun h => hfault h.2

theorem persistCommitReceipt_eq (hname : OrdinaryName (receiptDestination packetId))
    (faults : WriteFaults) (now : Timestamp) (files : FileTree) :
    persistCommitReceipt c workspace packetId receipt faults now files =
      let (writeReceipt, files') :=
        (receiptSink workspace).commit [receiptIntent c receipt hname] faults now files
      if writeReceipt.status ≠ .passed then
        (.error (.worker
          { code := "commit-receipt-persistence-failed"
            message := c.dumpsInOrder writeReceipt.toJson
            retryable := true }), files')
      else (.ok (pathToFileUri (receiptPath workspace packetId)), files') := by
  unfold persistCommitReceipt
  split
  · next h =>
      rw [hname.normalize] at h
      cases h
  · next normalized h =>
      have hsame : normalized = receiptDestination packetId := by
        rw [hname.normalize] at h
        exact (Except.ok.inj h).symm
      subst hsame
      rw [hname.resolve]
      rfl

/-- `_persist_commit_receipt` succeeds exactly when the receipt is admitted. -/
theorem persistCommitReceipt_cases (hname : OrdinaryName (receiptDestination packetId))
    (faults : WriteFaults) (now : Timestamp) (files : FileTree) :
    let answer := persistCommitReceipt c workspace packetId receipt faults now files
    let path := receiptPath workspace packetId
    ((∃ e, e.retryable = true ∧ answer.1 = .error (.worker e)) ∧
        ¬ ReceiptAdmitted c path receipt faults files ∧ answer.2 = files) ∨
      ((∃ uri, answer.1 = .ok uri) ∧ ReceiptAdmitted c path receipt faults files ∧
        (answer.2 = files ∨ files.pathExists path = false ∧
          answer.2 = files.writeFile path (receiptContent c receipt).toUTF8) ∧
        answer.2.pathExists path = true) := by
  intro answer path
  have hanswer := persistCommitReceipt_eq c workspace receipt hname faults now files
  rcases receipt_commit c workspace receipt hname faults now files with
    ⟨hstatus, hnot, hfiles⟩ | ⟨hstatus, hadmitted, hfiles, hexists⟩
  · left
    simp only [if_pos hstatus] at hanswer
    refine ⟨⟨_, rfl, congrArg Prod.fst hanswer⟩, hnot, ?_⟩
    exact (congrArg Prod.snd hanswer).trans hfiles
  · right
    simp only [if_neg (not_not.2 hstatus)] at hanswer
    have htree := congrArg Prod.snd hanswer
    refine ⟨⟨_, congrArg Prod.fst hanswer⟩, hadmitted, ?_, ?_⟩
    · exact hfiles.imp htree.trans fun h => ⟨h.1, htree.trans h.2⟩
    · exact (congrArg (fun tree => FileTree.pathExists tree path) htree).trans hexists

end Persist

/-! ## One dispatch on its own -/

/-- One worker alone on a dispatch, in the outside world of that dispatch. -/
def soloSystem (workspace : Path) (dispatch : StageDispatch) (env : StageEnvironment c)
    (stores : StageStores) : TransitionSystem (StageStores × StageControl c) Unit where
  init := (stores, .lookupRegistry)
  step s _ := advance workspace dispatch env s.1 s.2

/-- The steps between the bundle commit and the end of `finalize`. -/
def StageStep.beforePublished : List StageStep :=
  [persistReceipt, assertBeforePublish, publish, verifyPublished, finalize]

/-- The steps after `finalize`. -/
def StageStep.afterPublished : List StageStep := [register, callback, acknowledge, release]

/-- The lease row of the key is in this state. -/
def LeaseStore.InState (s : LeaseStore) (k : String) (state : LeaseState) : Prop :=
  ∃ row, s.lookup k = some row ∧ row.state = state

theorem LeaseStore.InState.unique {s : LeaseStore} {k : String} {state state' : LeaseState}
    (h : s.InState k state) (h' : s.InState k state') : state = state' := by
  obtain ⟨row, hrow, rfl⟩ := h
  obtain ⟨row', hrow', rfl⟩ := h'
  rw [Option.some.inj (hrow.symm.trans hrow')]

section Attempt

variable (workspace : Path) (dispatch : StageDispatch) (compilation : Compilation c)

/-- The worker holds the claim on a key without a registry entry. -/
structure Claiming (stores : StageStores) (permit : ExecutionPermit) : Prop where
  key : permit.idempotencyKey = dispatch.idempotencyKey
  unregistered : ¬ stores.registry.Holds dispatch.idempotencyKey
  active : ∃ row, stores.leases.Holds permit row ∧ row.state = .claimed

/-- The bundle of the compilation is at its place, put there by a plan without issues. -/
def Bundled (files : FileTree) : Prop :=
  ∃ bundlePath uri before,
    bundleOutputLocation dispatch.outputUri workspace compilation.packetId = .ok (bundlePath, uri) ∧
      ((bundleSink bundlePath).base.plan (compilationIntents compilation) before).status = .ready ∧
      (bundleSink bundlePath).base.InPlace (compilationIntents compilation) files

/-- What is in the workspace while a step after the bundle commit runs. -/
structure Committed (step : StageStep) (files : FileTree) : Prop where
  bundled : Bundled workspace dispatch compilation files
  receipt : step ≠ .persistReceipt →
    files.pathExists (receiptPath workspace compilation.packetId) = true

/-- What a dispatch that raised leaves behind. -/
structure Leftover (step : StageStep) (stores : StageStores) : Prop where
  unregistered : ¬ stores.registry.Holds dispatch.idempotencyKey
  lease : stores.leases.InState dispatch.idempotencyKey .claimed ∨
    stores.leases.InState dispatch.idempotencyKey .failed
  committed : Committed workspace dispatch compilation step stores.files

/-- What holds of a worker that started alone, by where it stands. -/
def AttemptInv (stores : StageStores) : StageControl c → Prop
  | .acquire => ¬ stores.registry.Holds dispatch.idempotencyKey
  | .assertInitial permit | .resolveInputs permit | .compile permit =>
      Claiming dispatch stores permit
  | .assertBeforeCommit permit compilation' bundlePath
  | .commitBundle permit compilation' bundlePath =>
      Claiming dispatch stores permit ∧ compilation' = compilation ∧
        ∃ uri, bundleOutputLocation dispatch.outputUri workspace compilation.packetId =
          .ok (bundlePath, uri)
  | .persistReceipt permit compilation' _ _ =>
      Claiming dispatch stores permit ∧ compilation' = compilation ∧
        Committed workspace dispatch compilation .persistReceipt stores.files
  | .assertBeforePublish permit compilation' _ _ | .publish permit compilation' _ _
  | .verifyPublished permit compilation' _ _ _ | .finalize permit compilation' _ _ _ _ =>
      Claiming dispatch stores permit ∧ compilation' = compilation ∧
        Committed workspace dispatch compilation .publish stores.files
  | .register permit _ _ _ _ _ | .callback permit _ _ | .acknowledge permit _ _
  | .release permit _ _ =>
      permit.idempotencyKey = dispatch.idempotencyKey ∧
        stores.leases.InState dispatch.idempotencyKey .published
  | .cleanup permit step _ =>
      permit.idempotencyKey = dispatch.idempotencyKey ∧
      (step ∈ StageStep.beforePublished → Claiming dispatch stores permit ∧
        Committed workspace dispatch compilation step stores.files) ∧
      (step ∈ StageStep.afterPublished →
        stores.leases.InState dispatch.idempotencyKey .published)
  | .raised step _ =>
      (step ∈ StageStep.beforePublished → Leftover workspace dispatch compilation step stores) ∧
      (step ∈ StageStep.afterPublished →
        stores.leases.InState dispatch.idempotencyKey .published)
  | _ => True

end Attempt

/-! ## What the attempt's steps keep -/

section AttemptStep

variable {workspace : Path} {dispatch : StageDispatch} {compilation : Compilation c}
  {stores : StageStores} {permit : ExecutionPermit} {step : StageStep}

theorem Committed.of_later {files : FileTree} (step : StageStep)
    (h : Committed workspace dispatch compilation .publish files) :
    Committed workspace dispatch compilation step files :=
  ⟨h.bundled, fun _ => h.receipt (by decide)⟩

/-- A file made where there was none disturbs no bundle. -/
theorem Bundled.writeFile {files : FileTree} {path : Path} (content : ByteArray)
    (h : Bundled workspace dispatch compilation files) (hmissing : files.pathExists path = false) :
    Bundled workspace dispatch compilation (files.writeFile path content) := by
  obtain ⟨bundlePath, uri, before, hlocation, hready, hplace⟩ := h
  refine ⟨bundlePath, uri, before, hlocation, hready, ?_⟩
  intro intent hintent
  have hown := hplace intent hintent
  have hne : (bundleSink bundlePath).base.target intent ≠ path := by
    rintro heq
    rw [heq, FileTree.readFile?_of_not_pathExists hmissing] at hown
    cases hown
  rw [FileTree.readFile?_writeFile_ne files content hne]
  exact hown

theorem attemptInv_cleanup_early {exception : StageException}
    (hkey : permit.idempotencyKey = dispatch.idempotencyKey)
    (hbefore : step ∉ StageStep.beforePublished) (hafter : step ∉ StageStep.afterPublished) :
    AttemptInv workspace dispatch compilation stores (.cleanup permit step exception) :=
  ⟨hkey, fun h => absurd h hbefore, fun h => absurd h hafter⟩

theorem attemptInv_cleanup_claiming {exception : StageException}
    (hclaim : Claiming dispatch stores permit)
    (hcommitted : Committed workspace dispatch compilation step stores.files)
    (hafter : step ∉ StageStep.afterPublished) :
    AttemptInv workspace dispatch compilation stores (.cleanup permit step exception) :=
  ⟨hclaim.key, fun _ => ⟨hclaim, hcommitted⟩, fun h => absurd h hafter⟩

theorem attemptInv_cleanup_published {exception : StageException}
    (hkey : permit.idempotencyKey = dispatch.idempotencyKey)
    (hpublished : stores.leases.InState dispatch.idempotencyKey .published)
    (hbefore : step ∉ StageStep.beforePublished) :
    AttemptInv workspace dispatch compilation stores (.cleanup permit step exception) :=
  ⟨hkey, fun h => absurd h hbefore, fun _ => hpublished⟩

theorem attemptInv_guardStep {α : Type} {answer : Except StageException α}
    {next : α → StageControl c}
    (hcleanup : ∀ exception, answer = .error exception →
      AttemptInv workspace dispatch compilation stores (.cleanup permit step exception))
    (hnext : ∀ value, answer = .ok value →
      AttemptInv workspace dispatch compilation stores (next value)) :
    AttemptInv workspace dispatch compilation stores (guardStep permit step answer next) := by
  unfold guardStep
  split
  · exact hnext _ rfl
  · exact hcleanup _ rfl

/-- The registered packet is served without any of the above. -/
theorem attemptInv_startReuse (entry : RegistryEntry) :
    AttemptInv workspace dispatch compilation stores (startReuse entry) := by
  have hraised : AttemptInv workspace dispatch compilation stores
      (.raised .reuseVerify (.worker publicationEvidenceMissing)) :=
    ⟨fun h => absurd h (by decide), fun h => absurd h (by decide)⟩
  unfold startReuse
  split
  · exact hraised
  · split
    · exact hraised
    · trivial

theorem attemptInv_raised {exception : StageException}
    (hbefore : step ∉ StageStep.beforePublished) (hafter : step ∉ StageStep.afterPublished) :
    AttemptInv workspace dispatch compilation stores (.raised step exception) :=
  ⟨fun h => absurd h hbefore, fun h => absurd h hafter⟩

/-- The cleanup frees the claim, or leaves it as it is. -/
theorem inState_fail_of_active {s : LeaseStore} (reason : String) (fault : SqliteFault)
    (h : ∃ row, s.Holds permit row ∧ row.state = .claimed) :
    (s.fail permit reason fault).2.InState permit.idempotencyKey .claimed ∨
      (s.fail permit reason fault).2.InState permit.idempotencyKey .failed := by
  obtain ⟨row, hrow, hclaimed⟩ := h
  rcases s.fail_cases permit reason fault with ⟨hsame, -⟩ | ⟨-, row', hrow', -, -, htable⟩
  · left
    rw [hsame]
    exact ⟨row, hrow.1, hclaimed⟩
  · right
    have hkey : row'.idempotencyKey = permit.idempotencyKey := Table.lookup_key hrow'.1
    refine ⟨{ row' with state := .failed }, ?_, rfl⟩
    rw [htable, ← hkey]
    exact Table.lookup_upsert_self s.toTable { row' with state := .failed }

/-- The cleanup leaves a published row alone. -/
theorem inState_fail_of_published {s : LeaseStore} (reason : String) (fault : SqliteFault)
    (h : s.InState permit.idempotencyKey .published) :
    (s.fail permit reason fault).2.InState permit.idempotencyKey .published := by
  rcases s.fail_cases permit reason fault with ⟨hsame, -⟩ | ⟨-, row', hrow', hclaimed, -⟩
  · rw [hsame]
    exact h
  · obtain ⟨row, hrow, hpublished⟩ := h
    have hsame : row = row' := Option.some.inj (hrow.symm.trans hrow'.1)
    rw [hsame, hclaimed] at hpublished
    cases hpublished

/-- `finalize` publishes the permit's row unless it fails. -/
theorem inState_finalize {s : LeaseStore} {result : PacketRef} {fault : SqliteFault}
    (h : (s.finalize permit result fault).1 = .ok ()) :
    (s.finalize permit result fault).2.InState permit.idempotencyKey .published := by
  rcases s.transition_cases permit .claimed .published (some result) fault with
    ⟨-, ⟨e, herror⟩, -⟩ | ⟨-, row, hrow, -, -, htable⟩
  · unfold LeaseStore.finalize at h
    rw [herror] at h
    cases h
  · have hkey : row.idempotencyKey = permit.idempotencyKey := Table.lookup_key hrow.1
    let row' : LeaseRow :=
      { row with state := .published, result := (some result).or row.result }
    refine ⟨row', ?_, rfl⟩
    unfold LeaseStore.finalize
    rw [htable, ← hkey]
    exact Table.lookup_upsert_self s.toTable row'

/-- A failed transition changes nothing. -/
theorem transition_error {s : LeaseStore} {expected target : LeaseState}
    {result : Option PacketRef} {fault : SqliteFault}
    (h : (s.transition permit expected target result fault).1 ≠ .ok ()) :
    (s.transition permit expected target result fault).2 = s := by
  rcases s.transition_cases permit expected target result fault with
    ⟨hsame, -⟩ | ⟨-, row, -, -, hok, -⟩
  · exact hsame
  · exact absurd hok h

theorem ok_of_raising {answer : Except WorkerError Unit} {value : Unit}
    (h : raising answer = .ok value) : answer = .ok () := by
  cases answer with
  | ok _ => rfl
  | error e => cases h

theorem not_ok_of_raising {answer : Except WorkerError Unit} {exception : StageException}
    (h : raising answer = .error exception) : answer ≠ .ok () := by
  rintro rfl
  cases h

section Step

variable {env : StageEnvironment c} {stores' : StageStores} {compilation' : Compilation c}
  {bundlePath : Path} {commitUri : String} {control' : StageControl c}

/-- A commit that passes puts the bundle at its place. -/
theorem attemptInv_commitBundle
    (hinv : AttemptInv workspace dispatch compilation stores
      (.commitBundle permit compilation' bundlePath))
    (h : advance workspace dispatch env stores (.commitBundle permit compilation' bundlePath) =
      some (stores', control')) :
    AttemptInv workspace dispatch compilation stores' control' := by
  obtain ⟨hclaim, rfl, uri, hlocation⟩ := hinv
  simp only [advance] at h
  split at h
  · cases h
    exact attemptInv_cleanup_early hclaim.key (by decide) (by decide)
  · next receipt hcommit =>
      split at h
      · cases h
        exact attemptInv_cleanup_early hclaim.key (by decide) (by decide)
      · next hpassed =>
          cases h
          obtain ⟨hready, hplace⟩ := (bundleSink bundlePath).commit_passed rfl
            (fun intent hintent => by
              obtain ⟨artifact, -, rfl⟩ := List.mem_map.1 hintent
              rfl)
            (Prod.ext hcommit rfl) (not_not.1 hpassed)
          exact ⟨⟨hclaim.key, hclaim.unregistered, hclaim.active⟩, rfl,
            ⟨bundlePath, uri, stores.files, hlocation, hready, hplace⟩, fun h => absurd rfl h⟩

/-- The receipt is there once `_persist_commit_receipt` succeeds, and the bundle keeps its place. -/
theorem attemptInv_persistReceipt {receipt : CommitReceipt}
    (hinv : AttemptInv workspace dispatch compilation stores
      (.persistReceipt permit compilation' bundlePath receipt))
    (h : advance workspace dispatch env stores
      (.persistReceipt permit compilation' bundlePath receipt) = some (stores', control')) :
    AttemptInv workspace dispatch compilation stores' control' := by
  obtain ⟨hclaim, rfl, hcommitted⟩ := hinv
  simp only [advance, Option.some.injEq, Prod.mk.injEq] at h
  obtain ⟨rfl, rfl⟩ := h
  have hclaim' : ∀ files, Claiming dispatch { stores with files } permit := fun _ =>
    ⟨hclaim.key, hclaim.unregistered, hclaim.active⟩
  have hpersist := persistCommitReceipt_cases c workspace receipt
    (ordinaryName_receiptDestination compilation') env.receiptFaults
    (env.clock .persistReceipt) stores.files
  simp only at hpersist
  generalize persistCommitReceipt c workspace compilation'.packetId receipt env.receiptFaults
    (env.clock .persistReceipt) stores.files = answer at hpersist ⊢
  refine attemptInv_guardStep ?_ ?_
  · intro exception herror
    rcases hpersist with ⟨-, -, hfiles⟩ | ⟨⟨commitUri, hok⟩, -⟩
    · rw [hfiles]
      exact attemptInv_cleanup_claiming (hclaim' _) hcommitted (by decide)
    · cases herror.symm.trans hok
  · intro commitUri hok
    rcases hpersist with ⟨⟨e, -, herror⟩, -⟩ | ⟨-, -, hfiles, hexists⟩
    · cases hok.symm.trans herror
    · refine ⟨hclaim' _, rfl, ?_, fun _ => hexists⟩
      show Bundled _ _ _ answer.2
      rcases hfiles with hsame | ⟨hmissing, hwritten⟩
      · rw [hsame]
        exact hcommitted.bundled
      · rw [hwritten]
        exact hcommitted.bundled.writeFile _ hmissing

/-- The permit's row is published once `finalize` succeeds. -/
theorem attemptInv_finalize {published : PublishedPacket} {descriptorDigest : Option String}
    (hinv : AttemptInv workspace dispatch compilation stores
      (.finalize permit compilation' bundlePath commitUri published descriptorDigest))
    (h : advance workspace dispatch env stores
      (.finalize permit compilation' bundlePath commitUri published descriptorDigest) =
        some (stores', control')) :
    AttemptInv workspace dispatch compilation stores' control' := by
  obtain ⟨hclaim, -, hcommitted⟩ := hinv
  simp only [advance, Option.some.injEq, Prod.mk.injEq] at h
  obtain ⟨rfl, rfl⟩ := h
  refine attemptInv_guardStep ?_ ?_
  · intro exception herror
    have hsame : (stores.leases.finalize permit (outputPacketRef dispatch compilation' published)
        (env.sqliteFault .finalize)).2 = stores.leases :=
      transition_error (not_ok_of_raising herror)
    rw [hsame]
    exact attemptInv_cleanup_claiming hclaim (hcommitted.of_later _) (by decide)
  · intro value hok
    exact ⟨hclaim.key, hclaim.key ▸ inState_finalize (ok_of_raising hok)⟩

end Step

/-- **One step of the attempt.** -/
theorem advance_attemptInv {env : StageEnvironment c} {stores' : StageStores}
    {control control' : StageControl c} (hcompilation : env.compilation = .ok compilation)
    (hinv : AttemptInv workspace dispatch compilation stores control)
    (h : advance workspace dispatch env stores control = some (stores', control')) :
    AttemptInv workspace dispatch compilation stores' control' := by
  cases control with
  | lookupRegistry =>
      simp only [advance] at h
      split at h
      · cases h
        exact attemptInv_raised (by decide) (by decide)
      · cases h
        exact attemptInv_startReuse _
      · next hget =>
          cases h
          exact PacketRegistry.not_holds_of_getEntry hget
  | acquire =>
      simp only [advance] at h
      split at h
      · cases h
        exact attemptInv_raised (by decide) (by decide)
      · next hanswer =>
          cases h
          obtain ⟨hkey, hactive⟩ := LeaseStore.acquire_granted hanswer
          exact ⟨hkey, hinv, hactive⟩
      · cases h
        trivial
  | lookupRecovery =>
      simp only [advance] at h
      split at h <;> cases h
      · exact attemptInv_raised (by decide) (by decide)
      · exact attemptInv_startReuse _
      · exact attemptInv_raised (by decide) (by decide)
  | reuseVerify entry =>
      simp only [advance] at h
      split at h
      · cases h
        exact attemptInv_raised (by decide) (by decide)
      · split at h <;> cases h <;> trivial
  | reuseCallback entry =>
      simp only [advance] at h
      split at h <;> cases h
      · exact attemptInv_raised (by decide) (by decide)
      · trivial
  | reuseAcknowledge entry =>
      simp only [advance] at h
      split at h <;> cases h
      · exact attemptInv_raised (by decide) (by decide)
      · trivial
  | assertInitial permit =>
      cases h
      exact attemptInv_guardStep
        (fun _ _ => attemptInv_cleanup_early hinv.key (by decide) (by decide)) fun _ _ => hinv
  | resolveInputs permit =>
      cases h
      exact attemptInv_guardStep
        (fun _ _ => attemptInv_cleanup_early hinv.key (by decide) (by decide)) fun _ _ => hinv
  | compile permit =>
      cases h
      refine attemptInv_guardStep
        (fun _ _ => attemptInv_cleanup_early hinv.key (by decide) (by decide)) ?_
      intro compilation' hanswer
      rw [hcompilation] at hanswer
      cases hanswer
      refine attemptInv_guardStep
        (fun _ _ => attemptInv_cleanup_early hinv.key (by decide) (by decide)) ?_
      intro location hlocation
      exact ⟨hinv, rfl, location.2, hlocation⟩
  | assertBeforeCommit permit compilation' bundlePath =>
      cases h
      exact attemptInv_guardStep
        (fun _ _ => attemptInv_cleanup_early hinv.1.key (by decide) (by decide)) fun _ _ => hinv
  | commitBundle permit compilation' bundlePath => exact attemptInv_commitBundle hinv h
  | persistReceipt permit compilation' bundlePath receipt => exact attemptInv_persistReceipt hinv h
  | assertBeforePublish permit compilation' bundlePath commitUri =>
      cases h
      exact attemptInv_guardStep
        (fun _ _ => attemptInv_cleanup_claiming hinv.1 (hinv.2.2.of_later _) (by decide))
        fun _ _ => hinv
  | publish permit compilation' bundlePath commitUri =>
      cases h
      exact attemptInv_guardStep
        (fun _ _ => attemptInv_cleanup_claiming hinv.1 (hinv.2.2.of_later _) (by decide))
        fun _ _ => hinv
  | verifyPublished permit compilation' bundlePath commitUri published =>
      cases h
      exact attemptInv_guardStep
        (fun _ _ => attemptInv_cleanup_claiming hinv.1 (hinv.2.2.of_later _) (by decide))
        fun _ _ => hinv
  | finalize permit compilation' bundlePath commitUri published descriptorDigest =>
      exact attemptInv_finalize hinv h
  | register permit compilation' bundlePath commitUri published descriptorDigest =>
      obtain ⟨hkey, hpublished⟩ := hinv
      simp only [advance, Option.some.injEq, Prod.mk.injEq] at h
      obtain ⟨rfl, rfl⟩ := h
      refine attemptInv_guardStep
        (fun _ _ => attemptInv_cleanup_published hkey hpublished (by decide)) ?_
      intro value _
      split <;> exact ⟨hkey, hpublished⟩
  | callback permit result bundlePath =>
      cases h
      exact attemptInv_guardStep
        (fun _ _ => attemptInv_cleanup_published hinv.1 hinv.2 (by decide)) fun _ _ => hinv
  | acknowledge permit result bundlePath =>
      simp only [advance, Option.some.injEq, Prod.mk.injEq] at h
      obtain ⟨rfl, rfl⟩ := h
      exact attemptInv_guardStep
        (fun _ _ => attemptInv_cleanup_published hinv.1 hinv.2 (by decide)) fun _ _ => hinv
  | release permit result bundlePath =>
      obtain ⟨hkey, hpublished⟩ := hinv
      simp only [advance, Option.some.injEq, Prod.mk.injEq] at h
      obtain ⟨rfl, rfl⟩ := h
      refine attemptInv_guardStep ?_ fun _ _ => trivial
      intro exception herror
      have hsame : (stores.leases.release permit (env.sqliteFault .release)).2 = stores.leases :=
        transition_error (not_ok_of_raising herror)
      rw [hsame]
      exact attemptInv_cleanup_published hkey hpublished (by decide)
  | cleanup permit step exception =>
      obtain ⟨hkey, hbefore, hafter⟩ := hinv
      simp only [advance, Option.some.injEq, Prod.mk.injEq] at h
      obtain ⟨rfl, rfl⟩ := h
      refine ⟨fun hstep => ?_, fun hstep => ?_⟩
      · obtain ⟨hclaim, hcommitted⟩ := hbefore hstep
        exact ⟨hclaim.unregistered, hkey ▸ inState_fail_of_active _ _ hclaim.active, hcommitted⟩
      · have hpublished := hafter hstep
        rw [← hkey] at hpublished ⊢
        exact inState_fail_of_published _ _ hpublished
  | returned outcome => cases h
  | raised step exception => cases h

/-- **The run of the attempt.** -/
theorem attemptInv_of_reachable {env : StageEnvironment c} {stores' : StageStores}
    {control : StageControl c} (hcompilation : env.compilation = .ok compilation)
    (h : (soloSystem workspace dispatch env stores).Reachable (stores', control)) :
    AttemptInv workspace dispatch compilation stores' control :=
  h.invariant
    (I := fun s : StageStores × StageControl c => AttemptInv workspace dispatch compilation s.1 s.2)
    trivial fun _ _ _ hinv hstep => advance_attemptInv hcompilation hinv hstep

end AttemptStep

/-! ## The retry -/

/-- Every external step up to the compilation succeeds, and no sqlite statement fails. -/
structure StageEnvironment.Prepares (env : StageEnvironment c) (compilation : Compilation c) :
    Prop where
  sqlite : ∀ step, env.sqliteFault step = none
  inputs : env.inputs = .ok ()
  compilation : env.compilation = .ok compilation

/-- Every external step succeeds and the compiler finds the same compilation; the times and the
    secrets are free. -/
structure StageEnvironment.Succeeds (env : StageEnvironment c) (compilation : Compilation c) :
    Prop extends env.Prepares compilation where
  receiptWrite : ∀ path, env.receiptFaults path = none
  published : ∃ published, env.published = .ok published
  verified : ∃ digest, env.verified = .ok digest
  bundleStep : ∀ step, env.bundleFaults.step step = none
  bundleWrite : ∀ path, env.bundleFaults.write path = none
  callback : env.callback = .ok ()

/-- The dispatch brings the lease of its key to `PUBLISHED`. -/
def Publishes (workspace : Path) (dispatch : StageDispatch) (env : StageEnvironment c)
    (stores : StageStores) : Prop :=
  ∃ stores' control, (soloSystem workspace dispatch env stores).Reachable (stores', control) ∧
    stores'.leases.InState dispatch.idempotencyKey .published

section Retry

variable {workspace : Path} {dispatch : StageDispatch} {compilation : Compilation c}
  {env : StageEnvironment c} {stores : StageStores} {bundlePath : Path}

/-- A dispatch that finds the lease free, no registry entry and the bundle at its place. -/
structure RetrySetting (workspace : Path) (dispatch : StageDispatch) (compilation : Compilation c)
    (env : StageEnvironment c) (stores : StageStores) (bundlePath : Path) : Prop where
  prepares : env.Prepares compilation
  unregistered : ¬ stores.registry.Holds dispatch.idempotencyKey
  claimable : stores.leases.Claimable dispatch.acquireRequest
  location : ∃ uri, bundleOutputLocation dispatch.outputUri workspace compilation.packetId =
    .ok (bundlePath, uri)
  bundled : ∃ before,
    ((bundleSink bundlePath).base.plan (compilationIntents compilation) before).status = .ready ∧
      (bundleSink bundlePath).base.InPlace (compilationIntents compilation) stores.files

/-- The stores after the claim. -/
def claimedStores (dispatch : StageDispatch) (env : StageEnvironment c) (stores : StageStores) :
    StageStores :=
  { stores with leases := (stores.leases.acquire dispatch.acquireRequest env.secrets none).2 }

/-- The permit an attempt is given. -/
def claimPermit (dispatch : StageDispatch) (env : StageEnvironment c) : ExecutionPermit :=
  dispatch.acquireRequest.permit env.secrets

/-- The stores after the claim was given back. -/
def releasedStores (dispatch : StageDispatch) (env : StageEnvironment c) (stores : StageStores) :
    StageStores :=
  { claimedStores dispatch env stores with
    leases := ((claimedStores dispatch env stores).leases.fail (claimPermit dispatch env)
      "stage-execution-failed" none).2 }

/-- The receipt of the reused bundle. -/
def retryReceipt (compilation : Compilation c) (bundlePath : Path) (now : Timestamp)
    (files : FileTree) : CommitReceipt :=
  (bundleSink bundlePath).reuseReceipt (compilationIntents compilation) now files

/-- The retry up to the commit receipt, and what follows. -/
def retryTrace (dispatch : StageDispatch) (compilation : Compilation c)
    (env : StageEnvironment c) (stores : StageStores) (bundlePath : Path)
    (rest : List (StageStores × StageControl c)) : List (StageStores × StageControl c) :=
  let permit := claimPermit dispatch env
  let claimed := claimedStores dispatch env stores
  [(stores, .lookupRegistry), (stores, .acquire), (claimed, .assertInitial permit),
    (claimed, .resolveInputs permit), (claimed, .compile permit),
    (claimed, .assertBeforeCommit permit compilation bundlePath),
    (claimed, .commitBundle permit compilation bundlePath)] ++
  (claimed, .persistReceipt permit compilation bundlePath
    (retryReceipt compilation bundlePath (env.clock .commitBundle) stores.files)) :: rest

namespace RetrySetting

variable (h : RetrySetting workspace dispatch compilation env stores bundlePath)

include h

theorem active : ∃ row, (claimedStores dispatch env stores).leases.Holds (claimPermit dispatch env)
    row ∧ row.state = .claimed :=
  (LeaseStore.acquire_granted (LeaseStore.acquire_of_claimable env.secrets h.claimable).1).2

theorem assertActive (step : StageStep) :
    (claimedStores dispatch env stores).leases.assertActive (claimPermit dispatch env)
      (env.sqliteFault step) = .ok () :=
  LeaseStore.assertActive_eq_ok_iff.2 ⟨h.prepares.sqlite step, h.active⟩

theorem isTrace (rest : List (StageStores × StageControl c))
    (hrest : ((claimedStores dispatch env stores, StageControl.persistReceipt
        (claimPermit dispatch env) compilation bundlePath
        (retryReceipt compilation bundlePath (env.clock .commitBundle) stores.files)) ::
          rest).IsChain fun s s' => (soloSystem workspace dispatch env stores).step s () = some s') :
    (soloSystem workspace dispatch env stores).IsTrace
      (retryTrace dispatch compilation env stores bundlePath rest) := by
  obtain ⟨uri, hlocation⟩ := h.location
  obtain ⟨before, hready, hplace⟩ := h.bundled
  have hlookup : stores.registry.lookup dispatch.idempotencyKey = none := by
    cases hrow : stores.registry.lookup dispatch.idempotencyKey with
    | none => rfl
    | some row => exact absurd ⟨row, hrow⟩ h.unregistered
  have hget : stores.registry.getEntry dispatch.idempotencyKey (env.sqliteFault .lookupRegistry) =
      .ok none := by
    simp [h.prepares.sqlite, PacketRegistry.getEntry, hlookup]
  have hacquire := (LeaseStore.acquire_of_claimable env.secrets h.claimable).1
  obtain ⟨hcommit, hpassed⟩ := (bundleSink bundlePath).commit_of_inPlace env.bundleFaults
    (env.clock .commitBundle) rfl hready hplace
  refine ⟨rfl, .cons_cons ?_ (.cons_cons ?_ (.cons_cons ?_ (.cons_cons ?_ (.cons_cons ?_
    (.cons_cons ?_ (.cons_cons ?_ hrest))))))⟩
  · simp only [soloSystem, advance, hget]
  · simp only [soloSystem, advance, h.prepares.sqlite, hacquire]
    rfl
  · simp only [soloSystem, advance, h.assertActive]
    rfl
  · simp only [soloSystem, advance, h.prepares.inputs]
    rfl
  · simp only [soloSystem, advance, h.prepares.compilation, guardStep, hlocation]
  · simp only [soloSystem, advance, h.assertActive]
    rfl
  · have hfiles : (claimedStores dispatch env stores).files = stores.files := rfl
    simp only [soloSystem, advance, hfiles, hcommit, hpassed, ne_eq, not_true_eq_false, if_false]
    rfl

/-- The claimed row is not published, whatever the cleanup does to it. -/
theorem not_published_claimed :
    ¬ (claimedStores dispatch env stores).leases.InState dispatch.idempotencyKey .published := by
  obtain ⟨row, hrow, hclaimed⟩ := h.active
  intro hpublished
  cases hpublished.unique ⟨row, hrow.1, hclaimed⟩

/-- A receipt that is not admitted ends the dispatch in a retryable error, with the lease given
    back. -/
theorem blocked_trace (hblocked : ¬ ReceiptAdmitted c (receiptPath workspace compilation.packetId)
    (retryReceipt compilation bundlePath (env.clock .commitBundle) stores.files)
    env.receiptFaults stores.files) :
    ∃ e, e.retryable = true ∧ (soloSystem workspace dispatch env stores).IsTrace
      (retryTrace dispatch compilation env stores bundlePath
        [(claimedStores dispatch env stores,
            .cleanup (claimPermit dispatch env) .persistReceipt (.worker e)),
          (releasedStores dispatch env stores, .raised .persistReceipt (.worker e))]) := by
  have hpersist := persistCommitReceipt_cases c workspace
    (retryReceipt compilation bundlePath (env.clock .commitBundle) stores.files)
    (ordinaryName_receiptDestination compilation) env.receiptFaults (env.clock .persistReceipt)
    stores.files
  simp only [hblocked, not_false_eq_true, true_and, false_and, and_false, or_false] at hpersist
  obtain ⟨⟨e, hretryable, herror⟩, hfiles⟩ := hpersist
  refine ⟨e, hretryable, h.isTrace _ (.cons_cons ?_ (.cons_cons ?_ (.singleton _)))⟩
  · have hclaimedFiles : (claimedStores dispatch env stores).files = stores.files := rfl
    simp only [soloSystem, advance, hclaimedFiles, herror, hfiles]
    rfl
  · simp only [soloSystem, advance, h.prepares.sqlite]
    rfl

theorem not_publishes (hblocked : ¬ ReceiptAdmitted c (receiptPath workspace compilation.packetId)
    (retryReceipt compilation bundlePath (env.clock .commitBundle) stores.files)
    env.receiptFaults stores.files) : ¬ Publishes workspace dispatch env stores := by
  obtain ⟨e, -, htrace⟩ := h.blocked_trace hblocked
  have hstart : ¬ stores.leases.InState dispatch.idempotencyKey .published := by
    rintro ⟨row, hrow, hstate⟩
    rw [h.claimable.1 row hrow] at hstate
    cases hstate
  have hclaimed := h.not_published_claimed
  have hreleased : ¬ (releasedStores dispatch env stores).leases.InState dispatch.idempotencyKey
      .published := by
    intro hpublished
    rcases inState_fail_of_active "stage-execution-failed" none h.active with hstate | hstate
    · cases hpublished.unique hstate
    · cases hpublished.unique hstate
  rintro ⟨stores', control, hreach, hpublished⟩
  have hmem := htrace.mem_of_reachable ?_ hreach
  · have hnever : ∀ s ∈ retryTrace dispatch compilation env stores bundlePath
        [(claimedStores dispatch env stores,
            .cleanup (claimPermit dispatch env) .persistReceipt (.worker e)),
          (releasedStores dispatch env stores, .raised .persistReceipt (.worker e))],
        ¬ s.1.leases.InState dispatch.idempotencyKey .published := by
      simp only [retryTrace, List.cons_append, List.nil_append, List.forall_mem_cons]
      exact ⟨hstart, hstart, hclaimed, hclaimed, hclaimed, hclaimed, hclaimed, hclaimed, hclaimed,
        hreleased, List.forall_mem_nil _⟩
    exact hnever _ hmem hpublished
  · intro s hs
    have hlast : s = (releasedStores dispatch env stores, .raised .persistReceipt (.worker e)) :=
      (Option.some.inj hs).symm
    rw [hlast]
    rfl

/-- A failed publication leaves the receipt behind and gives the lease back. -/
theorem raised_publish {exception : StageException}
    (hadmitted : ReceiptAdmitted c (receiptPath workspace compilation.packetId)
      (retryReceipt compilation bundlePath (env.clock .commitBundle) stores.files)
      env.receiptFaults stores.files)
    (hpublish : env.published = .error exception) :
    ∃ files, (soloSystem workspace dispatch env stores).Reachable
      ({ releasedStores dispatch env stores with files }, .raised .publish exception) := by
  have hpersist := persistCommitReceipt_cases c workspace
    (retryReceipt compilation bundlePath (env.clock .commitBundle) stores.files)
    (ordinaryName_receiptDestination compilation) env.receiptFaults (env.clock .persistReceipt)
    stores.files
  simp only [hadmitted, not_true_eq_false, false_and, and_false, true_and, false_or] at hpersist
  obtain ⟨⟨commitUri, hok⟩, -⟩ := hpersist
  let permit := claimPermit dispatch env
  obtain ⟨files, hfiles⟩ : ∃ files, (persistCommitReceipt c workspace compilation.packetId
      (retryReceipt compilation bundlePath (env.clock .commitBundle) stores.files)
      env.receiptFaults (env.clock .persistReceipt) stores.files).2 = files := ⟨_, rfl⟩
  obtain ⟨persisted, hleases, hpersisted⟩ : ∃ persisted : StageStores,
      persisted.leases = (claimedStores dispatch env stores).leases ∧
        persisted = { claimedStores dispatch env stores with files } :=
    ⟨{ claimedStores dispatch env stores with files }, rfl, rfl⟩
  have htrace := h.isTrace [
    (persisted, .assertBeforePublish permit compilation bundlePath commitUri),
    (persisted, .publish permit compilation bundlePath commitUri),
    (persisted, .cleanup permit .publish exception),
    ({ releasedStores dispatch env stores with files }, .raised .publish exception)]
    (.cons_cons ?_ (.cons_cons ?_ (.cons_cons ?_ (.cons_cons ?_ (.singleton _)))))
  · exact ⟨files, htrace.reachable _ (List.mem_append_right _
      (.tail _ (.tail _ (.tail _ (.tail _ (.head _))))))⟩
  · have hclaimedFiles : (claimedStores dispatch env stores).files = stores.files := rfl
    simp only [soloSystem, advance, hclaimedFiles, hok, hfiles, hpersisted]
    rfl
  · have hactive : persisted.leases.assertActive permit (env.sqliteFault .assertBeforePublish) =
        .ok () := hleases ▸ h.assertActive _
    simp only [soloSystem, advance, hactive]
    rfl
  · simp only [soloSystem, advance, hpublish]
    rfl
  · simp only [soloSystem, advance, h.prepares.sqlite, releasedStores, hpersisted]
    rfl

theorem publishes (hadmitted : ReceiptAdmitted c (receiptPath workspace compilation.packetId)
    (retryReceipt compilation bundlePath (env.clock .commitBundle) stores.files)
    env.receiptFaults stores.files) (hpublish : ∃ published, env.published = .ok published)
    (hverify : ∃ digest, env.verified = .ok digest) :
    Publishes workspace dispatch env stores := by
  have hpersist := persistCommitReceipt_cases c workspace
    (retryReceipt compilation bundlePath (env.clock .commitBundle) stores.files)
    (ordinaryName_receiptDestination compilation) env.receiptFaults (env.clock .persistReceipt)
    stores.files
  simp only [hadmitted, not_true_eq_false, false_and, and_false, true_and, false_or] at hpersist
  obtain ⟨⟨commitUri, hok⟩, -⟩ := hpersist
  obtain ⟨published, hpublished⟩ := hpublish
  obtain ⟨digest, hverified⟩ := hverify
  let permit := claimPermit dispatch env
  let persisted : StageStores :=
    { claimedStores dispatch env stores with
      files := (persistCommitReceipt c workspace compilation.packetId
        (retryReceipt compilation bundlePath (env.clock .commitBundle) stores.files)
        env.receiptFaults (env.clock .persistReceipt) stores.files).2 }
  have hactive : ∀ step, persisted.leases.assertActive permit (env.sqliteFault step) = .ok () :=
    h.assertActive
  have hfinalize : (persisted.leases.finalize permit
      (outputPacketRef dispatch compilation published) none).1 = .ok () := by
    rcases persisted.leases.transition_cases permit .claimed .published
      (some (outputPacketRef dispatch compilation published)) none with
      ⟨-, -, hnot⟩ | ⟨-, row, -, -, hok, -⟩
    · exact absurd ⟨rfl, h.active⟩ hnot
    · exact hok
  let final : StageStores :=
    { persisted with
      leases := (persisted.leases.finalize permit
        (outputPacketRef dispatch compilation published) none).2 }
  have htrace := h.isTrace [
    (persisted, .assertBeforePublish permit compilation bundlePath commitUri),
    (persisted, .publish permit compilation bundlePath commitUri),
    (persisted, .verifyPublished permit compilation bundlePath commitUri published),
    (persisted, .finalize permit compilation bundlePath commitUri published digest),
    (final, .register permit compilation bundlePath commitUri published digest)]
    (.cons_cons ?_ (.cons_cons ?_ (.cons_cons ?_ (.cons_cons ?_ (.cons_cons ?_
      (.singleton _))))))
  · refine ⟨final, .register permit compilation bundlePath commitUri published digest,
      htrace.reachable _ ?_, inState_finalize hfinalize⟩
    simp [retryTrace]
  · have hclaimedFiles : (claimedStores dispatch env stores).files = stores.files := rfl
    simp only [soloSystem, advance, hclaimedFiles, hok]
    rfl
  · simp only [soloSystem, advance, hactive]
    rfl
  · simp only [soloSystem, advance, hpublished]
    rfl
  · simp only [soloSystem, advance, hverified]
    rfl
  · simp only [soloSystem, advance, h.prepares.sqlite, hfinalize]
    rfl

/-- **The retry of a free lease.** It publishes exactly when its receipt is admitted. -/
theorem publishes_iff (henv : env.Succeeds compilation) : Publishes workspace dispatch env stores ↔
    ReceiptAdmitted c (receiptPath workspace compilation.packetId)
      (retryReceipt compilation bundlePath (env.clock .commitBundle) stores.files)
      env.receiptFaults stores.files :=
  ⟨fun hpublishes => not_not.1 fun hblocked => h.not_publishes hblocked hpublishes,
    fun hadmitted => h.publishes hadmitted henv.published henv.verified⟩

end RetrySetting

/-- While the row is claimed a dispatch is turned away. -/
theorem not_publishes_of_claimed (hsqlite : ∀ step, env.sqliteFault step = none)
    (hunregistered : ¬ stores.registry.Holds dispatch.idempotencyKey)
    (hclaimed : stores.leases.InState dispatch.idempotencyKey .claimed) :
    ¬ Publishes workspace dispatch env stores := by
  have hlookup : stores.registry.lookup dispatch.idempotencyKey = none := by
    cases hrow : stores.registry.lookup dispatch.idempotencyKey with
    | none => rfl
    | some row => exact absurd ⟨row, hrow⟩ hunregistered
  obtain ⟨row, hrow, hstate⟩ := id hclaimed
  let error := executionLeaseContended
    "another worker holds an active lease for this idempotency key"
  have hacquire : stores.leases.acquire dispatch.acquireRequest env.secrets none =
      (.error error, stores.leases) := by
    have hrow' : stores.leases.lookup dispatch.acquireRequest.idempotencyKey = some row := hrow
    simp only [LeaseStore.acquire, hrow', LeaseStore.resumeExisting, hstate]
    rfl
  have htrace : (soloSystem workspace dispatch env stores).IsTrace
      [(stores, .lookupRegistry), (stores, .acquire),
        (stores, .raised .acquire (.worker error))] := by
    refine ⟨rfl, .cons_cons ?_ (.cons_cons ?_ (.singleton _))⟩
    · simp [soloSystem, advance, hsqlite, PacketRegistry.getEntry, hlookup]
    · simp only [soloSystem, advance, hsqlite, hacquire]
  rintro ⟨stores', control, hreach, hpublished⟩
  have hmem := htrace.mem_of_reachable ?_ hreach
  · have hstores : stores' = stores := by
      simp only [List.mem_cons, Prod.mk.injEq, List.not_mem_nil, or_false] at hmem
      rcases hmem with ⟨rfl, -⟩ | ⟨rfl, -⟩ | ⟨rfl, -⟩ <;> rfl
    rw [hstores] at hpublished
    cases hpublished.unique hclaimed
  · intro s hs
    have hlast : s = (stores, .raised .acquire (.worker error)) := (Option.some.inj hs).symm
    rw [hlast]
    rfl

/-- An environment in which everything succeeds and the clock stands still. -/
def calmEnvironment (compilation : Compilation c) (now : Timestamp) : StageEnvironment c where
  clock _ := now
  secrets := ⟨"lease", "fence"⟩
  compilation := .ok compilation
  published := .ok { uri := "uri", bundleManifestDigest := "digest" }

theorem calmEnvironment_succeeds (compilation : Compilation c) (now : Timestamp) :
    (calmEnvironment compilation now).Succeeds compilation where
  sqlite _ := rfl
  inputs := rfl
  compilation := rfl
  receiptWrite _ := rfl
  published := ⟨_, rfl⟩
  verified := ⟨_, rfl⟩
  bundleStep _ := rfl
  bundleWrite _ := rfl
  callback := rfl

/-- A file can be the receipt of one time only. -/
theorem not_inPlace_at_some_time (hc : c.Faithful) (path : Path) (receipt : Timestamp → CommitReceipt)
    (hcreated : ∀ now, (receipt now).createdAt = now) (files : FileTree) :
    ∃ now, ¬ ReceiptInPlace c path (receipt now) files := by
  by_contra hall
  simp only [not_exists, not_not] at hall
  have hsame := (hall ⟨"earlier"⟩).symm.trans (hall ⟨"later"⟩)
  have hcontent := String.toByteArray_inj.1 (hc.artifactHash_inj.1 (Option.some.inj hsame))
  have hjson := String.append_left_inj _ |>.1 hcontent
  have htime := canonicalBytes_receipt_inj hc (congrArg String.toUTF8 hjson)
  rw [hcreated, hcreated] at htime
  exact absurd (congrArg Timestamp.isoformat htime) (by decide)

/-- A dispatch of the same inputs. -/
structure StageDispatch.Retries (retry dispatch : StageDispatch) : Prop where
  idempotencyKey : retry.idempotencyKey = dispatch.idempotencyKey
  outputUri : retry.outputUri = dispatch.outputUri

/-- The failed attempt has given its lease back and left no receipt, and the receipt of a retry is
    not too large to write. -/
structure RetryClear (workspace : Path) (dispatch : StageDispatch) (compilation : Compilation c)
    (stores : StageStores) : Prop where
  released : stores.leases.InState dispatch.idempotencyKey .failed
  noReceipt : stores.files.pathExists (receiptPath workspace compilation.packetId) = false
  fits : ∀ bundlePath uri,
    bundleOutputLocation dispatch.outputUri workspace compilation.packetId = .ok (bundlePath, uri) →
      ∀ now, ReceiptFits c (retryReceipt compilation bundlePath now stores.files)

variable {retry : StageDispatch} {step : StageStep}

/-- A released lease and a bundle in place are what a retry starts from. -/
theorem Leftover.retrySetting (hleft : Leftover workspace dispatch compilation step stores)
    (hretry : retry.Retries dispatch)
    (hfresh : ∀ row ∈ stores.leases.rows, row.dispatchNonce ≠ retry.dispatchNonce)
    (hfailed : stores.leases.InState dispatch.idempotencyKey .failed) :
    ∃ bundlePath,
      (∃ uri, bundleOutputLocation dispatch.outputUri workspace compilation.packetId =
        .ok (bundlePath, uri)) ∧
      ∀ env : StageEnvironment c, env.Prepares compilation →
        RetrySetting workspace retry compilation env stores bundlePath := by
  obtain ⟨bundlePath, uri, before, hlocation, hready, hplace⟩ := hleft.committed.bundled
  refine ⟨bundlePath, ⟨uri, hlocation⟩, fun env henv => ?_⟩
  refine ⟨henv, ?_, ⟨?_, ?_⟩, ⟨uri, ?_⟩, ⟨before, hready, hplace⟩⟩
  · rw [hretry.idempotencyKey]
    exact hleft.unregistered
  · intro row hrow
    have hkey : stores.leases.lookup dispatch.idempotencyKey = some row :=
      hretry.idempotencyKey ▸ hrow
    obtain ⟨row', hrow', hstate⟩ := hfailed
    rw [Option.some.inj (hkey.symm.trans hrow')]
    exact hstate
  · exact fun row hrow hnonce => absurd hnonce (hfresh row hrow)
  · rw [hretry.outputUri]
    exact hlocation

/-- The retry of a failed attempt whose lease is free publishes under all clocks exactly when the
    attempt left no receipt. -/
theorem Leftover.publishes_iff (hc : c.Faithful)
    (hleft : Leftover workspace dispatch compilation step stores)
    (hretry : retry.Retries dispatch)
    (hfresh : ∀ row ∈ stores.leases.rows, row.dispatchNonce ≠ retry.dispatchNonce) :
    (∀ env : StageEnvironment c, env.Succeeds compilation → Publishes workspace retry env stores) ↔
      RetryClear workspace dispatch compilation stores := by
  constructor
  · intro hall
    have hfailed : stores.leases.InState dispatch.idempotencyKey .failed := by
      rcases hleft.lease with hclaimed | hfailed
      · have henv := calmEnvironment_succeeds compilation ⟨"now"⟩
        refine absurd (hall _ henv) (not_publishes_of_claimed henv.sqlite ?_ ?_)
        · rw [hretry.idempotencyKey]
          exact hleft.unregistered
        · rw [hretry.idempotencyKey]
          exact hclaimed
      · exact hfailed
    obtain ⟨bundlePath, ⟨uri, hlocation⟩, hsetting⟩ := hleft.retrySetting hretry hfresh hfailed
    have hadmitted : ∀ now, ReceiptAdmitted c (receiptPath workspace compilation.packetId)
        (retryReceipt compilation bundlePath now stores.files) (fun _ => none) stores.files := by
      intro now
      have henv := calmEnvironment_succeeds compilation now
      exact ((hsetting _ henv.toPrepares).publishes_iff henv).1 (hall _ henv)
    refine ⟨hfailed, ?_, ?_⟩
    · -- a file at the path would have to be the receipt of every time
      obtain ⟨now, hnow⟩ := not_inPlace_at_some_time hc
        (receiptPath workspace compilation.packetId)
        (fun now => retryReceipt compilation bundlePath now stores.files) (fun _ => rfl)
        stores.files
      exact ((hadmitted now).2.resolve_left hnow).1
    · intro bundlePath' uri' hlocation' now
      rw [hlocation] at hlocation'
      cases hlocation'
      exact (hadmitted now).1
  · rintro ⟨hfailed, hnoReceipt, hfits⟩ env henv
    obtain ⟨bundlePath, ⟨uri, hlocation⟩, hsetting⟩ := hleft.retrySetting hretry hfresh hfailed
    exact ((hsetting env henv.toPrepares).publishes_iff henv).2
      ⟨hfits bundlePath uri hlocation _, Or.inr ⟨hnoReceipt, henv.receiptWrite _⟩⟩

/-- **Retry progress.** After an attempt that failed behind its bundle commit, every retry of the
    same inputs publishes exactly when the key is published already, or the attempt gave its lease
    back and left no commit receipt. Only a failure to write the receipt itself leaves none. -/
theorem retry_publishes_iff (hc : c.Faithful) {initial : StageStores} {attempt : StageEnvironment c}
    {exception : StageException} (hcompilation : attempt.compilation = .ok compilation)
    (hattempt : (soloSystem workspace dispatch attempt initial).Reachable
      (stores, .raised step exception))
    (hstep : step ∈ StageStep.beforePublished ++ StageStep.afterPublished)
    (hretry : retry.Retries dispatch)
    (hfresh : ∀ row ∈ stores.leases.rows, row.dispatchNonce ≠ retry.dispatchNonce) :
    ((∀ env : StageEnvironment c, env.Succeeds compilation →
        Publishes workspace retry env stores) ↔
      stores.leases.InState dispatch.idempotencyKey .published ∨
        RetryClear workspace dispatch compilation stores) ∧
      (RetryClear workspace dispatch compilation stores → step ∈ StageStep.beforePublished →
        step = .persistReceipt) := by
  have hinv := attemptInv_of_reachable hcompilation hattempt
  refine ⟨?_, ?_⟩
  · rcases List.mem_append.1 hstep with hbefore | hafter
    · have hleft := hinv.1 hbefore
      rw [hleft.publishes_iff hc hretry hfresh, or_iff_right]
      intro hpublished
      rcases hleft.lease with hstate | hstate
      · cases hpublished.unique hstate
      · cases hpublished.unique hstate
    · have hpublished := hinv.2 hafter
      refine iff_of_true (fun env _ => ⟨stores, .lookupRegistry, .init, ?_⟩) (Or.inl hpublished)
      rw [hretry.idempotencyKey]
      exact hpublished
  · intro hclear hbefore
    by_contra hne
    have hexists := (hinv.1 hbefore).committed.receipt hne
    rw [hclear.noReceipt] at hexists
    cases hexists

end Retry

/-! ## A publication that fails

The bundle of the dispatch is in the workspace from an earlier run, and the packet store refuses the
upload. -/

def failingBundle : Path := ["work", "bundle"]

def failingDispatch (nonce : String) : StageDispatch where
  idempotencyKey := "key"
  packetId := "packet:dispatch"
  runId := "run"
  stageId := "stage"
  dispatchNonce := nonce
  targetRevision := "git:0"
  outputUri := .file failingBundle

def failingArtifact (c : Codec) : RenderedArtifact c where
  logicalId := "topology-packet"
  destinationPath := "packet.json"
  artifactKind := .topologyPacket
  mediaType := "application/json"
  content := "{}"
  contentHash := c.artifactHash "{}".toUTF8
  contentHash_matches := rfl
  destination_normalized := ⟨"packet.json", normalizeSourcePath_name (by simp) (by simp) (by simp)
    (by simp) (by simp) (by simp)⟩

def failingCompilation (c : Codec) : Compilation c where
  packetDigest := "0"
  packetType := "l9.topology"
  packetVersion := "1.0.0"
  semanticHash := "sha256:0"
  artifactHash := "sha256:1"
  artifacts := [failingArtifact c]
  packetDigest_hex := zeroDigest_hex

def publicationFailed : StageException := .worker
  { code := "packet-publication-failed", message := "denied", retryable := true }

def failingEnvironment (c : Codec) : StageEnvironment c where
  clock _ := ⟨"2026-01-01T00:00:00Z"⟩
  secrets := ⟨"lease", "fence"⟩
  compilation := .ok (failingCompilation c)
  published := .error publicationFailed

def failingStores : StageStores where
  leases := LeaseStore.empty
  registry := Table.empty
  files := FileTree.writeFile Table.empty (failingBundle ++ ["packet.json"]) "{}".toUTF8

theorem failing_target (c : Codec) :
    resolvePath (bundleSink failingBundle).base.outputRoot (failingArtifact c).destinationPath =
      failingBundle ++ ["packet.json"] := by
  show resolvePath failingBundle "packet.json" = _
  exact resolvePath_name (by simp) (by simp) (by simp) (by simp)

/-- The dispatch finds the lease free and the bundle there. -/
theorem failing_setting (c : Codec) :
    RetrySetting ["work"] (failingDispatch "nonce-1") (failingCompilation c)
      (failingEnvironment c) failingStores failingBundle where
  prepares := ⟨fun _ => rfl, rfl, rfl⟩
  unregistered := by
    rintro ⟨row, hrow⟩
    cases hrow
  claimable := by
    refine ⟨fun row hrow => ?_, fun row hrow => ?_⟩
    · cases hrow
    · cases hrow
  location := ⟨_, rfl⟩
  bundled := by
    refine ⟨Table.empty, ?_, ?_⟩
    · refine (FileSystemOutputSink.plan_ready_iff _ _ _).2 ⟨rfl, ?_⟩
      have htarget : (bundleSink failingBundle).base.planTarget
          ({ artifact := failingArtifact c } : WriteIntent c) = _ :=
        (bundleSink failingBundle).base.planTarget_inside (failing_target c)
          (by decide : '\x00' ∉ "packet.json".toList) (List.prefix_append _ _) List.mem_cons_self
          (List.mem_singleton_self _)
      refine ((bundleSink failingBundle).base.planIntents_cons_issues _ _ _ _).2 ?_
      rw [htarget]
      exact ⟨rfl, by simp, rfl, rfl⟩
    · intro intent hintent
      rw [List.mem_singleton.1 hintent, FileSystemOutputSink.target, failing_target]
      simp only [failingStores, FileTree.readFile?_writeFile_self]
      rfl

/-- The dispatch ends in a retryable error behind the bundle commit and gives its lease back, yet
    there is a retry in which everything succeeds and that does not publish. -/
theorem failing_attempt (c : Codec) :
    ∃ stores step exception, (soloSystem ["work"] (failingDispatch "nonce-1")
        (failingEnvironment c) failingStores).Reachable (stores, .raised step exception) ∧
      step ∈ StageStep.beforePublished ∧ exception.retryable = true ∧
      (∀ row ∈ stores.leases.rows, row.dispatchNonce ≠ (failingDispatch "nonce-2").dispatchNonce) ∧
      ¬ RetryClear ["work"] (failingDispatch "nonce-1") (failingCompilation c) stores := by
  have hsetting := failing_setting c
  have hrows : ∀ row ∈ (releasedStores (failingDispatch "nonce-1") (failingEnvironment c)
      failingStores).leases.rows, row.dispatchNonce ≠ (failingDispatch "nonce-2").dispatchNonce := by
    have hleases : (releasedStores (failingDispatch "nonce-1") (failingEnvironment c)
        failingStores).leases.rows.map LeaseRow.dispatchNonce = ["nonce-1"] := rfl
    intro row hrow hnonce
    have hmem : "nonce-2" ∈ ["nonce-1"] := by
      rw [← hleases, List.mem_map]
      exact ⟨row, hrow, hnonce⟩
    exact absurd hmem (by decide)
  have hmissing : failingStores.files.pathExists
      (receiptPath ["work"] (failingCompilation c).packetId) = false := rfl
  by_cases hfits : ReceiptFits c (retryReceipt (failingCompilation c) failingBundle
      ((failingEnvironment c).clock .commitBundle) failingStores.files)
  · -- the receipt is written, the upload fails, and the receipt stays
    have hadmitted : ReceiptAdmitted c (receiptPath ["work"] (failingCompilation c).packetId)
        (retryReceipt (failingCompilation c) failingBundle
          ((failingEnvironment c).clock .commitBundle) failingStores.files)
        (failingEnvironment c).receiptFaults failingStores.files :=
      ⟨hfits, Or.inr ⟨hmissing, rfl⟩⟩
    obtain ⟨files, hreach⟩ := hsetting.raised_publish hadmitted rfl
    have hinv : AttemptInv _ _ (failingCompilation c) _ _ := attemptInv_of_reachable rfl hreach
    have hleft := hinv.1 (by decide)
    refine ⟨_, _, _, hreach, by decide, rfl, hrows, fun hclear => ?_⟩
    have hexists := hleft.committed.receipt (by decide)
    rw [hclear.noReceipt] at hexists
    cases hexists
  · -- the receipt itself is too large, for the retry as well
    obtain ⟨e, hretryable, htrace⟩ := hsetting.blocked_trace fun h => hfits h.1
    refine ⟨releasedStores (failingDispatch "nonce-1") (failingEnvironment c) failingStores,
      .persistReceipt, .worker e, htrace.reachable _ (List.mem_append_right _
        (.tail _ (.tail _ (.head _)))), by decide, hretryable, hrows, fun hclear => ?_⟩
    exact hfits (hclear.fits failingBundle _ rfl _)

/-- The upload fails, and no retry at another time gets past the receipt that was left. -/
theorem retry_blocked_by_receipt :
    ¬ ∀ (c : Codec) (workspace : Path) (dispatch retry : StageDispatch)
      (compilation : Compilation c) (attempt : StageEnvironment c) (initial stores : StageStores)
      (step : StageStep) (exception : StageException),
      c.Faithful → attempt.compilation = .ok compilation →
      (soloSystem workspace dispatch attempt initial).Reachable (stores, .raised step exception) →
      step ∈ StageStep.beforePublished → exception.retryable = true → retry.Retries dispatch →
      (∀ row ∈ stores.leases.rows, row.dispatchNonce ≠ retry.dispatchNonce) →
      ∀ env : StageEnvironment c, env.Succeeds compilation →
        Publishes workspace retry env stores := by
  intro hclaim
  obtain ⟨stores, step, exception, hreach, hstep, hretryable, hfresh, hnot⟩ :=
    failing_attempt textCodec
  have hretries : (failingDispatch "nonce-2").Retries (failingDispatch "nonce-1") := ⟨rfl, rfl⟩
  have hinv : AttemptInv _ _ (failingCompilation textCodec) _ _ :=
    attemptInv_of_reachable rfl hreach
  have hleft := hinv.1 hstep
  exact hnot ((hleft.publishes_iff textCodec_faithful hretries hfresh).1
    (hclaim textCodec _ _ _ _ _ _ _ _ _ textCodec_faithful rfl hreach hstep hretryable hretries
      hfresh))

theorem retry_after_failed_upload :
    ∃ stores step, step ∈ StageStep.beforePublished ++ StageStep.afterPublished ∧
      ((∀ env : StageEnvironment textCodec, env.Succeeds (failingCompilation textCodec) →
          Publishes ["work"] (failingDispatch "nonce-2") env stores) ↔
        stores.leases.InState "key" .published ∨
          RetryClear ["work"] (failingDispatch "nonce-1") (failingCompilation textCodec) stores) := by
  obtain ⟨stores, step, exception, hreach, hstep, -, hfresh, -⟩ :=
    failing_attempt textCodec
  refine ⟨stores, step, List.mem_append_left _ hstep, ?_⟩
  have hretries : (failingDispatch "nonce-2").Retries (failingDispatch "nonce-1") := ⟨rfl, rfl⟩
  have hcompilation : (failingEnvironment textCodec).compilation =
      .ok (failingCompilation textCodec) := rfl
  exact (retry_publishes_iff textCodec_faithful hcompilation hreach (List.mem_append_left _ hstep)
    hretries hfresh).1

end ConstellationTopology
