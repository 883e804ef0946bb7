import ConstellationTopology.Io.FileTree
import ConstellationTopology.Io.WritePlan

set_option autoImplicit false

/-! # The policy-governed filesystem sink

`FileSystemOutputSink.plan` and `commit`. Planning reads the tree and decides one action for each
intent; committing revalidates each entry against the tree as it is then and performs the writes.
Errors of the operating system are a parameter: what a write of a given path runs into. -/

namespace ConstellationTopology

/-- An `OSError` during a write. Without atomic writes the target may be left with partial bytes. -/
structure WriteFault where
  message : String
  partialContent : Option ByteArray := none

/-- Where a write fails, and with what. -/
abbrev WriteFaults := Path → Option WriteFault

/-- A sink over a directory. -/
structure FileSystemOutputSink where
  outputRoot : Path
  policy : WritePolicy

namespace FileSystemOutputSink

variable {c : Codec} (sink : FileSystemOutputSink)

/-! ## Planning -/

/-- `_resolve_destination`. `Path.resolve` raises a `ValueError` for a text with a NUL. -/
def resolveDestination (destination : String) : Except String Path :=
  let target := resolvePath sink.outputRoot destination
  if '\x00' ∈ destination.toList then .error "embedded null byte"
  else if sink.policy.enforcePathContainment ∧ ¬ sink.outputRoot <+: target then
    .error ("destination escapes output root: " ++ destination)
  else .ok target

theorem resolveDestination_eq_ok {destination : String} {path : Path} :
    sink.resolveDestination destination = .ok path ↔
      '\x00' ∉ destination.toList ∧
        (sink.policy.enforcePathContainment = true →
          sink.outputRoot <+: resolvePath sink.outputRoot destination) ∧
        resolvePath sink.outputRoot destination = path := by
  simp only [resolveDestination]
  split
  · next hnul => simp [hnul]
  · next hnul =>
      split
      · next hescapes => simp [hescapes]
      · next hstays =>
          simp only [hnul, not_false_eq_true, true_and, Except.ok.injEq]
          exact (and_iff_right fun henforce => not_not.1 fun hnot => hstays ⟨henforce, hnot⟩).symm

/-- `_allowed_root`. -/
def allowedRoot (destination : String) : Bool :=
  sink.policy.allowedOutputRoots.any fun root =>
    root = "." ∨ destination = root ∨ (root ++ "/").toList <+: destination.toList

/-- The target an intent is planned for, and the issues that need no look at the tree. -/
def planTarget (intent : WriteIntent c) : Path × List String :=
  let destination := intent.artifact.destinationPath
  let kindIssues :=
    if intent.artifact.artifactKind ∈ sink.policy.allowedArtifactKinds then []
    else ["artifact kind is not allowed: " ++ intent.artifact.artifactKind.text]
  let rootIssues :=
    if sink.allowedRoot destination then []
    else ["destination is outside allowed output roots: " ++ destination]
  match sink.resolveDestination destination with
  | .ok target => (target, kindIssues ++ rootIssues)
  | .error issue => (sink.outputRoot ++ ["__blocked__"], kindIssues ++ rootIssues ++ [issue])

/-- An issue that only a required intent raises. -/
def requiredIssue (intent : WriteIntent c) (issue : String) : List String :=
  if intent.required then [issue] else []

/-- The decision for one target: the entry and the issues it raises. -/
def planEntry (intent : WriteIntent c) (target : Path) (tree : FileTree) :
    WritePlanEntry c × List String :=
  let destination := intent.artifact.destinationPath
  let existingHash := (tree.readFile? target).map c.artifactHash
  let entry (action : WriteAction) (reason : String) : WritePlanEntry c :=
    { intent, action, existingHash, reason }
  if existingHash = some intent.artifact.contentHash then (entry .skip "content unchanged", [])
  else if ¬ tree.pathExists target then (entry .create "destination does not exist", [])
  else if existingHash = none then
    (entry .skip "destination is not a regular file",
      requiredIssue intent ("destination is not a regular file: " ++ destination))
  else if ¬ sink.policy.allowOverwrite then
    (entry .skip "overwrite prohibited",
      requiredIssue intent
        ("required output exists and overwrite is prohibited: " ++ destination))
  else if sink.policy.requireExpectedHashForReplace ∧ intent.expectedExistingHash = none then
    (entry .skip "expected existing hash required",
      requiredIssue intent ("expected existing hash is required: " ++ destination))
  else if intent.expectedExistingHash ≠ none ∧ intent.expectedExistingHash ≠ existingHash then
    (entry .skip "existing hash does not match expected hash",
      requiredIssue intent ("existing hash mismatch: " ++ destination))
  else (entry .replace "replacement authorized", [])

/-- The loop of `plan`; `seen` holds the targets of the intents before. -/
def planIntents (tree : FileTree) : List Path → List (WriteIntent c) →
    List (WritePlanEntry c) × List String
  | _, [] => ([], [])
  | seen, intent :: rest =>
      let (target, issues) := sink.planTarget intent
      let collision :=
        if target ∈ seen ∧ sink.policy.rejectCollisions then
          ["output collision: " ++ intent.artifact.destinationPath]
        else []
      let (entry, decision) := sink.planEntry intent target tree
      let (entries, later) := planIntents tree (target :: seen) rest
      (entry :: entries, issues ++ collision ++ decision ++ later)

/-- The two bounds of the policy. -/
def limitIssues (intents : List (WriteIntent c)) : List String :=
  (if intents.length > sink.policy.maximumOutputCount then ["maximum_output_count exceeded"]
    else []) ++
  (if (intents.map fun intent => intent.artifact.content.toUTF8.size).sum
      > sink.policy.maximumOutputBytes then ["maximum_output_bytes exceeded"] else [])

/-- `plan`. -/
def plan (intents : List (WriteIntent c)) (tree : FileTree) : WritePlan c :=
  let (entries, issues) := sink.planIntents tree [] intents
  makeWritePlan c entries (sortedSet (sink.limitIssues intents ++ issues))

/-! ## Committing -/

/-- `_revalidate_entry`: why the planned action is no longer safe. -/
def revalidateEntry (entry : WritePlanEntry c) (tree : FileTree) : Option String :=
  let target := resolvePath sink.outputRoot entry.intent.artifact.destinationPath
  match tree.readFile? target with
  | none =>
      if tree.pathExists target then some "destination is no longer a regular file"
      else if entry.existingHash ≠ none then some "target changed between plan and commit"
      else if entry.action = .replace then
        if entry.intent.expectedExistingHash ≠ none then
          some "existing hash no longer matches expected hash"
        else some "destination disappeared before replacement"
      else none
  | some content =>
      let current := some (c.artifactHash content)
      if current ≠ entry.existingHash then some "target changed between plan and commit"
      else if entry.action = .create then some "destination was created after planning"
      else if entry.action = .replace ∧ entry.intent.expectedExistingHash ≠ none
          ∧ entry.intent.expectedExistingHash ≠ current then
        some "existing hash no longer matches expected hash"
      else none

/-- `_atomic_write`. A fault leaves the target alone, except that a direct write may be partial. -/
def atomicWrite (target : Path) (content : ByteArray) (faults : WriteFaults) (tree : FileTree) :
    Except String Unit × FileTree :=
  match faults target with
  | none => (.ok (), tree.writeFile target content)
  | some fault =>
      match sink.policy.atomicWrites, fault.partialContent with
      | false, some bytes => (.error fault.message, tree.writeFile target bytes)
      | _, _ => (.error fault.message, tree)

/-- The result line of an entry. -/
def entryResult (entry : WritePlanEntry c) (status : ResultStatus) (message : String) :
    CommitArtifactResult where
  logicalId := entry.intent.artifact.logicalId
  destinationPath := entry.intent.artifact.destinationPath
  status := status
  contentHash := entry.intent.artifact.contentHash
  message := message

/-- The turn of `commit` for one entry. -/
def commitEntry (entry : WritePlanEntry c) (faults : WriteFaults) (tree : FileTree) :
    CommitArtifactResult × FileTree :=
  if sink.policy.mode = .dryRun then
    (entryResult entry .skipped ("dry-run: " ++ entry.action.text), tree)
  else if entry.action = .skip then (entryResult entry .skipped entry.reason, tree)
  else
    match sink.revalidateEntry entry tree with
    | some stale => (entryResult entry .failed ("stale plan: " ++ stale), tree)
    | none =>
        let target := resolvePath sink.outputRoot entry.intent.artifact.destinationPath
        match sink.atomicWrite target entry.intent.artifact.content.toUTF8 faults tree with
        | (.error message, tree') => (entryResult entry .failed message, tree')
        | (.ok (), tree') => (entryResult entry .written entry.action.text, tree')

/-- The loop of `commit`. -/
def commitEntries (faults : WriteFaults) : List (WritePlanEntry c) → FileTree →
    List CommitArtifactResult × FileTree
  | [], tree => ([], tree)
  | entry :: rest, tree =>
      let (result, tree') := sink.commitEntry entry faults tree
      let (results, tree'') := commitEntries faults rest tree'
      (result :: results, tree'')

/-- `commit` of a plan made earlier. -/
def commitPlan (plan : WritePlan c) (faults : WriteFaults) (now : Timestamp) (tree : FileTree) :
    CommitReceipt × FileTree :=
  if plan.status = .blocked then (makeCommitReceipt c plan [] true now, tree)
  else
    let (results, tree') := sink.commitEntries faults plan.entries tree
    (makeCommitReceipt c plan results false now, tree')

/-- `commit` right after planning. -/
def commit (intents : List (WriteIntent c)) (faults : WriteFaults) (now : Timestamp)
    (tree : FileTree) : CommitReceipt × FileTree :=
  sink.commitPlan (sink.plan intents tree) faults now tree

/-! ## Ready plans -/

/-- The resolved destination of an intent. -/
def target (intent : WriteIntent c) : Path :=
  resolvePath sink.outputRoot intent.artifact.destinationPath

/-- Every artifact's bytes, as far as its hash can tell, are at its destination. -/
def InPlace (intents : List (WriteIntent c)) (tree : FileTree) : Prop :=
  ∀ intent ∈ intents,
    (tree.readFile? (sink.target intent)).map c.artifactHash = some intent.artifact.contentHash

/-- A target raises no issue when the policy admits the artifact and the destination can be
    resolved. -/
theorem planTarget_issues {intent : WriteIntent c} :
    (sink.planTarget intent).2 = [] ↔
      intent.artifact.artifactKind ∈ sink.policy.allowedArtifactKinds ∧
        sink.allowedRoot intent.artifact.destinationPath = true ∧
        ∃ path, sink.resolveDestination intent.artifact.destinationPath = .ok path := by
  cases hresolve : sink.resolveDestination intent.artifact.destinationPath <;>
    simp [planTarget, hresolve]

theorem planTarget_of_ready {intent : WriteIntent c} (h : (sink.planTarget intent).2 = []) :
    (sink.planTarget intent).1 = sink.target intent := by
  obtain ⟨-, -, path, hres⟩ := sink.planTarget_issues.1 h
  simp only [planTarget, hres]
  exact (sink.resolveDestination_eq_ok.1 hres).2.2.symm

/-- A destination below the root, of an allowed kind, is planned without an issue. -/
theorem planTarget_inside {intent : WriteIntent c} {path : Path}
    (hresolve : resolvePath sink.outputRoot intent.artifact.destinationPath = path)
    (hnul : '\x00' ∉ intent.artifact.destinationPath.toList) (hinside : sink.outputRoot <+: path)
    (hkind : intent.artifact.artifactKind ∈ sink.policy.allowedArtifactKinds)
    (hroot : "." ∈ sink.policy.allowedOutputRoots) : sink.planTarget intent = (path, []) := by
  have hdestination : sink.resolveDestination intent.artifact.destinationPath = .ok path :=
    sink.resolveDestination_eq_ok.2 ⟨hnul, fun _ => hresolve ▸ hinside, hresolve⟩
  have hallowed : sink.allowedRoot intent.artifact.destinationPath = true :=
    List.any_eq_true.2 ⟨".", hroot, by simp⟩
  simp only [planTarget, hdestination, if_pos hkind, hallowed, if_true, List.append_nil]

theorem planIntents_cons_issues (tree : FileTree) (seen : List Path) (intent : WriteIntent c)
    (rest : List (WriteIntent c)) :
    (sink.planIntents tree seen (intent :: rest)).2 = [] ↔
      (sink.planTarget intent).2 = [] ∧
      ¬ ((sink.planTarget intent).1 ∈ seen ∧ sink.policy.rejectCollisions) ∧
      (sink.planEntry intent (sink.planTarget intent).1 tree).2 = [] ∧
      (sink.planIntents tree ((sink.planTarget intent).1 :: seen) rest).2 = [] := by
  simp only [planIntents, List.append_eq_nil_iff, ite_eq_right_iff, List.cons_ne_nil, imp_false,
    and_assoc]

theorem planTarget_issues_of_ready {tree : FileTree} {seen : List Path}
    {intents : List (WriteIntent c)} (h : (sink.planIntents tree seen intents).2 = []) :
    ∀ intent ∈ intents, (sink.planTarget intent).2 = [] := by
  induction intents generalizing seen with
  | nil => simp
  | cons head rest ih =>
      obtain ⟨htarget, -, -, hrest⟩ := (sink.planIntents_cons_issues tree seen head rest).1 h
      exact List.forall_mem_cons.2 ⟨htarget, ih hrest⟩

/-- Planning resolves and screens destinations alike. -/
structure SameScreen (sink' : FileSystemOutputSink) : Prop where
  planTarget : ∀ intent : WriteIntent c, sink'.planTarget intent = sink.planTarget intent
  rejectCollisions : sink'.policy.rejectCollisions = sink.policy.rejectCollisions

/-- An intent list that is planned without an issue in one tree is planned without one in every
    tree in which no single decision raises one, also by another sink with the same screen. -/
theorem planIntents_of_decisions {sink' : FileSystemOutputSink}
    (hsame : SameScreen (c := c) sink sink') {tree tree' : FileTree}
    {seen : List Path} {intents : List (WriteIntent c)}
    (h : (sink.planIntents tree seen intents).2 = [])
    (hdecide : ∀ intent ∈ intents, (sink'.planEntry intent (sink.target intent) tree').2 = []) :
    sink'.planIntents tree' seen intents =
      (intents.map fun intent => (sink'.planEntry intent (sink.target intent) tree').1, []) := by
  induction intents generalizing seen with
  | nil => rfl
  | cons intent rest ih =>
      obtain ⟨htarget, hseen, -, hrest⟩ := (sink.planIntents_cons_issues tree seen intent rest).1 h
      have hrest' := ih hrest fun i hi => hdecide i (List.mem_cons_of_mem _ hi)
      rw [sink.planTarget_of_ready htarget] at hseen hrest'
      have hown := hdecide intent List.mem_cons_self
      simp only [planIntents, hsame.planTarget, hsame.rejectCollisions,
        sink.planTarget_of_ready htarget, htarget, if_neg hseen, hrest', hown, List.map_cons,
        List.append_nil]

theorem decisions_of_ready {tree : FileTree} {seen : List Path} {intents : List (WriteIntent c)}
    (h : (sink.planIntents tree seen intents).2 = []) :
    ∀ intent ∈ intents, (sink.planEntry intent (sink.target intent) tree).2 = [] := by
  induction intents generalizing seen with
  | nil => simp
  | cons head rest ih =>
      obtain ⟨htarget, -, hown, hrest⟩ := (sink.planIntents_cons_issues tree seen head rest).1 h
      rw [sink.planTarget_of_ready htarget] at hown
      intro intent hintent
      rcases List.mem_cons.1 hintent with rfl | hintent
      · exact hown
      · exact ih hrest intent hintent

/-- The entries of a plan without issues: one decision for each intent. -/
theorem entries_of_ready {tree : FileTree} {seen : List Path} {intents : List (WriteIntent c)}
    (h : (sink.planIntents tree seen intents).2 = []) :
    (sink.planIntents tree seen intents).1 =
      intents.map fun intent => (sink.planEntry intent (sink.target intent) tree).1 := by
  have hsame : SameScreen (c := c) sink sink := ⟨fun _ => rfl, rfl⟩
  rw [sink.planIntents_of_decisions hsame h (sink.decisions_of_ready h)]

theorem targets_of_ready {tree : FileTree} {seen : List Path} {intents : List (WriteIntent c)}
    (hreject : sink.policy.rejectCollisions = true)
    (h : (sink.planIntents tree seen intents).2 = []) :
    (intents.map sink.target).Nodup ∧ ∀ intent ∈ intents, sink.target intent ∉ seen := by
  induction intents generalizing seen with
  | nil => simp
  | cons intent rest ih =>
      obtain ⟨htarget, hseen, -, hrest⟩ := (sink.planIntents_cons_issues tree seen intent rest).1 h
      rw [sink.planTarget_of_ready htarget] at hseen hrest
      obtain ⟨hnodup, hnotSeen⟩ := ih hrest
      simp only [hreject, and_true] at hseen
      refine ⟨?_, ?_⟩
      · rw [List.map_cons, List.nodup_cons]
        refine ⟨?_, hnodup⟩
        intro hin
        obtain ⟨other, hother, heq⟩ := List.mem_map.1 hin
        exact hnotSeen other hother (heq ▸ List.mem_cons_self)
      · intro i hi
        rcases List.mem_cons.1 hi with rfl | hi
        · exact hseen
        · exact fun hin => hnotSeen i hi (List.mem_cons_of_mem _ hin)

theorem planEntry_unchanged {intent : WriteIntent c} {path : Path} {tree : FileTree}
    (h : (tree.readFile? path).map c.artifactHash = some intent.artifact.contentHash) :
    sink.planEntry intent path tree =
      ({ intent, action := .skip, existingHash := some intent.artifact.contentHash,
         reason := "content unchanged" }, []) := by
  simp only [planEntry, h, if_true]

theorem planEntry_missing {intent : WriteIntent c} {path : Path} {tree : FileTree}
    (h : tree.pathExists path = false) :
    sink.planEntry intent path tree =
      ({ intent, action := .create, existingHash := none,
         reason := "destination does not exist" }, []) := by
  have hread := FileTree.readFile?_of_not_pathExists h
  simp [planEntry, hread, h]

/-- The only way a required intent is skipped without an issue: its bytes are there already. -/
theorem planEntry_skip_of_required {intent : WriteIntent c} {path : Path} {tree : FileTree}
    (hreq : intent.required = true) (hissues : (sink.planEntry intent path tree).2 = [])
    (hskip : (sink.planEntry intent path tree).1.action = .skip) :
    (tree.readFile? path).map c.artifactHash = some intent.artifact.contentHash := by
  unfold planEntry at hissues hskip
  simp only [requiredIssue, hreq, if_true] at hissues hskip
  split at hissues
  · assumption
  · next hdiff =>
      rw [if_neg hdiff] at hskip
      split at hissues
      · next h => simp [h] at hskip
      · next h =>
          rw [if_neg h] at hskip
          split at hissues
          · simp at hissues
          · next h =>
              rw [if_neg h] at hskip
              split at hissues
              · simp at hissues
              · next h =>
                  rw [if_neg h] at hskip
                  split at hissues
                  · simp at hissues
                  · next h =>
                      rw [if_neg h] at hskip
                      split at hissues
                      · simp at hissues
                      · next h => simp [h] at hskip

theorem plan_ready_iff (intents : List (WriteIntent c)) (tree : FileTree) :
    (sink.plan intents tree).status = .ready ↔
      sink.limitIssues intents = [] ∧ (sink.planIntents tree [] intents).2 = [] := by
  simp [plan, makeWritePlan]

@[simp] theorem plan_entries (intents : List (WriteIntent c)) (tree : FileTree) :
    (sink.plan intents tree).entries = (sink.planIntents tree [] intents).1 := rfl

/-! ## What a commit leaves behind -/

theorem atomicWrite_lookup {path other : Path} (h : other ≠ path) (content : ByteArray)
    (faults : WriteFaults) (tree : FileTree) :
    Table.lookup (sink.atomicWrite path content faults tree).2 other =
      Table.lookup tree other := by
  have hwrite : ∀ bytes, Table.lookup (tree.writeFile path bytes) other =
      Table.lookup tree other :=
    fun bytes => Table.lookup_upsert_ne tree (show other ≠ FileEntry.path ⟨path, .file bytes⟩ from h)
  unfold atomicWrite
  cases faults path with
  | none => exact hwrite content
  | some fault =>
      simp only
      split
      · exact hwrite _
      · rfl

theorem atomicWrite_ok {path : Path} {content : ByteArray} {faults : WriteFaults}
    {tree : FileTree} (h : (sink.atomicWrite path content faults tree).1 = .ok ()) :
    faults path = none ∧
      (sink.atomicWrite path content faults tree).2 = tree.writeFile path content := by
  unfold atomicWrite at h ⊢
  cases hf : faults path with
  | none => exact ⟨rfl, rfl⟩
  | some fault =>
      simp only [hf] at h
      split at h <;> cases h

/-- Frame: an entry changes nothing but its target. -/
theorem commitEntry_lookup {entry : WritePlanEntry c} {faults : WriteFaults} {tree : FileTree}
    {path : Path} (h : path ≠ sink.target entry.intent) :
    Table.lookup (sink.commitEntry entry faults tree).2 path = Table.lookup tree path := by
  have hwrite := sink.atomicWrite_lookup h entry.intent.artifact.content.toUTF8 faults tree
  unfold commitEntry
  split
  · rfl
  split
  · rfl
  split
  · rfl
  · unfold target at hwrite
    simp only
    split <;> next heq => rw [heq] at hwrite; exact hwrite

theorem commitEntry_frame {entry : WritePlanEntry c} {faults : WriteFaults} {tree : FileTree}
    {path : Path} (h : path ≠ sink.target entry.intent) :
    (sink.commitEntry entry faults tree).2.readFile? path = tree.readFile? path :=
  FileTree.readFile?_congr (sink.commitEntry_lookup h)

/-- A file that is still to be created: the write decides. -/
theorem commitEntry_create {entry : WritePlanEntry c} (faults : WriteFaults) {tree : FileTree}
    (hmode : sink.policy.mode = .write) (hatomic : sink.policy.atomicWrites = true)
    (haction : entry.action = .create) (hhash : entry.existingHash = none)
    (hmissing : tree.pathExists (sink.target entry.intent) = false) :
    sink.commitEntry entry faults tree =
      match faults (sink.target entry.intent) with
      | none => (entryResult entry .written "create",
          tree.writeFile (sink.target entry.intent) entry.intent.artifact.content.toUTF8)
      | some fault => (entryResult entry .failed fault.message, tree) := by
  have hwrite : sink.policy.mode ≠ .dryRun := by
    rw [hmode]
    decide
  have hread : tree.readFile? (sink.target entry.intent) = none :=
    FileTree.readFile?_of_not_pathExists hmissing
  have hvalid : sink.revalidateEntry entry tree = none := by
    simp only [target] at hread hmissing
    simp [revalidateEntry, hread, hmissing, hhash, haction]
  have hskip : entry.action ≠ .skip := by
    rw [haction]
    decide
  unfold commitEntry
  rw [if_neg hwrite, if_neg hskip, hvalid]
  simp only [atomicWrite, target, haction, WriteAction.text]
  cases faults (resolvePath sink.outputRoot entry.intent.artifact.destinationPath) with
  | none => rfl
  | some fault => simp only [hatomic]

theorem commitEntries_lookup {entries : List (WritePlanEntry c)} {faults : WriteFaults}
    {tree : FileTree} {path : Path}
    (h : ∀ entry ∈ entries, path ≠ sink.target entry.intent) :
    Table.lookup (sink.commitEntries faults entries tree).2 path = Table.lookup tree path := by
  induction entries generalizing tree with
  | nil => rfl
  | cons entry rest ih =>
      simp only [commitEntries]
      rw [ih fun e he => h e (List.mem_cons_of_mem _ he),
        sink.commitEntry_lookup (h entry List.mem_cons_self)]

theorem commitEntries_frame {entries : List (WritePlanEntry c)} {faults : WriteFaults}
    {tree : FileTree} {path : Path}
    (h : ∀ entry ∈ entries, path ≠ sink.target entry.intent) :
    (sink.commitEntries faults entries tree).2.readFile? path = tree.readFile? path :=
  FileTree.readFile?_congr (sink.commitEntries_lookup h)

/-- A mutating entry that is not reported failed has been written. -/
theorem commitEntry_written {entry : WritePlanEntry c} {faults : WriteFaults} {tree : FileTree}
    (hmode : sink.policy.mode = .write) (haction : entry.action ≠ .skip)
    (hok : (sink.commitEntry entry faults tree).1.status ≠ .failed) :
    (sink.commitEntry entry faults tree).2.readFile? (sink.target entry.intent) =
      some entry.intent.artifact.content.toUTF8 := by
  have hwrite : sink.policy.mode ≠ .dryRun := by
    rw [hmode]
    decide
  unfold commitEntry at hok ⊢
  rw [if_neg hwrite, if_neg haction] at hok ⊢
  split at hok
  · exact absurd rfl hok
  · simp only at hok ⊢
    split at hok
    · exact absurd rfl hok
    · next tree' heq =>
        have hwritten := (sink.atomicWrite_ok (congrArg Prod.fst heq)).2
        rw [heq] at hwritten
        simp only at hwritten ⊢
        rw [hwritten]
        exact FileTree.readFile?_writeFile_self tree _ _

theorem commitEntries_written {entries : List (WritePlanEntry c)} {faults : WriteFaults}
    {tree : FileTree} (hmode : sink.policy.mode = .write)
    (haction : ∀ entry ∈ entries, entry.action ≠ .skip)
    (hnodup : (entries.map fun entry => sink.target entry.intent).Nodup)
    (hok : ∀ result ∈ (sink.commitEntries faults entries tree).1, result.status ≠ .failed) :
    ∀ entry ∈ entries, (sink.commitEntries faults entries tree).2.readFile?
      (sink.target entry.intent) = some entry.intent.artifact.content.toUTF8 := by
  induction entries generalizing tree with
  | nil => simp
  | cons head rest ih =>
      rw [List.map_cons, List.nodup_cons] at hnodup
      simp only [commitEntries, List.mem_cons, forall_eq_or_imp] at hok ⊢
      refine ⟨?_, ?_⟩
      · -- no later entry has the same target
        rw [sink.commitEntries_frame ?_]
        · exact sink.commitEntry_written hmode (haction head List.mem_cons_self) hok.1
        · intro entry hentry heq
          exact hnodup.1 (List.mem_map.2 ⟨entry, hentry, heq.symm⟩)
      · exact ih (fun e he => haction e (List.mem_cons_of_mem _ he)) hnodup.2 hok.2

end FileSystemOutputSink

end ConstellationTopology
