import ConstellationTopology.Io.AtomicWrite
import ConstellationTopology.Io.WriteContainment

set_option autoImplicit false

/-! # What a commit receipt promises

`plan` and `commit` of the filesystem sink once more, with everything that may differ between the
two: the tree, and the links that decide where a destination leads. The receipt has one line for
each entry, and every line is true of the files before and after its own entry
(`commitEntryAt_honoured`). Over the whole commit, an entry that is not written leaves its file
alone, but another entry for the same file may not. -/

namespace ConstellationTopology

/-- Where the links take `(output_root / destination).resolve()`. -/
abbrev Resolution := String → Path

namespace FileSystemOutputSink

variable {c : Codec} (sink : FileSystemOutputSink)

/-! ## Planning among links -/

/-- `_resolve_destination`. -/
def resolveDestinationAt (resolve : Resolution) (destination : String) : Except String Path :=
  if '\x00' ∈ destination.toList then .error "embedded null byte"
  else if sink.policy.enforcePathContainment ∧ ¬ sink.outputRoot <+: resolve destination then
    .error ("destination escapes output root: " ++ destination)
  else .ok (resolve destination)

/-- The target an intent is planned for, and the issues that need no look at the tree. -/
def planTargetAt (resolve : Resolution) (intent : WriteIntent c) : Path × List String :=
  let destination := intent.artifact.destinationPath
  let kindIssues :=
    if intent.artifact.artifactKind ∈ sink.policy.allowedArtifactKinds then []
    else ["artifact kind is not allowed: " ++ intent.artifact.artifactKind.text]
  let rootIssues :=
    if sink.allowedRoot destination then []
    else ["destination is outside allowed output roots: " ++ destination]
  match sink.resolveDestinationAt resolve destination with
  | .ok target => (target, kindIssues ++ rootIssues)
  | .error issue => (sink.outputRoot ++ ["__blocked__"], kindIssues ++ rootIssues ++ [issue])

/-- The loop of `plan`; `seen` holds the targets of the intents before. -/
def planIntentsAt (resolve : Resolution) (tree : FileTree) : List Path → List (WriteIntent c) →
    List (WritePlanEntry c) × List String
  | _, [] => ([], [])
  | seen, intent :: rest =>
      let (target, issues) := sink.planTargetAt resolve intent
      let collision :=
        if target ∈ seen ∧ sink.policy.rejectCollisions then
          ["output collision: " ++ intent.artifact.destinationPath]
        else []
      let (entry, decision) := sink.planEntry intent target tree
      let (entries, later) := planIntentsAt resolve tree (target :: seen) rest
      (entry :: entries, issues ++ collision ++ decision ++ later)

/-- `plan`. -/
def planAt (resolve : Resolution) (intents : List (WriteIntent c)) (tree : FileTree) :
    WritePlan c :=
  let (entries, issues) := sink.planIntentsAt resolve tree [] intents
  makeWritePlan c entries (sortedSet (sink.limitIssues intents ++ issues))

/-- Without links, this is how the sink plans. -/
theorem planAt_resolvePath (intents : List (WriteIntent c)) (tree : FileTree) :
    sink.planAt (resolvePath sink.outputRoot) intents tree = sink.plan intents tree := by
  have hloop : ∀ seen, sink.planIntentsAt (resolvePath sink.outputRoot) tree seen intents =
      sink.planIntents tree seen intents := by
    induction intents with
    | nil => exact fun _ => rfl
    | cons intent rest ih =>
        intro seen
        simp only [planIntentsAt, planIntents, ih]
        rfl
  simp only [planAt, plan, hloop]

/-! ## Committing among links -/

/-- `_revalidate_entry`, once the destination is resolved. -/
def revalidateEntryAt (entry : WritePlanEntry c) (target : Path) (tree : FileTree) :
    Option String :=
  match tree.readFile? target with
  | none =>
      if tree.pathExists target then some "destination is no longer a regular file"
      else if entry.existingHash ≠ none then some "target changed between plan and commit"
      else if entry.action = .replace then
        if entry.intent.expectedExistingHash ≠ none then
          some "existing hash no longer matches expected hash"
        else some "destination disappeared before replacement"
      else none
  | some content =>
      let current := some (c.artifactHash content)
      if current ≠ entry.existingHash then some "target changed between plan and commit"
      else if entry.action = .create then some "destination was created after planning"
      else if entry.action = .replace ∧ entry.intent.expectedExistingHash ≠ none
          ∧ entry.intent.expectedExistingHash ≠ current then
        some "existing hash no longer matches expected hash"
      else none

/-- Without links, this is how the sink revalidates. -/
theorem revalidateEntryAt_target (entry : WritePlanEntry c) (tree : FileTree) :
    revalidateEntryAt entry (sink.target entry.intent) tree = sink.revalidateEntry entry tree :=
  rfl

/-- One turn of the loop of `commit`. A destination that escapes now, or a target that cannot be
    read, raises out of it. -/
def commitEntryAt (resolve : Resolution) (entry : WritePlanEntry c) (faults : EntryFaults)
    (tree : FileTree) : Except String (CommitArtifactResult × FileTree) :=
  if sink.policy.mode = .dryRun then
    .ok (entryResult entry .skipped ("dry-run: " ++ entry.action.text), tree)
  else if entry.action = .skip then .ok (entryResult entry .skipped entry.reason, tree)
  else
    match sink.resolveDestinationAt resolve entry.intent.artifact.destinationPath,
      faults.reading with
    | .error exc, _ => .error exc
    | .ok _, some exc => .error exc
    | .ok target, none =>
        match revalidateEntryAt entry target tree with
        | some stale => .ok (entryResult entry .failed ("stale plan: " ++ stale), tree)
        | none =>
            match sink.atomicWriteCalls target entry.intent.artifact.content.toUTF8
              (entry.action = .create) faults tree with
            | (.error message, tree') => .ok (entryResult entry .failed message, tree')
            | (.ok (), tree') => .ok (entryResult entry .written entry.action.text, tree')

/-- The loop of `commit`. -/
def commitEntriesAt (resolve : Resolution) (faults : ℕ → EntryFaults) :
    ℕ → List (WritePlanEntry c) → FileTree →
      Except String (List CommitArtifactResult × FileTree)
  | _, [], tree => .ok ([], tree)
  | position, entry :: rest, tree =>
      match sink.commitEntryAt resolve entry (faults position) tree with
      | .error exc => .error exc
      | .ok (result, tree') =>
          match commitEntriesAt resolve faults (position + 1) rest tree' with
          | .error exc => .error exc
          | .ok (results, tree'') => .ok (result :: results, tree'')

/-- `commit` of a plan made earlier. -/
def commitAt (resolve : Resolution) (faults : ℕ → EntryFaults) (now : Timestamp)
    (plan : WritePlan c) (tree : FileTree) : Except String (CommitReceipt × FileTree) :=
  if plan.status = .blocked then .ok (makeCommitReceipt c plan [] true now, tree)
  else
    match sink.commitEntriesAt resolve faults 0 plan.entries tree with
    | .error exc => .error exc
    | .ok (results, tree') => .ok (makeCommitReceipt c plan results false now, tree')

/-! ## One entry -/

/-- The line of an entry is true of the files before and after it. -/
structure EntryHonoured (target : Path) (entry : WritePlanEntry c) (result : CommitArtifactResult)
    (before after : FileTree) : Prop where
  mutating : result.status = .written → entry.action ≠ .skip
  planned : result.status = .written →
    (before.readFile? target).map c.artifactHash = entry.existingHash
  absent : result.status = .written → entry.action = .create → before.pathExists target = false
  bytes : result.status = .written →
    after.readFile? target = some entry.intent.artifact.content.toUTF8
  others : ∀ path, path ≠ target ∨ result.status ≠ .written →
    after.readFile? path = before.readFile? path

/-- An entry that is not written changes no file. -/
theorem EntryHonoured.of_unwritten {target : Path} {entry : WritePlanEntry c}
    {result : CommitArtifactResult} {before after : FileTree} (hstatus : result.status ≠ .written)
    (hfiles : ∀ path, after.readFile? path = before.readFile? path) :
    EntryHonoured target entry result before after :=
  ⟨fun h => absurd h hstatus, fun h => absurd h hstatus, fun h => absurd h hstatus,
    fun h => absurd h hstatus, fun path _ => hfiles path⟩

/-- What a revalidation that finds nothing stale has seen. -/
theorem revalidateEntryAt_none {entry : WritePlanEntry c} {target : Path} {tree : FileTree}
    (h : revalidateEntryAt entry target tree = none) :
    (tree.readFile? target).map c.artifactHash = entry.existingHash ∧
      (entry.action = .create → tree.pathExists target = false) := by
  unfold revalidateEntryAt at h
  cases hread : tree.readFile? target with
  | none =>
      simp only [hread] at h
      split at h
      · cases h
      · next hmissing =>
          split at h
          · cases h
          · next hhash =>
              rw [not_not] at hhash
              exact ⟨by rw [hhash, Option.map_none], fun _ => by simpa using hmissing⟩
  | some content =>
      simp only [hread] at h
      split at h
      · cases h
      · next hhash =>
          split at h
          · cases h
          · next hcreate =>
              rw [not_not] at hhash
              exact ⟨hhash, fun haction => absurd haction hcreate⟩

theorem resolveDestinationAt_ok {resolve : Resolution} {destination : String} {target : Path}
    (h : sink.resolveDestinationAt resolve destination = .ok target) :
    resolve destination = target := by
  unfold resolveDestinationAt at h
  split at h
  · cases h
  · split at h
    · cases h
    · exact Except.ok.inj h

/-- The file an entry is about, when it is committed. -/
def targetAt (resolve : Resolution) (entry : WritePlanEntry c) : Path :=
  resolve entry.intent.artifact.destinationPath

/-- **Every line is true of its own entry.** -/
theorem commitEntryAt_honoured (hatomic : sink.policy.atomicWrites = true)
    {resolve : Resolution} {entry : WritePlanEntry c} {result : CommitArtifactResult}
    {faults : EntryFaults} (hcleanup : faults.cleanup = false) {before after : FileTree}
    (h : sink.commitEntryAt resolve entry faults before = .ok (result, after)) :
    EntryHonoured (targetAt resolve entry) entry result before after := by
  unfold commitEntryAt at h
  split at h
  · cases h
    exact .of_unwritten (by simp [entryResult]) fun _ => rfl
  split at h
  · cases h
    exact .of_unwritten (by simp [entryResult]) fun _ => rfl
  · next haction =>
      split at h
      · cases h
      · cases h
      · next target hresolve hreading =>
          have htarget : targetAt resolve entry = target := sink.resolveDestinationAt_ok hresolve
          rw [htarget]
          split at h
          · cases h
            exact .of_unwritten (by simp [entryResult]) fun _ => rfl
          · next hvalid =>
              obtain ⟨hplanned, habsent⟩ := revalidateEntryAt_none hvalid
              have hwrite : WriteOutcome target entry.intent.artifact.content.toUTF8
                  (sink.atomicWriteCalls target entry.intent.artifact.content.toUTF8
                    (entry.action = .create) faults before).1 before
                  (sink.atomicWriteCalls target entry.intent.artifact.content.toUTF8
                    (entry.action = .create) faults before).2 :=
                sink.atomicWriteCalls_files hatomic hcleanup
              split at h
              · next message tree' heq =>
                  rw [heq] at hwrite
                  cases h
                  exact .of_unwritten (by simp [entryResult])
                    fun path => hwrite.others path (Or.inr (by simp))
              · next tree' heq =>
                  rw [heq] at hwrite
                  cases h
                  refine ⟨fun _ => haction, fun _ => hplanned, fun _ => habsent,
                    fun _ => hwrite.bytes rfl, fun path hpath => ?_⟩
                  exact hwrite.others path (hpath.imp_right fun hstatus => absurd rfl hstatus)

/-! ## The run -/

theorem commitEntriesAt_cons {resolve : Resolution} {faults : ℕ → EntryFaults} {position : ℕ}
    {entry : WritePlanEntry c} {rest : List (WritePlanEntry c)}
    {results : List CommitArtifactResult} {tree final : FileTree}
    (h : sink.commitEntriesAt resolve faults position (entry :: rest) tree =
      .ok (results, final)) :
    ∃ result others between,
      sink.commitEntryAt resolve entry (faults position) tree = .ok (result, between) ∧
      sink.commitEntriesAt resolve faults (position + 1) rest between = .ok (others, final) ∧
      results = result :: others := by
  unfold commitEntriesAt at h
  split at h
  · cases h
  · next result between hentry =>
      split at h
      · cases h
      · next others final' hrest =>
          cases h
          exact ⟨result, others, between, hentry, hrest, rfl⟩

theorem length_commitEntriesAt {resolve : Resolution} {faults : ℕ → EntryFaults} {position : ℕ}
    {entries : List (WritePlanEntry c)} {results : List CommitArtifactResult}
    {tree final : FileTree}
    (h : sink.commitEntriesAt resolve faults position entries tree = .ok (results, final)) :
    results.length = entries.length := by
  induction entries generalizing position results tree with
  | nil =>
      cases h
      rfl
  | cons entry rest ih =>
      obtain ⟨result, others, between, -, hrest, rfl⟩ := sink.commitEntriesAt_cons h
      rw [List.length_cons, List.length_cons, ih hrest]

/-- A line of the receipt cuts the commit into what came before, its own entry, and the rest. -/
theorem commitEntriesAt_split {resolve : Resolution} {faults : ℕ → EntryFaults} {position : ℕ}
    {entries : List (WritePlanEntry c)} {results : List CommitArtifactResult}
    {tree final : FileTree}
    (h : sink.commitEntriesAt resolve faults position entries tree = .ok (results, final))
    {front back : List (WritePlanEntry c × CommitArtifactResult)} {entry : WritePlanEntry c}
    {result : CommitArtifactResult}
    (hsplit : entries.zip results = front ++ (entry, result) :: back) :
    ∃ before after,
      sink.commitEntriesAt resolve faults position (front.map Prod.fst) tree =
        .ok (front.map Prod.snd, before) ∧
      sink.commitEntryAt resolve entry (faults (position + front.length)) before =
        .ok (result, after) ∧
      sink.commitEntriesAt resolve faults (position + front.length + 1) (back.map Prod.fst) after =
        .ok (back.map Prod.snd, final) := by
  induction entries generalizing position results tree front with
  | nil => simp at hsplit
  | cons head rest ih =>
      obtain ⟨first, others, between, hhead, hrest, rfl⟩ := sink.commitEntriesAt_cons h
      have hlength := sink.length_commitEntriesAt hrest
      rw [List.zip_cons_cons] at hsplit
      cases front with
      | nil =>
          rw [List.nil_append, List.cons.injEq, Prod.mk.injEq] at hsplit
          obtain ⟨⟨rfl, rfl⟩, hback⟩ := hsplit
          have hfst : (rest.zip others).map Prod.fst = rest := List.map_fst_zip hlength.ge
          have hsnd : (rest.zip others).map Prod.snd = others := List.map_snd_zip hlength.le
          rw [hback] at hfst hsnd
          exact ⟨tree, between, rfl, hhead, by rw [hfst, hsnd]; exact hrest⟩
      | cons line front =>
          rw [List.cons_append, List.cons.injEq] at hsplit
          obtain ⟨rfl, hsplit⟩ := hsplit
          obtain ⟨before, after, hfront, hentry, hback⟩ := ih hrest hsplit
          refine ⟨before, after, ?_, ?_, ?_⟩
          · simp only [List.map_cons, commitEntriesAt, hhead, hfront]
          · rw [List.length_cons, ← Nat.add_assoc, Nat.add_right_comm]
            exact hentry
          · rw [List.length_cons, ← Nat.add_assoc, Nat.add_right_comm position]
            exact hback

/-- Some of these lines reports a write of the path. -/
def WritesTo (resolve : Resolution) (lines : List (WritePlanEntry c × CommitArtifactResult))
    (path : Path) : Prop :=
  ∃ line ∈ lines, line.2.status = .written ∧ targetAt resolve line.1 = path

/-- Frame: a file that no line reports written is as it was. -/
theorem commitEntriesAt_frame (hatomic : sink.policy.atomicWrites = true)
    {resolve : Resolution} {faults : ℕ → EntryFaults}
    (hcleanup : ∀ position, (faults position).cleanup = false) {position : ℕ}
    {entries : List (WritePlanEntry c)} {results : List CommitArtifactResult}
    {tree final : FileTree} {path : Path}
    (h : sink.commitEntriesAt resolve faults position entries tree = .ok (results, final))
    (hpath : ¬ WritesTo resolve (entries.zip results) path) :
    final.readFile? path = tree.readFile? path := by
  induction entries generalizing position results tree with
  | nil =>
      cases h
      rfl
  | cons entry rest ih =>
      obtain ⟨result, others, between, hentry, hrest, rfl⟩ := sink.commitEntriesAt_cons h
      have hhonoured := sink.commitEntryAt_honoured hatomic (hcleanup position) hentry
      rw [List.zip_cons_cons] at hpath
      rw [ih hrest ?_]
      · refine hhonoured.others path ?_
        by_contra hwritten
        rw [not_or, not_not, not_not] at hwritten
        exact hpath ⟨_, List.mem_cons_self, hwritten.2, hwritten.1.symm⟩
      · rintro ⟨line, hline, hwritten⟩
        exact hpath ⟨line, List.mem_cons_of_mem _ hline, hwritten⟩

/-- The lines of a part of the commit are the ones it was cut into. -/
theorem zip_map_lines (lines : List (WritePlanEntry c × CommitArtifactResult)) :
    (lines.map Prod.fst).zip (lines.map Prod.snd) = lines :=
  (List.zip_of_prod rfl rfl).symm

/-! ## Entries for one file -/

/-- What planning records of an entry: the hash of what is at its target, which for a mutating
    entry is not the hash of its content. -/
structure Recorded (resolve : Resolution) (tree : FileTree) (entry : WritePlanEntry c) : Prop where
  existing : entry.existingHash =
    (tree.readFile? (targetAt resolve entry)).map c.artifactHash
  differs : entry.action ≠ .skip → entry.existingHash ≠ some entry.intent.artifact.contentHash

theorem planEntry_recorded (intent : WriteIntent c) (target : Path) (tree : FileTree) :
    (sink.planEntry intent target tree).1.intent = intent ∧
      (sink.planEntry intent target tree).1.existingHash =
        (tree.readFile? target).map c.artifactHash ∧
      ((sink.planEntry intent target tree).1.action ≠ .skip →
        (sink.planEntry intent target tree).1.existingHash ≠
          some intent.artifact.contentHash) := by
  by_cases hsame : (tree.readFile? target).map c.artifactHash = some intent.artifact.contentHash
  · rw [sink.planEntry_unchanged hsame]
    exact ⟨rfl, hsame.symm, fun h => absurd rfl h⟩
  · have hintent : (sink.planEntry intent target tree).1.intent = intent := by
      unfold planEntry
      simp only
      split_ifs <;> rfl
    have hexisting : (sink.planEntry intent target tree).1.existingHash =
        (tree.readFile? target).map c.artifactHash := by
      unfold planEntry
      simp only
      split_ifs <;> rfl
    exact ⟨hintent, hexisting, fun _ => hexisting ▸ hsame⟩

/-- In a plan without issues every entry is planned for where its destination leads. -/
theorem planIntentsAt_recorded {resolve : Resolution} {tree : FileTree} {seen : List Path}
    {intents : List (WriteIntent c)} (h : (sink.planIntentsAt resolve tree seen intents).2 = []) :
    ∀ entry ∈ (sink.planIntentsAt resolve tree seen intents).1, Recorded resolve tree entry := by
  induction intents generalizing seen with
  | nil => simp [planIntentsAt]
  | cons intent rest ih =>
      simp only [planIntentsAt, List.append_eq_nil_iff] at h ⊢
      obtain ⟨⟨⟨htarget, -⟩, -⟩, hrest⟩ := h
      intro entry hentry
      rcases List.mem_cons.1 hentry with rfl | hentry
      · have hresolved : (sink.planTargetAt resolve intent).1 =
            resolve intent.artifact.destinationPath := by
          cases hresolve : sink.resolveDestinationAt resolve intent.artifact.destinationPath with
          | error issue => simp [planTargetAt, hresolve] at htarget
          | ok path =>
              simp only [planTargetAt, hresolve]
              exact (sink.resolveDestinationAt_ok hresolve).symm
        rw [hresolved]
        obtain ⟨hintent, hexisting, hdiffers⟩ :=
          sink.planEntry_recorded intent (resolve intent.artifact.destinationPath) tree
        refine ⟨?_, ?_⟩
        · rw [targetAt, hintent]
          exact hexisting
        · rw [hintent]
          exact hdiffers
      · exact ih hrest entry hentry

theorem planAt_ready_iff (resolve : Resolution) (intents : List (WriteIntent c))
    (tree : FileTree) :
    (sink.planAt resolve intents tree).status = .ready ↔
      sink.limitIssues intents = [] ∧ (sink.planIntentsAt resolve tree [] intents).2 = [] := by
  simp [planAt, makeWritePlan]

/-- A file that is no longer what all its entries were planned for is not written any more. -/
theorem not_writesTo_of_changed (hatomic : sink.policy.atomicWrites = true)
    {resolve : Resolution} {faults : ℕ → EntryFaults}
    (hcleanup : ∀ position, (faults position).cleanup = false) {position : ℕ}
    {entries : List (WritePlanEntry c)} {results : List CommitArtifactResult}
    {tree final : FileTree} {path : Path} {recorded : Option String}
    (hrecorded : ∀ entry ∈ entries, targetAt resolve entry = path →
      entry.existingHash = recorded)
    (hchanged : (tree.readFile? path).map c.artifactHash ≠ recorded)
    (h : sink.commitEntriesAt resolve faults position entries tree = .ok (results, final)) :
    ¬ WritesTo resolve (entries.zip results) path := by
  induction entries generalizing position results tree with
  | nil => simp [WritesTo]
  | cons entry rest ih =>
      obtain ⟨result, others, between, hentry, hrest, rfl⟩ := sink.commitEntriesAt_cons h
      have hhonoured := sink.commitEntryAt_honoured hatomic (hcleanup position) hentry
      -- an entry for this file finds its plan stale, the others do not touch it
      have hstale : ¬ (result.status = .written ∧ targetAt resolve entry = path) := by
        rintro ⟨hwritten, htarget⟩
        refine hchanged ?_
        rw [← htarget, hhonoured.planned hwritten,
          hrecorded entry List.mem_cons_self htarget]
      have hbetween : between.readFile? path = tree.readFile? path := by
        refine hhonoured.others path ?_
        by_contra hwritten
        rw [not_or, not_not, not_not] at hwritten
        exact hstale ⟨hwritten.2, hwritten.1.symm⟩
      have hlater := ih (fun other hother => hrecorded other (List.mem_cons_of_mem _ hother))
        (hbetween ▸ hchanged) hrest
      rintro ⟨line, hline, hwritten⟩
      rw [List.zip_cons_cons] at hline
      rcases List.mem_cons.1 hline with rfl | hline
      · exact hstale hwritten
      · exact hlater ⟨line, hline, hwritten⟩

/-! ## The whole receipt -/

/-- What a receipt says of the tree the commit found and the tree it left. -/
structure HonouredReceipt (resolve resolve' : Resolution) (faults : ℕ → EntryFaults)
    (plan : WritePlan c) (receipt : CommitReceipt) (tree final : FileTree) : Prop where
  /-- A blocked plan or a dry run changes nothing. -/
  unchanged : plan.status = .blocked ∨ sink.policy.mode = .dryRun → final = tree
  /-- Otherwise there is one line for each entry. -/
  reported : plan.status = .ready → receipt.results.length = plan.entries.length
  /-- Each line is true of the tree its entry found and the tree it left. -/
  line : ∀ front entry result back,
    plan.entries.zip receipt.results = front ++ (entry, result) :: back →
    ∃ before after,
      sink.commitEntriesAt resolve' faults 0 (front.map Prod.fst) tree =
        .ok (front.map Prod.snd, before) ∧
      sink.commitEntryAt resolve' entry (faults front.length) before = .ok (result, after) ∧
      EntryHonoured (targetAt resolve' entry) entry result before after
  /-- The bytes that are written stay, unless a later entry writes the same file. -/
  kept : ∀ front entry result back,
    plan.entries.zip receipt.results = front ++ (entry, result) :: back →
    result.status = .written → ¬ WritesTo resolve' back (targetAt resolve' entry) →
    final.readFile? (targetAt resolve' entry) = some entry.intent.artifact.content.toUTF8
  /-- None does, where the destinations lead to where they led when they were planned. -/
  once : (∀ entry ∈ plan.entries, targetAt resolve' entry = targetAt resolve entry) →
    ∀ front entry result back,
      plan.entries.zip receipt.results = front ++ (entry, result) :: back →
      result.status = .written → ¬ WritesTo resolve' back (targetAt resolve' entry)
  /-- A file that no line reports written is as it was. -/
  others : ∀ path, ¬ WritesTo resolve' (plan.entries.zip receipt.results) path →
    final.readFile? path = tree.readFile? path
  failed : receipt.status = .failed ↔ ∃ result ∈ receipt.results, result.status = .failed

theorem commitEntriesAt_dryRun (hmode : sink.policy.mode = .dryRun) {resolve : Resolution}
    {faults : ℕ → EntryFaults} {position : ℕ} {entries : List (WritePlanEntry c)}
    {results : List CommitArtifactResult} {tree final : FileTree}
    (h : sink.commitEntriesAt resolve faults position entries tree = .ok (results, final)) :
    final = tree := by
  induction entries generalizing position results tree with
  | nil =>
      cases h
      rfl
  | cons entry rest ih =>
      obtain ⟨result, others, between, hentry, hrest, rfl⟩ := sink.commitEntriesAt_cons h
      unfold commitEntryAt at hentry
      rw [if_pos hmode] at hentry
      cases hentry
      exact ih hrest

/-- A blocked plan is reported without lines. -/
theorem honoured_of_blocked {resolve resolve' : Resolution} {faults : ℕ → EntryFaults}
    {plan : WritePlan c} (hblocked : plan.status = .blocked) (now : Timestamp)
    (tree : FileTree) :
    sink.HonouredReceipt resolve resolve' faults plan (makeCommitReceipt c plan [] true now)
      tree tree := by
  have hlines : (makeCommitReceipt c plan [] true now).results = [] := rfl
  have hnone : ∀ front entry result back,
      plan.entries.zip (makeCommitReceipt c plan [] true now).results ≠
        front ++ (entry, result) :: back := by
    intro front entry result back
    rw [hlines, List.zip_nil_right]
    simp
  exact
    { unchanged := fun _ => rfl
      reported := fun hready => by simp [hblocked] at hready
      line := fun front entry result back h => absurd h (hnone front entry result back)
      kept := fun front entry result back h => absurd h (hnone front entry result back)
      once := fun _ front entry result back h => absurd h (hnone front entry result back)
      others := fun _ _ => rfl
      failed := by simp [hlines, commitStatus] }

/-- The receipt of a run over entries that were planned for their targets. -/
theorem honoured_of_run (hatomic : sink.policy.atomicWrites = true)
    {resolve resolve' : Resolution} {faults : ℕ → EntryFaults}
    (hcleanup : ∀ position, (faults position).cleanup = false) {plan : WritePlan c}
    (hready : plan.status = .ready) {planned tree final : FileTree}
    (hrecorded : ∀ entry ∈ plan.entries, Recorded resolve planned entry)
    {results : List CommitArtifactResult}
    (h : sink.commitEntriesAt resolve' faults 0 plan.entries tree = .ok (results, final))
    (now : Timestamp) :
    sink.HonouredReceipt resolve resolve' faults plan (makeCommitReceipt c plan results false now)
      tree final := by
  have hlines : (makeCommitReceipt c plan results false now).results = results := rfl
  -- the run after a line, which the facts about later writes are about
  have hsplit : ∀ front entry result back,
      plan.entries.zip results = front ++ (entry, result) :: back → ∃ before after,
        sink.commitEntriesAt resolve' faults 0 (front.map Prod.fst) tree =
          .ok (front.map Prod.snd, before) ∧
        sink.commitEntryAt resolve' entry (faults front.length) before = .ok (result, after) ∧
        EntryHonoured (targetAt resolve' entry) entry result before after ∧
        sink.commitEntriesAt resolve' faults (front.length + 1) (back.map Prod.fst) after =
          .ok (back.map Prod.snd, final) := by
    intro front entry result back hzip
    obtain ⟨before, after, hfront, hentry, hback⟩ := sink.commitEntriesAt_split h hzip
    rw [Nat.zero_add] at hentry hback
    exact ⟨before, after, hfront, hentry,
      sink.commitEntryAt_honoured hatomic (hcleanup _) hentry, hback⟩
  constructor
  case unchanged =>
    intro hor
    rcases hor with hblocked | hmode
    · simp [hready] at hblocked
    · exact sink.commitEntriesAt_dryRun hmode h
  case reported => exact fun _ => sink.length_commitEntriesAt h
  case line =>
    rw [hlines]
    intro front entry result back hzip
    obtain ⟨before, after, hfront, hentry, hhonoured, -⟩ := hsplit front entry result back hzip
    exact ⟨before, after, hfront, hentry, hhonoured⟩
  case kept =>
    rw [hlines]
    intro front entry result back hzip hwritten hlater
    obtain ⟨before, after, -, -, hhonoured, hback⟩ := hsplit front entry result back hzip
    rw [sink.commitEntriesAt_frame hatomic hcleanup hback (by rwa [zip_map_lines])]
    exact hhonoured.bytes hwritten
  case once =>
    rw [hlines]
    intro hsame front entry result back hzip hwritten
    obtain ⟨before, after, -, -, hhonoured, hback⟩ := hsplit front entry result back hzip
    have hin : ∀ line ∈ (entry, result) :: back, line.1 ∈ plan.entries := by
      intro line hline
      have hmem : line ∈ plan.entries.zip results := by
        rw [hzip]
        exact List.mem_append_right _ hline
      exact (List.of_mem_zip hmem).1
    have hentry := hrecorded entry (hin _ List.mem_cons_self)
    -- the bytes of this entry are not what the file held when it was planned
    have hchanged : (after.readFile? (targetAt resolve' entry)).map c.artifactHash ≠
        (planned.readFile? (targetAt resolve' entry)).map c.artifactHash := by
      rw [hhonoured.bytes hwritten, Option.map_some,
        ← entry.intent.artifact.contentHash_matches, hsame entry (hin _ List.mem_cons_self),
        ← hentry.existing]
      exact (hentry.differs (hhonoured.mutating hwritten)).symm
    have hlater := sink.not_writesTo_of_changed hatomic hcleanup ?_ hchanged hback
    · rwa [zip_map_lines] at hlater
    · intro other hother htarget
      obtain ⟨line, hline, rfl⟩ := List.mem_map.1 hother
      have hmem := hin line (List.mem_cons_of_mem _ hline)
      rw [(hrecorded _ hmem).existing, ← hsame _ hmem, htarget]
  case others =>
    rw [hlines]
    exact fun path hpath => sink.commitEntriesAt_frame hatomic hcleanup h hpath
  case failed =>
    rw [makeCommitReceipt_status, commitStatus_eq_failed_iff, hlines]
    simp [hready]

/-- **The receipt of a commit is honoured**, whatever the tree and its links have become since
    the plan, and whichever calls of the commit fail. -/
theorem commitAt_honoured (hatomic : sink.policy.atomicWrites = true)
    {resolve resolve' : Resolution} {faults : ℕ → EntryFaults}
    (hcleanup : ∀ position, (faults position).cleanup = false) {now : Timestamp}
    {intents : List (WriteIntent c)} {planned tree final : FileTree} {receipt : CommitReceipt}
    (h : sink.commitAt resolve' faults now (sink.planAt resolve intents planned) tree =
      .ok (receipt, final)) :
    sink.HonouredReceipt resolve resolve' faults (sink.planAt resolve intents planned) receipt
      tree final := by
  unfold commitAt at h
  split at h
  · next hblocked =>
      cases h
      exact sink.honoured_of_blocked hblocked now tree
  · next hblocked =>
      have hready : (sink.planAt resolve intents planned).status = .ready := by
        cases hstatus : (sink.planAt resolve intents planned).status with
        | ready => rfl
        | blocked => exact absurd hstatus hblocked
      split at h
      · cases h
      · next results tree' hrun =>
          cases h
          have hissues := ((sink.planAt_ready_iff resolve intents planned).1 hready).2
          exact sink.honoured_of_run hatomic hcleanup hready
            (sink.planIntentsAt_recorded hissues) hrun now

/-! ## Two entries for one file -/

/-- The report sink, which lets two intents share a destination. -/
def sharedSink : FileSystemOutputSink :=
  { reportSink with policy := { reportSink.policy with rejectCollisions := false } }

/-- One report, twice. -/
def sharedIntents : List (WriteIntent textCodec) :=
  [reportIntent textCodec "reports/summary.md" summary_normalized,
    reportIntent textCodec "reports/summary.md" summary_normalized]

def sharedPlan : WritePlan textCodec :=
  sharedSink.planAt (resolvePath ["out"]) sharedIntents Table.empty

def sharedCommit : Except String (CommitReceipt × FileTree) :=
  sharedSink.commitAt (resolvePath ["out"]) (fun _ => {}) ⟨"2026-01-01T00:00:00+00:00"⟩ sharedPlan
    Table.empty

/-- The first entry is written. The second one finds the file there and is reported failed. -/
theorem sharedCommit_lines :
    (sharedCommit.toOption.map fun run =>
      ((sharedPlan.entries.zip run.1.results).map fun line =>
          (targetAt (resolvePath ["out"]) line.1, line.2.status),
        (run.2.readFile? ["out", "reports", "summary.md"]).isSome)) =
      some ([(["out", "reports", "summary.md"], .written),
        (["out", "reports", "summary.md"], .failed)], true) := by
  decide +kernel

theorem sharedCommit_returns : ∃ receipt final, sharedCommit = .ok (receipt, final) := by
  have hlines := sharedCommit_lines
  cases hrun : sharedCommit with
  | error exc => simp [hrun, Except.toOption] at hlines
  | ok run => exact ⟨run.1, run.2, rfl⟩

theorem commitAt_honoured_shared : ∃ receipt final,
    sharedCommit = .ok (receipt, final) ∧
      sharedSink.HonouredReceipt (resolvePath ["out"]) (resolvePath ["out"]) (fun _ => {})
        sharedPlan receipt Table.empty final := by
  obtain ⟨receipt, final, hrun⟩ := sharedCommit_returns
  exact ⟨receipt, final, hrun, sharedSink.commitAt_honoured rfl (fun _ => rfl) hrun⟩

/-- The file of an entry that is not written is there only after the commit. -/
theorem unwritten_target_changed :
    ¬ ∀ (c : Codec) (sink : FileSystemOutputSink) (resolve resolve' : Resolution)
      (faults : ℕ → EntryFaults) (now : Timestamp) (intents : List (WriteIntent c))
      (planned tree final : FileTree) (receipt : CommitReceipt),
      sink.policy.atomicWrites = true →
      sink.commitAt resolve' faults now (sink.planAt resolve intents planned) tree =
        .ok (receipt, final) →
      ∀ line ∈ (sink.planAt resolve intents planned).entries.zip receipt.results,
        line.2.status ≠ .written →
        final.readFile? (targetAt resolve' line.1) = tree.readFile? (targetAt resolve' line.1) := by
  intro hclaim
  obtain ⟨receipt, final, hrun⟩ := sharedCommit_returns
  have hlines := sharedCommit_lines
  rw [hrun] at hlines
  simp only [Except.toOption, Option.map_some, Option.some.injEq, Prod.mk.injEq] at hlines
  obtain ⟨hzip, hfile⟩ := hlines
  have hfailed : (["out", "reports", "summary.md"], ResultStatus.failed) ∈
      (sharedPlan.entries.zip receipt.results).map fun line =>
        (targetAt (resolvePath ["out"]) line.1, line.2.status) := by
    rw [hzip]
    simp
  obtain ⟨line, hline, heq⟩ := List.mem_map.1 hfailed
  rw [Prod.mk.injEq] at heq
  have hsame := hclaim textCodec sharedSink _ _ _ _ sharedIntents _ _ final receipt rfl hrun line
    hline (by simp [heq.2])
  rw [heq.1] at hsame
  rw [hsame] at hfile
  exact absurd hfile (by decide)

end FileSystemOutputSink

end ConstellationTopology
