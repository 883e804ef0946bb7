import ConstellationTopology.Io.BundleAtomicity
import ConstellationTopology.Io.ReceiptHonoured

set_option autoImplicit false

/-! # Two models of one commit

The filesystem sink and the bundle sink commit twice in this development: once with one fault for
each write, which is what the stages of a worker rely on, and once call by call. A commit that
passes call by call passes in the coarse model with the same receipt and the same files. -/

namespace ConstellationTopology

variable {c : Codec}

/-! ## What a write keeps -/

namespace FileTree

/-- The paths that have an entry. -/
def paths (tree : FileTree) : List Path := tree.rows.map FileEntry.path

theorem mem_paths_writeFile {tree : FileTree} {path other : Path} {content : ByteArray} :
    other ∈ (tree.writeFile path content).paths ↔ other = path ∨ other ∈ tree.paths := by
  simp only [paths, writeFile, List.mem_map, Table.mem_upsert]
  constructor
  · rintro ⟨entry, rfl | ⟨hentry, -⟩, rfl⟩
    · exact .inl rfl
    · exact .inr ⟨entry, hentry, rfl⟩
  · rintro (rfl | ⟨entry, hentry, rfl⟩)
    · exact ⟨_, .inl rfl, rfl⟩
    · by_cases hpath : entry.path = path
      · exact ⟨_, .inl rfl, hpath.symm⟩
      · exact ⟨entry, .inr ⟨hentry, hpath⟩, rfl⟩

theorem mem_paths_unlink {tree : FileTree} {path other : Path} :
    other ∈ (tree.unlink path).paths ↔ other ∈ tree.paths ∧ other ≠ path := by
  simp only [paths, unlink, List.mem_map, List.mem_filter, decide_eq_true_eq]
  constructor
  · rintro ⟨entry, ⟨hentry, hne⟩, rfl⟩
    exact ⟨⟨entry, hentry, rfl⟩, hne⟩
  · rintro ⟨⟨entry, hentry, rfl⟩, hne⟩
    exact ⟨entry, ⟨hentry, hne⟩, rfl⟩

theorem paths_makeDirectory (tree : FileTree) (path : Path) :
    tree.paths ⊆ (tree.makeDirectory path).paths := by
  intro other hother
  unfold makeDirectory
  split
  · exact hother
  · obtain ⟨entry, hentry, rfl⟩ := List.mem_map.1 hother
    by_cases hpath : entry.path = path
    · exact List.mem_map.2 ⟨_, (Table.mem_upsert tree _ _).2 (.inl rfl), hpath.symm⟩
    · exact List.mem_map.2 ⟨entry, (Table.mem_upsert tree _ _).2 (.inr ⟨hentry, hpath⟩), rfl⟩

theorem pathExists_iff {tree : FileTree} {path : Path} :
    tree.pathExists path = true ↔ ∃ other ∈ tree.paths, path <+: other := by
  simp [pathExists, paths]

theorem not_mem_paths {tree : FileTree} {path : Path} (h : tree.pathExists path = false) :
    path ∉ tree.paths := by
  intro hpath
  rw [pathExists_iff.2 ⟨path, hpath, List.prefix_rfl⟩] at h
  cases h

theorem paths_placed {tree tree' : FileTree} {source target : Path} {exclusive : Bool}
    (h : (if exclusive then tree.link source target else tree.replaceFile source target) =
      some tree') {path : Path} (hpath : path ∈ tree.paths) (hne : path ≠ source) :
    path ∈ tree'.paths := by
  unfold link replaceFile at h
  cases exclusive with
  | true =>
      simp only [if_true] at h
      split at h
      · split at h
        · cases h
        · rw [← Option.some.inj h]
          exact mem_paths_writeFile.2 (.inr hpath)
      · cases h
  | false =>
      simp only [Bool.false_eq_true, if_false] at h
      split at h
      · split at h
        · cases h
        · rw [← Option.some.inj h]
          exact mem_paths_writeFile.2 (.inr (mem_paths_unlink.2 ⟨hpath, hne⟩))
      · cases h

end FileTree

/-! ## One write -/

namespace EntryFaults

variable (faults : EntryFaults)

theorem makeParents_ok {target : Path} {tree tree' : FileTree}
    (h : faults.makeParents target tree = (.ok (), tree')) :
    tree' = tree.makeDirectory target.dropLast := by
  unfold makeParents at h
  split at h
  · cases h
  · split at h
    · cases h
    · cases h
      rfl

theorem writeBytes_ok {path : Path} {content : ByteArray} {tree tree' : FileTree}
    (h : faults.writeBytes path content tree = (.ok (), tree')) :
    tree' = tree.writeFile path content := by
  unfold writeBytes at h
  split at h
  · cases h
  · cases h
    rfl

/-- A staged write that succeeds has removed its temporary file. -/
theorem writeStaged_ok {target : Path} {content : ByteArray} {exclusive : Bool}
    {tree tree' : FileTree}
    (h : faults.writeStaged target content exclusive tree = (.ok (), tree')) :
    faults.cleanup = false ∧ tree.paths ⊆ tree'.paths := by
  unfold writeStaged at h
  split at h
  · cases h
  · next hopened =>
      have hfree : tree.pathExists (faults.temporaryPath target) = false := by
        simpa using fun h => hopened (Or.inr h)
      cases hcleanup : faults.cleanup with
      | true => simp [removeTemporary, hcleanup] at h
      | false =>
          simp only [removeTemporary, hcleanup, Bool.false_eq_true, if_false] at h
          refine ⟨rfl, fun path hpath => ?_⟩
          have hne : path ≠ faults.temporaryPath target := by
            rintro rfl
            exact FileTree.not_mem_paths hfree hpath
          split at h
          · cases h
          · next staged hbytes =>
              rw [faults.writeBytes_ok hbytes] at h
              have hstaged : path ∈
                  (tree.writeFile (faults.temporaryPath target) content).paths :=
                FileTree.mem_paths_writeFile.2 (.inr hpath)
              unfold placeTemporary at h
              simp only at h
              split at h
              · next placed _ hplaced =>
                  cases h
                  exact FileTree.mem_paths_unlink.2
                    ⟨FileTree.paths_placed hplaced hstaged hne, hne⟩
              · cases h

end EntryFaults

/-- The trees hold the same files, and whatever exists in the first one exists in the second. -/
structure SameFiles (tree tree' : FileTree) : Prop where
  files : ∀ path, tree.readFile? path = tree'.readFile? path
  exists_of_exists : ∀ path, tree.pathExists path = true → tree'.pathExists path = true

theorem sameFiles_refl (tree : FileTree) : SameFiles tree tree := ⟨fun _ => rfl, fun _ => id⟩

namespace FileSystemOutputSink

variable (sink : FileSystemOutputSink)

/-- A write that succeeds call by call is the plain write. -/
theorem SameFiles.atomicWriteCalls {target : Path} {content : ByteArray} {exclusive : Bool}
    {faults : EntryFaults} {tree tree' final : FileTree} (hatomic : sink.policy.atomicWrites = true)
    (hsame : SameFiles tree tree')
    (h : sink.atomicWriteCalls target content exclusive faults tree' = (.ok (), final)) :
    SameFiles (tree.writeFile target content) final := by
  have hcalls := h
  unfold FileSystemOutputSink.atomicWriteCalls at hcalls
  split at hcalls
  · cases hcalls
  · next parents hparents =>
      rw [if_pos hatomic, faults.makeParents_ok hparents] at hcalls
      obtain ⟨hcleanup, hpaths⟩ := faults.writeStaged_ok hcalls
      have hwritten : WriteOutcome target content
          (sink.atomicWriteCalls target content exclusive faults tree').1 tree'
          (sink.atomicWriteCalls target content exclusive faults tree').2 :=
        sink.atomicWriteCalls_files hatomic hcleanup
      rw [h] at hwritten
      have hbytes := hwritten.bytes rfl
      refine ⟨fun path => ?_, fun path hpath => ?_⟩
      · by_cases hne : path = target
        · rw [hne, FileTree.readFile?_writeFile_self, hbytes]
        · rw [FileTree.readFile?_writeFile_ne _ _ hne, hsame.files]
          exact (hwritten.others path (.inl hne)).symm
      · obtain ⟨other, hother, hbelow⟩ := FileTree.pathExists_iff.1 hpath
        rcases FileTree.mem_paths_writeFile.1 hother with rfl | hother
        · obtain ⟨own, hown, habove⟩ :=
            FileTree.pathExists_iff.1 (FileTree.pathExists_of_readFile? hbytes)
          exact FileTree.pathExists_iff.2 ⟨own, hown, hbelow.trans habove⟩
        · obtain ⟨own, hown, habove⟩ := FileTree.pathExists_iff.1
            (hsame.exists_of_exists path (FileTree.pathExists_iff.2 ⟨other, hother, hbelow⟩))
          exact FileTree.pathExists_iff.2
            ⟨own, hpaths (FileTree.paths_makeDirectory _ _ hown), habove⟩

/-! ## A commit of the filesystem sink -/

/-- What is still safe call by call is still safe. -/
theorem SameFiles.revalidateEntry {tree tree' : FileTree} (hsame : SameFiles tree tree')
    {entry : WritePlanEntry c}
    (h : revalidateEntryAt entry (sink.target entry.intent) tree' = none) :
    sink.revalidateEntry entry tree = none := by
  rw [← sink.revalidateEntryAt_target]
  unfold revalidateEntryAt at h ⊢
  rw [hsame.files]
  split at h
  · next hread =>
      split at h
      · cases h
      · next hmissing =>
          rw [if_neg fun hexists => hmissing (hsame.exists_of_exists _ hexists)]
          exact h
  · next content hread => exact h

/-- One turn of the loop. -/
theorem commitEntryAt_refines (hatomic : sink.policy.atomicWrites = true)
    {entry : WritePlanEntry c} {faults : EntryFaults} {tree tree' final : FileTree}
    {result : CommitArtifactResult} (hsame : SameFiles tree tree')
    (h : sink.commitEntryAt (resolvePath sink.outputRoot) entry faults tree' =
      .ok (result, final)) (hresult : result.status ≠ .failed) :
    (sink.commitEntry entry (fun _ => none) tree).1 = result ∧
      SameFiles (sink.commitEntry entry (fun _ => none) tree).2 final := by
  unfold commitEntryAt at h
  unfold commitEntry
  split at h
  · next hmode =>
      cases h
      rw [if_pos hmode]
      exact ⟨rfl, hsame⟩
  · next hmode =>
      rw [if_neg hmode]
      split at h
      · next hskip =>
          cases h
          rw [if_pos hskip]
          exact ⟨rfl, hsame⟩
      · next hskip =>
          rw [if_neg hskip]
          split at h
          · cases h
          · cases h
          · next target hresolve _ =>
              obtain rfl := sink.resolveDestinationAt_ok hresolve
              split at h
              · cases h
                exact absurd rfl hresult
              · next hvalid =>
                  rw [SameFiles.revalidateEntry sink hsame hvalid]
                  split at h
                  · cases h
                    exact absurd rfl hresult
                  · next placed hwrite =>
                      cases h
                      exact ⟨rfl, SameFiles.atomicWriteCalls sink hatomic hsame hwrite⟩

theorem commitEntriesAt_refines (hatomic : sink.policy.atomicWrites = true)
    {entries : List (WritePlanEntry c)} {faults : ℕ → EntryFaults} {position : ℕ}
    {tree tree' final : FileTree} {results : List CommitArtifactResult}
    (hsame : SameFiles tree tree')
    (h : sink.commitEntriesAt (resolvePath sink.outputRoot) faults position entries tree' =
      .ok (results, final)) (hresults : ∀ result ∈ results, result.status ≠ .failed) :
    (sink.commitEntries (fun _ => none) entries tree).1 = results ∧
      SameFiles (sink.commitEntries (fun _ => none) entries tree).2 final := by
  induction entries generalizing position tree tree' results with
  | nil =>
      cases h
      exact ⟨rfl, hsame⟩
  | cons entry rest ih =>
      obtain ⟨result, others, between, hentry, hrest, rfl⟩ := sink.commitEntriesAt_cons h
      obtain ⟨hresult, hothers⟩ := List.forall_mem_cons.1 hresults
      obtain ⟨hturn, hsame'⟩ := sink.commitEntryAt_refines hatomic hsame hentry hresult
      obtain ⟨hlater, hfinal⟩ := ih hsame' hrest hothers
      simp only [commitEntries]
      exact ⟨by rw [hturn, hlater], hfinal⟩

/-- **The filesystem sink**: a commit that passes call by call, where no link leads elsewhere, is
    the coarse commit without a fault. -/
theorem commitAt_refines (hatomic : sink.policy.atomicWrites = true) {faults : ℕ → EntryFaults}
    {now : Timestamp} {plan : WritePlan c} {tree final : FileTree} {receipt : CommitReceipt}
    (h : sink.commitAt (resolvePath sink.outputRoot) faults now plan tree = .ok (receipt, final))
    (hpassed : receipt.status = .passed) :
    (sink.commitPlan plan (fun _ => none) now tree).1 = receipt ∧
      ∀ path, (sink.commitPlan plan (fun _ => none) now tree).2.readFile? path =
        final.readFile? path := by
  unfold commitAt at h
  unfold commitPlan
  split at h
  · next hblocked =>
      cases h
      rw [if_pos hblocked]
      exact ⟨rfl, fun _ => rfl⟩
  · next hblocked =>
      split at h
      · cases h
      · next results tree' hrun =>
          cases h
          rw [makeCommitReceipt_status, commitStatus_eq_passed_iff] at hpassed
          obtain ⟨hresults, hsame⟩ :=
            sink.commitEntriesAt_refines hatomic (sameFiles_refl tree) hrun hpassed.2.2
          rw [if_neg hblocked]
          simp only [hresults, true_and]
          exact hsame.files

/-! ## A commit of the bundle sink -/

theorem commitEntry_paths (entry : WritePlanEntry c) (faults : WriteFaults) (tree : FileTree) :
    tree.paths ⊆ (sink.commitEntry entry faults tree).2.paths := by
  have hwrite : ∀ target content, tree.paths ⊆
      (sink.atomicWrite target content faults tree).2.paths := by
    intro target content path hpath
    unfold atomicWrite
    split
    · exact FileTree.mem_paths_writeFile.2 (.inr hpath)
    · split
      · exact FileTree.mem_paths_writeFile.2 (.inr hpath)
      · exact hpath
  have hplaced := hwrite (resolvePath sink.outputRoot entry.intent.artifact.destinationPath)
    entry.intent.artifact.content.toUTF8
  unfold commitEntry
  split
  · exact List.Subset.refl _
  split
  · exact List.Subset.refl _
  split
  · exact List.Subset.refl _
  · simp only
    split <;> next heq => rw [heq] at hplaced; exact hplaced

end FileSystemOutputSink

namespace PacketBundleOutputSink

variable {base : FileSystemOutputSink} {intents : List (WriteIntent c)} {tree : FileTree}

/-- What is there already is not created. -/
theorem commitEntry_of_pathExists (hmode : base.policy.mode = .write) {intent : WriteIntent c}
    (faults : WriteFaults) (hexists : tree.pathExists (base.target intent) = true) :
    (base.commitEntry (createEntry intent) faults tree).1.status = .failed := by
  have hwrite : base.policy.mode ≠ .dryRun := by
    rw [hmode]
    decide
  have hskip : (createEntry intent).action ≠ .skip := WriteAction.noConfusion
  have hstale : ∃ stale, base.revalidateEntry (createEntry intent) tree = some stale := by
    rw [← base.revalidateEntryAt_target]
    unfold FileSystemOutputSink.revalidateEntryAt
    split
    · exact ⟨_, if_pos hexists⟩
    · exact ⟨_, if_pos (Option.some_ne_none _)⟩
  obtain ⟨stale, hstale⟩ := hstale
  simp only [FileSystemOutputSink.commitEntry, if_neg hwrite, if_neg hskip, hstale]
  rfl

theorem exists_failed_of_pathExists (hmode : base.policy.mode = .write) {faults : WriteFaults}
    {intent : WriteIntent c} (hintent : intent ∈ intents)
    (hexists : tree.pathExists (base.target intent) = true) :
    ∃ result ∈ (base.commitEntries faults (intents.map createEntry) tree).1,
      result.status = .failed := by
  induction intents generalizing tree with
  | nil => cases hintent
  | cons head rest ih =>
      simp only [List.map_cons, FileSystemOutputSink.commitEntries]
      rcases List.mem_cons.1 hintent with rfl | hintent
      · exact ⟨_, List.mem_cons_self, commitEntry_of_pathExists hmode faults hexists⟩
      · obtain ⟨other, hother, hbelow⟩ := FileTree.pathExists_iff.1 hexists
        have hlater := FileTree.pathExists_iff.2
          ⟨other, base.commitEntry_paths (createEntry head) faults tree hother, hbelow⟩
        obtain ⟨result, hresult, hfailed⟩ := ih hintent hlater
        exact ⟨result, List.mem_cons_of_mem _ hresult, hfailed⟩

/-- Where every artifact is written, none is above one that was written before it. -/
theorem apart_of_written (hmode : base.policy.mode = .write) {faults : WriteFaults}
    (hresults : ∀ result ∈ (base.commitEntries faults (intents.map createEntry) tree).1,
      result.status ≠ .failed) :
    (intents.map base.target).Pairwise fun path other => ¬ other <+: path := by
  induction intents generalizing tree with
  | nil => exact List.Pairwise.nil
  | cons head rest ih =>
      simp only [List.map_cons, FileSystemOutputSink.commitEntries, List.forall_mem_cons]
        at hresults
      rw [List.map_cons, List.pairwise_cons]
      refine ⟨?_, ih hresults.2⟩
      intro path hpath habove
      obtain ⟨intent, hintent, rfl⟩ := List.mem_map.1 hpath
      have hcreate : (createEntry head).action ≠ .skip := WriteAction.noConfusion
      have hwritten := base.commitEntry_written hmode hcreate hresults.1
      obtain ⟨own, hown, hbelow⟩ :=
        FileTree.pathExists_iff.1 (FileTree.pathExists_of_readFile? hwritten)
      obtain ⟨result, hresult, hfailed⟩ := exists_failed_of_pathExists hmode hintent
        (FileTree.pathExists_iff.2 ⟨own, hown, habove.trans hbelow⟩)
      exact hresults.2 result hresult hfailed

variable {sink : PacketBundleOutputSink} {faults : CommitFaults} {now : Timestamp}

/-- In a staged commit that has passed no destination is above an earlier one. -/
theorem Replaces.apart (hrequired : ∀ intent ∈ intents, intent.required = true)
    (h : Replaces sink intents faults now tree) :
    (intents.map sink.base.target).Pairwise fun path other => ¬ other <+: path := by
  have hstages := h.stages
  have hbelow := (stageAndReplace_of_replaces hrequired h).below
  have hready := (stagingPlan_ready_iff hrequired hstages.root_ne_nil hstages.ready
    hstages.fresh).2 hbelow
  obtain ⟨receipt, hok, hpassed⟩ := h.staged
  have hblocked : ((sink.stagingSink faults.suffix).plan intents
      (sink.stagingTree faults.suffix tree)).status ≠ .blocked := by
    rw [hready]
    decide
  unfold stageBundle at hok
  split at hok
  · cases hok
  · simp only [if_neg hblocked,
      staging_entries hstages.root_ne_nil hstages.ready hstages.fresh hbelow] at hok
    obtain ⟨results, hresults, rfl⟩ := map_eq_ok.1 hok
    rw [makeCommitReceipt_status, commitStatus_eq_passed_iff] at hpassed
    have hcommit := stageEntries_ok hresults
    have hwritten : ∀ result ∈ ((sink.stagingSink faults.suffix).commitEntries faults.write
        (intents.map createEntry) (sink.stagingTree faults.suffix tree)).1,
        result.status ≠ .failed := by
      rw [hcommit]
      exact hpassed.2.2
    have hstaged : (intents.map (sink.stagingSink faults.suffix).target).Pairwise
        fun path other => ¬ other <+: path := apart_of_written rfl hwritten
    rw [List.pairwise_map] at hstaged ⊢
    refine List.Pairwise.imp_of_mem ?_ hstaged
    intro intent other hintent hother hapart
    obtain ⟨own, hbase, hstaging⟩ := exists_rest_of_targets hstages.root_ne_nil
      ((base_targets hstages.ready).1 intent hintent) (hbelow intent hintent).1
    obtain ⟨own', hbase', hstaging'⟩ := exists_rest_of_targets hstages.root_ne_nil
      ((base_targets hstages.ready).1 other hother) (hbelow other hother).1
    rw [hstaging, hstaging', List.prefix_append_right_inj] at hapart
    rwa [hbase, hbase', List.prefix_append_right_inj]

/-- The coarse staged commit writes every artifact where none is above an earlier one. -/
theorem staging_commit_passed (hready : (sink.base.plan intents tree).status = .ready)
    (hapart : (intents.map sink.base.target).Pairwise fun path other => ¬ other <+: path) :
    (sink.staging.commit intents (fun _ => none) now Table.empty).1.status = .passed := by
  obtain ⟨hlimit, hissues⟩ := (sink.base.plan_ready_iff intents tree).1 hready
  refine sink.staging_status_passed hlimit hissues ?_
  have hblocked : (sink.staging.plan intents Table.empty).status ≠ .blocked := by
    rw [sink.staging_plan_ready hlimit hissues]
    decide
  have hentries : (sink.staging.plan intents Table.empty).entries = intents.map createEntry := by
    rw [FileSystemOutputSink.plan_entries, sink.staging_planIntents hissues]
    rfl
  simp only [FileSystemOutputSink.commit, FileSystemOutputSink.commitPlan, if_neg hblocked,
    hentries]
  have hwritten : ∀ result ∈ (sink.staging.commitEntries (fun _ => none)
      (intents.map createEntry) Table.empty).1, result.status = .written :=
    commitEntries_creates rfl rfl (fun _ _ => rfl) hapart
  intro result hresult
  rw [hwritten result hresult]
  exact ResultStatus.noConfusion

/-- Where no artifact goes the coarse staging tree is empty. -/
theorem staging_lookup (hready : (sink.base.plan intents tree).status = .ready) {path : Path}
    (hother : ∀ intent ∈ intents, path ≠ sink.base.target intent) :
    Table.lookup (sink.staging.commit intents (fun _ => none) now Table.empty).2 path = none := by
  obtain ⟨-, hissues⟩ := (sink.base.plan_ready_iff intents tree).1 hready
  unfold FileSystemOutputSink.commit FileSystemOutputSink.commitPlan
  split
  · rfl
  · refine sink.staging.commitEntries_lookup ?_
    rw [FileSystemOutputSink.plan_entries, sink.staging_planIntents hissues]
    intro entry hentry
    obtain ⟨intent, hintent, rfl⟩ := List.mem_map.1 hentry
    exact hother intent hintent

/-- The bundle that is put into place holds its artifacts and nothing else. -/
theorem holdsBundle_union (hroot : tree.pathExists sink.bundleRoot = false)
    (hready : (sink.base.plan intents tree).status = .ready)
    (hpassed : (sink.staging.commit intents (fun _ => none) now Table.empty).1.status = .passed) :
    sink.HoldsBundle intents
      (tree.union (sink.staging.commit intents (fun _ => none) now Table.empty).2) := by
  obtain ⟨hlimit, hissues⟩ := (sink.base.plan_ready_iff intents tree).1 hready
  have hwritten := sink.staging_passed (fun _ => none) now hissues hlimit hpassed
  intro path hpath content
  constructor
  · intro hread
    by_contra hnone
    have hother : ∀ intent ∈ intents, path ≠ sink.base.target intent := by
      rintro intent hintent rfl
      rw [FileTree.readFile?_union tree (hwritten intent hintent), Option.some.injEq] at hread
      exact hnone ⟨intent, hintent, rfl, hread.symm⟩
    have hfree := pathExists_eq_false_iff.1 hroot path hpath
    have hstaged : Table.lookup (sink.staging.commit intents (fun _ => none) now
        Table.empty).2 path = none := staging_lookup hready hother
    have hlookup : Table.lookup (tree.union (sink.staging.commit intents (fun _ => none) now
        Table.empty).2) path = none := by
      rw [FileTree.union, Table.lookup_union, hstaged, hfree]
      rfl
    simp [FileTree.readFile?, hlookup] at hread
  · rintro ⟨intent, hintent, rfl, rfl⟩
    exact FileTree.readFile?_union tree (hwritten intent hintent)

theorem HoldsBundle.readFile?_eq {first second : FileTree} (h : sink.HoldsBundle intents first)
    (h' : sink.HoldsBundle intents second) {path : Path} (hpath : sink.bundleRoot <+: path) :
    first.readFile? path = second.readFile? path :=
  Option.ext fun content => (h path hpath content).trans (h' path hpath content).symm

/-- What a commit that stages and passes ends in. -/
theorem stageAndReplace_passed (hrequired : ∀ intent ∈ intents, intent.required = true)
    (h : Stages sink intents faults tree) (hbelow : StaysBelow sink faults.suffix intents)
    (hpassed : (sink.stageAndReplace (sink.base.plan intents tree) intents faults now
      (sink.stagingTree faults.suffix tree)).1.status = .passed) :
    Replaces sink intents faults now tree ∧
      (sink.stageAndReplace (sink.base.plan intents tree) intents faults now
        (sink.stagingTree faults.suffix tree)).1 =
          makeCommitReceipt c (sink.base.plan intents tree)
            (committedResults (sink.base.plan intents tree)) false now := by
  by_cases hreplaces : Replaces sink intents faults now tree
  · refine ⟨hreplaces, ?_⟩
    have hcalls := (stageAndReplace_of_replaces hrequired hreplaces).status.1 hpassed
    obtain ⟨receipt, hok, hstatus⟩ := hreplaces.staged
    simp only [stageAndReplace, hok, hstatus, ne_eq, not_true_eq_false, if_false, hreplaces.calls,
      hcalls]
  · have hrefused := (stageAndReplace_of_not_replaces hrequired h hreplaces).answer.2
      fun _ => hbelow
    exact absurd (all_skip_of_inPlace h.ready (hrefused _ rfl hpassed).2) h.mutates

/-- A commit that stages is one coarse commit. -/
theorem Stages.commit_refines (hrequired : ∀ intent ∈ intents, intent.required = true)
    (h : Stages sink intents faults tree) (hbelow : StaysBelow sink faults.suffix intents)
    {receipt : CommitReceipt} {tree' : FileTree}
    (hsteps : sink.commitSteps intents faults now tree = (.ok receipt, tree'))
    (hpassed : receipt.status = .passed) :
    ∃ final, sink.commit intents {} now tree = (.ok receipt, final) ∧
      ∀ path, sink.bundleRoot <+: path → final.readFile? path = tree'.readFile? path := by
  rw [commitSteps_of_stages h] at hsteps
  split at hsteps
  · cases hsteps
  · cases hsteps
    obtain ⟨hreplaces, hreceipt⟩ := stageAndReplace_passed hrequired h hbelow hpassed
    have hstaging : (sink.staging.commit intents (fun _ => none) now Table.empty).1.status =
      .passed := staging_commit_passed h.ready (hreplaces.apart hrequired)
    have hremoved (placed : FileTree) : sink.Unchanged placed
        (placed.removeTree (sink.stagingRoot faults.suffix) faults.leftover) :=
      unchanged_removeTree h.root_ne_nil placed faults.leftover
    have hholds :=
      (hremoved _).holdsBundle.2 (stageAndReplace_of_replaces hrequired hreplaces).holds
    have hblocked : (sink.base.plan intents tree).status ≠ .blocked := by
      rw [h.ready]
      decide
    have hmode : sink.mode ≠ .dryRun := by
      rw [h.mode]
      decide
    refine ⟨_, ?_, fun path hpath =>
      (holdsBundle_union h.root_free h.ready hstaging).readFile?_eq hholds hpath⟩
    rw [hreceipt]
    simp only [commit, commitStaged, if_neg hblocked, if_neg hmode, if_neg h.mutates, h.root_free,
      Bool.false_eq_true, if_false, hstaging, ne_eq, not_true_eq_false]

/-- A dry run asks nothing of the environment. -/
theorem commitEntries_of_dryRun (hmode : base.policy.mode = .dryRun) (faults : WriteFaults)
    (entries : List (WritePlanEntry c)) :
    base.commitEntries faults entries tree = base.commitEntries (fun _ => none) entries tree := by
  induction entries with
  | nil => rfl
  | cons entry rest ih =>
      simp only [FileSystemOutputSink.commitEntries, FileSystemOutputSink.commitEntry,
        if_pos hmode, ih]

/-- **The bundle sink**: a commit that passes call by call, all of whose destinations stay below
    the staging directory, is the coarse commit without a fault. -/
theorem commitSteps_refines (hrequired : ∀ intent ∈ intents, intent.required = true)
    (hbelow : StaysBelow sink faults.suffix intents) {receipt : CommitReceipt} {tree' : FileTree}
    (h : sink.commitSteps intents faults now tree = (.ok receipt, tree'))
    (hpassed : receipt.status = .passed) :
    ∃ final, sink.commit intents {} now tree = (.ok receipt, final) ∧
      ∀ path, sink.bundleRoot <+: path → final.readFile? path = tree'.readFile? path := by
  by_cases hstages : Stages sink intents faults tree
  · exact hstages.commit_refines hrequired hbelow h hpassed
  have hsteps := h
  unfold commitSteps at hsteps
  split at hsteps
  · cases hsteps
  next hread =>
  simp only at hsteps
  split at hsteps
  · next hblocked =>
      cases hsteps
      rw [makeCommitReceipt_status, commitStatus_eq_passed_iff, hblocked] at hpassed
      exact absurd hpassed.1 (by decide)
  next hblocked =>
  split at hsteps
  · next hmode =>
      have hbase : sink.base.policy.mode = .dryRun := hmode
      cases hsteps
      refine ⟨_, ?_, fun _ _ => rfl⟩
      simp only [commit, if_neg hblocked, if_pos hmode, FileSystemOutputSink.commitPlan,
        commitEntries_of_dryRun hbase faults.write]
  next hmode =>
  split at hsteps
  · next hskip =>
      cases hsteps
      refine ⟨tree, ?_, fun _ _ => rfl⟩
      simp only [commit, if_neg hblocked, if_neg hmode, if_pos hskip]
      rfl
  · next hmutates =>
      -- nothing was staged, so a receipt that passed would find the bundle in place
      have hready : (sink.base.plan intents tree).status = .ready := by
        cases hstatus : (sink.base.plan intents tree).status with
        | ready => rfl
        | blocked => exact absurd hstatus hblocked
      have hdry : ¬ Rehearses sink intents faults tree := fun hrehearses => hmode hrehearses.mode
      have hrefused : Refused sink intents tree (sink.commitSteps intents faults now tree).1 :=
        (commitSteps_of_not_stages hrequired hstages hdry).2
      rw [h] at hrefused
      exact absurd (all_skip_of_inPlace hready (hrefused _ rfl hpassed).2) hmutates

end PacketBundleOutputSink

end ConstellationTopology
