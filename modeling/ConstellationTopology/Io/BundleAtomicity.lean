import ConstellationTopology.Io.BundleCommit
import ConstellationTopology.Library.Fallible

set_option autoImplicit false

/-! # When the bundle commit is atomic

Before the rename nothing at the bundle changes, so every failure up to it is reported as one. Two
things break the promise: a destination that leaves the staging directory on its way blocks the
staged plan, and a blocked plan has no failed result; and a call that raises after the rename turns
a bundle in place into a failure (`commit_atomic_iff`). -/

namespace ConstellationTopology

namespace PacketBundleOutputSink

variable {c : Codec} {sink : PacketBundleOutputSink} {suffix : String}

/-! ## The staging directory beside the bundle -/

theorem stagingRoot_ne (hroot : sink.bundleRoot ≠ []) :
    sink.stagingRoot suffix ≠ sink.bundleRoot := by
  intro heq
  obtain ⟨name, hname⟩ := Option.ne_none_iff_exists'.1 (mt List.getLast?_eq_none_iff.1 hroot)
  have hlast := congrArg List.getLast? heq
  rw [stagingRoot, hname, List.getLast?_concat, Option.some.injEq] at hlast
  -- the name of the staging directory is the longer one
  have hlength := congrArg (fun text : String => text.toList.length) hlast
  simp only [Option.getD_some, String.toList_append, List.length_append] at hlength
  have hdot : (".".toList).length = 1 := by decide
  omega

theorem length_stagingRoot (hroot : sink.bundleRoot ≠ []) :
    (sink.stagingRoot suffix).length = sink.bundleRoot.length := by
  have hpos := List.length_pos_iff.2 hroot
  simp only [stagingRoot, List.length_append, List.length_dropLast, List.length_singleton]
  omega

/-- No path is at or below both directories. -/
theorem not_below_staging (hroot : sink.bundleRoot ≠ []) {path : Path}
    (h : sink.bundleRoot <+: path) : ¬ sink.stagingRoot suffix <+: path := by
  intro hstaging
  have hshorter := List.prefix_of_prefix_length_le hstaging h (length_stagingRoot hroot).le
  exact stagingRoot_ne hroot (hshorter.eq_of_length (length_stagingRoot hroot))

theorem ne_parent (hroot : sink.bundleRoot ≠ []) {path : Path} (h : sink.bundleRoot <+: path) :
    path ≠ sink.bundleRoot.dropLast := by
  intro heq
  have hlength := h.length_le
  have hpos := List.length_pos_iff.2 hroot
  rw [heq, List.length_dropLast] at hlength
  omega

theorem ne_staging (hroot : sink.bundleRoot ≠ []) {path : Path} (h : sink.bundleRoot <+: path) :
    path ≠ sink.stagingRoot suffix := by
  intro heq
  have hbelow : sink.stagingRoot suffix <+: path := heq ▸ List.prefix_refl _
  exact not_below_staging hroot h hbelow

/-- Two walks from the two directories: below both by the same way, or at one place. -/
def Follows (root staging path path' : Path) : Prop :=
  (∃ rest, path = root ++ rest ∧ path' = staging ++ rest) ∨ path = path'

theorem Follows.step {root staging path path' : Path} (hparent : root.dropLast = staging.dropLast)
    (h : Follows root staging path path') (segment : String) :
    Follows root staging (resolveSegment path segment) (resolveSegment path' segment) := by
  rcases h with ⟨rest, rfl, rfl⟩ | rfl
  · unfold resolveSegment
    split
    · exact Or.inl ⟨rest, rfl, rfl⟩
    split
    · rcases List.eq_nil_or_concat rest with rfl | ⟨front, last, rfl⟩
      · right
        simpa using hparent
      · left
        refine ⟨front, ?_, ?_⟩
        · rw [List.concat_eq_append, ← List.append_assoc, List.dropLast_concat]
        · rw [List.concat_eq_append, ← List.append_assoc, List.dropLast_concat]
    · exact Or.inl ⟨rest ++ [segment], by simp, by simp⟩
  · exact Or.inr rfl

theorem Follows.walk {root staging : Path} (hparent : root.dropLast = staging.dropLast)
    (segments : List String) {path path' : Path} (h : Follows root staging path path') :
    Follows root staging (segments.foldl resolveSegment path)
      (segments.foldl resolveSegment path') := by
  induction segments generalizing path path' with
  | nil => exact h
  | cons segment rest ih => exact ih (h.step hparent segment)

theorem follows_resolvePath {root staging : Path} (hparent : root.dropLast = staging.dropLast)
    (destination : String) :
    Follows root staging (resolvePath root destination) (resolvePath staging destination) := by
  refine Follows.walk hparent _ ?_
  split
  · exact Or.inr rfl
  · exact Or.inl ⟨[], by simp, by simp⟩

/-- A destination that stays below both directories goes the same way in both. -/
theorem exists_rest_of_targets (hroot : sink.bundleRoot ≠ []) {intent : WriteIntent c}
    (hbase : sink.bundleRoot <+: sink.base.target intent)
    (hstaging : sink.stagingRoot suffix <+: (sink.stagingSink suffix).target intent) :
    ∃ rest, sink.base.target intent = sink.bundleRoot ++ rest ∧
      (sink.stagingSink suffix).target intent = sink.stagingRoot suffix ++ rest := by
  have hparent : sink.bundleRoot.dropLast = (sink.stagingRoot suffix).dropLast := by
    rw [stagingRoot, List.dropLast_concat]
  rcases follows_resolvePath hparent intent.artifact.destinationPath with hrest | heq
  · exact hrest
  · -- one place cannot be below both
    have hsame : sink.base.target intent = (sink.stagingSink suffix).target intent := heq
    rw [hsame] at hbase
    exact absurd hstaging (not_below_staging hroot hbase)

/-! ## What stays as it was -/

theorem Unchanged.trans {tree tree' tree'' : FileTree} (h : sink.Unchanged tree tree')
    (h' : sink.Unchanged tree' tree'') : sink.Unchanged tree tree'' :=
  fun path hpath => (h' path hpath).trans (h path hpath)

theorem unchanged_refl (tree : FileTree) : sink.Unchanged tree tree := fun _ _ => rfl

theorem unchanged_makeParent (hroot : sink.bundleRoot ≠ []) (tree : FileTree) :
    sink.Unchanged tree (tree.makeDirectory sink.bundleRoot.dropLast) :=
  fun _ hpath => FileTree.lookup_makeDirectory_ne tree (ne_parent hroot hpath)

theorem unchanged_stagingTree (hroot : sink.bundleRoot ≠ []) (tree : FileTree) :
    sink.Unchanged tree (sink.stagingTree suffix tree) :=
  (unchanged_makeParent hroot tree).trans fun _ hpath =>
    FileTree.lookup_makeDirectory_ne _ (ne_staging hroot hpath)

theorem unchanged_removeTree (hroot : sink.bundleRoot ≠ []) (tree : FileTree)
    (leftover : Path → Bool) :
    sink.Unchanged tree (tree.removeTree (sink.stagingRoot suffix) leftover) :=
  fun _ hpath => FileTree.lookup_removeTree tree leftover (not_below_staging hroot hpath)

/-- What is not there is not there below either. -/
theorem pathExists_eq_false_iff {tree : FileTree} {path : Path} :
    tree.pathExists path = false ↔ ∀ other, path <+: other → Table.lookup tree other = none := by
  constructor
  · intro h other hbelow
    rw [Table.lookup_eq_none_iff]
    intro entry hentry heq
    have hexists : tree.pathExists path = true :=
      List.any_eq_true.2 ⟨entry, hentry, by simpa [heq] using hbelow⟩
    simp [h] at hexists
  · intro h
    rw [Bool.eq_false_iff]
    intro hexists
    obtain ⟨entry, hentry, hbelow⟩ := List.any_eq_true.1 hexists
    have hnone := h entry.path (by simpa using hbelow)
    rw [(Table.mem_rows_iff tree entry).1 hentry] at hnone
    cases hnone

theorem Unchanged.pathExists {tree tree' : FileTree} (h : sink.Unchanged tree tree')
    (hfree : tree.pathExists sink.bundleRoot = false) :
    tree'.pathExists sink.bundleRoot = false := by
  rw [pathExists_eq_false_iff] at hfree ⊢
  exact fun path hpath => (h path hpath).trans (hfree path hpath)

theorem Unchanged.holdsBundle {intents : List (WriteIntent c)} {tree tree' : FileTree}
    (h : sink.Unchanged tree tree') :
    sink.HoldsBundle intents tree' ↔ sink.HoldsBundle intents tree := by
  unfold HoldsBundle
  refine forall₂_congr fun path hpath => ?_
  rw [FileTree.readFile?_congr (h path hpath)]

/-! ## The staging tree -/

section

variable {tree : FileTree}

/-- Nothing but the directory itself is at or below the staging directory. -/
theorem pathExists_stagingTree
    (hfresh : (tree.makeDirectory sink.bundleRoot.dropLast).pathExists (sink.stagingRoot suffix) =
      false) {rest : Path} (hrest : rest ≠ []) :
    (sink.stagingTree suffix tree).pathExists (sink.stagingRoot suffix ++ rest) = false := by
  rw [pathExists_eq_false_iff] at hfresh ⊢
  intro path hbelow
  have hne : path ≠ sink.stagingRoot suffix := by
    intro heq
    have hlength := hbelow.length_le
    have hpos := List.length_pos_iff.2 hrest
    rw [heq, List.length_append] at hlength
    omega
  rw [stagingTree, FileTree.lookup_makeDirectory_ne _ hne]
  exact hfresh path ((List.prefix_append _ _).trans hbelow)

/-- The staging directory is there, and it is no file. -/
theorem stagingTree_directory
    (hfresh : (tree.makeDirectory sink.bundleRoot.dropLast).pathExists (sink.stagingRoot suffix) =
      false) :
    (sink.stagingTree suffix tree).pathExists (sink.stagingRoot suffix) = true ∧
      (sink.stagingTree suffix tree).readFile? (sink.stagingRoot suffix) = none := by
  have hlookup : Table.lookup (sink.stagingTree suffix tree) (sink.stagingRoot suffix) =
      some ⟨sink.stagingRoot suffix, .directory⟩ := by
    rw [stagingTree, FileTree.makeDirectory, hfresh, if_neg Bool.false_ne_true]
    exact Table.lookup_upsert_self _ (⟨sink.stagingRoot suffix, .directory⟩ : FileEntry)
  constructor
  · by_contra hexists
    rw [Bool.not_eq_true, pathExists_eq_false_iff] at hexists
    rw [hexists _ List.prefix_rfl] at hlookup
    cases hlookup
  · simp only [FileTree.readFile?, hlookup]

end

/-! ## The staged plan -/

/-- Every destination goes below the staging directory and ends there. -/
def StaysBelow (sink : PacketBundleOutputSink) (suffix : String) (intents : List (WriteIntent c)) :
    Prop :=
  ∀ intent ∈ intents, sink.stagingRoot suffix <+: (sink.stagingSink suffix).target intent ∧
    (sink.stagingSink suffix).target intent ≠ sink.stagingRoot suffix

/-- Screened destinations without a collision are planned without an issue. -/
theorem planIntents_of_screened {base : FileSystemOutputSink} {tree : FileTree}
    {intents : List (WriteIntent c)} {seen : List Path}
    (htarget : ∀ intent ∈ intents, base.planTarget intent = (base.target intent, []))
    (hdecide : ∀ intent ∈ intents, (base.planEntry intent (base.target intent) tree).2 = [])
    (hnodup : (intents.map base.target).Nodup)
    (hseen : ∀ intent ∈ intents, base.target intent ∉ seen) :
    (base.planIntents tree seen intents).2 = [] := by
  induction intents generalizing seen with
  | nil => rfl
  | cons intent rest ih =>
      rw [List.map_cons, List.nodup_cons] at hnodup
      rw [base.planIntents_cons_issues, htarget intent List.mem_cons_self]
      refine ⟨rfl, fun hin => hseen intent List.mem_cons_self hin.1,
        hdecide intent List.mem_cons_self, ?_⟩
      refine ih (fun other hother => htarget other (List.mem_cons_of_mem _ hother))
        (fun other hother => hdecide other (List.mem_cons_of_mem _ hother)) hnodup.2 ?_
      intro other hother hin
      rcases List.mem_cons.1 hin with heq | hin
      · have hsame : base.target other = base.target intent := heq
        exact hnodup.1 (hsame ▸ List.mem_map_of_mem hother)
      · exact hseen other (List.mem_cons_of_mem _ hother) hin

/-- A ready plan has a target below the bundle for each artifact, and no two alike; the artifacts are
    of known kinds and their destinations are paths. -/
theorem base_targets {intents : List (WriteIntent c)} {tree : FileTree}
    (hready : (sink.base.plan intents tree).status = .ready) :
    (∀ intent ∈ intents, sink.bundleRoot <+: sink.base.target intent) ∧
      (intents.map sink.base.target).Nodup ∧
      ∀ intent ∈ intents, intent.artifact.artifactKind ∈ allKinds ∧
        '\x00' ∉ intent.artifact.destinationPath.toList := by
  have hissues := ((sink.base.plan_ready_iff intents tree).1 hready).2
  refine ⟨sink.base.target_below_of_ready rfl hissues, (sink.base.targets_of_ready rfl hissues).1,
    fun intent hintent => ?_⟩
  obtain ⟨hkind, -, path, hresolve⟩ :=
    sink.base.planTarget_issues.1 (sink.base.planTarget_issues_of_ready hissues intent hintent)
  exact ⟨hkind, (sink.base.resolveDestination_eq_ok.1 hresolve).1⟩

section

variable {intents : List (WriteIntent c)} {tree : FileTree}

/-- Where an artifact goes in the staging directory nothing is yet. -/
theorem missing_of_staysBelow
    (hfresh : (tree.makeDirectory sink.bundleRoot.dropLast).pathExists (sink.stagingRoot suffix) =
      false) (hbelow : StaysBelow sink suffix intents) :
    ∀ intent ∈ intents, (sink.stagingTree suffix tree).pathExists
      ((sink.stagingSink suffix).target intent) = false := by
  intro intent hintent
  obtain ⟨⟨rest, hrest⟩, hne⟩ := hbelow intent hintent
  have hnil : rest ≠ [] := by
    intro heq
    rw [heq, List.append_nil] at hrest
    exact hne hrest.symm
  rw [← hrest]
  exact pathExists_stagingTree hfresh hnil

/-- An artifact that stays below the staging directory is created there. -/
theorem planEntry_staging
    (hfresh : (tree.makeDirectory sink.bundleRoot.dropLast).pathExists (sink.stagingRoot suffix) =
      false) (hbelow : StaysBelow sink suffix intents) {intent : WriteIntent c}
    (hintent : intent ∈ intents) :
    (sink.stagingSink suffix).planEntry intent ((sink.stagingSink suffix).target intent)
        (sink.stagingTree suffix tree) =
      ({ intent, action := .create, existingHash := none,
         reason := "destination does not exist" }, []) :=
  (sink.stagingSink suffix).planEntry_missing (missing_of_staysBelow hfresh hbelow intent hintent)

theorem planIntents_staging (hroot : sink.bundleRoot ≠ [])
    (hready : (sink.base.plan intents tree).status = .ready)
    (hfresh : (tree.makeDirectory sink.bundleRoot.dropLast).pathExists (sink.stagingRoot suffix) =
      false) (hbelow : StaysBelow sink suffix intents) :
    ((sink.stagingSink suffix).planIntents (sink.stagingTree suffix tree) [] intents).2 = [] := by
  obtain ⟨hbase, hnodup, hkinds⟩ := base_targets hready
  refine planIntents_of_screened ?_ ?_ ?_ (by simp)
  · intro intent hintent
    obtain ⟨hkind, hnul⟩ := hkinds intent hintent
    exact FileSystemOutputSink.planTarget_inside _ rfl hnul (hbelow intent hintent).1 hkind
      List.mem_cons_self
  · intro intent hintent
    rw [planEntry_staging hfresh hbelow hintent]
  · rw [List.Nodup, List.pairwise_map] at hnodup ⊢
    refine hnodup.imp_of_mem ?_
    intro intent other hintent hother hne heq
    obtain ⟨rest, hrest, hrest'⟩ :=
      exists_rest_of_targets hroot (hbase intent hintent) (hbelow intent hintent).1
    obtain ⟨own, hown, hown'⟩ :=
      exists_rest_of_targets hroot (hbase other hother) (hbelow other hother).1
    rw [hrest', hown', List.append_cancel_left_eq] at heq
    exact hne (by rw [hrest, hown, heq])

/-- The staged plan is ready exactly when every destination stays below the staging directory. -/
theorem stagingPlan_ready_iff (hrequired : ∀ intent ∈ intents, intent.required = true)
    (hroot : sink.bundleRoot ≠ []) (hready : (sink.base.plan intents tree).status = .ready)
    (hfresh : (tree.makeDirectory sink.bundleRoot.dropLast).pathExists (sink.stagingRoot suffix) =
      false) :
    ((sink.stagingSink suffix).plan intents (sink.stagingTree suffix tree)).status = .ready ↔
      StaysBelow sink suffix intents := by
  have hlimit : (sink.stagingSink suffix).limitIssues intents = [] :=
    ((sink.base.plan_ready_iff intents tree).1 hready).1
  rw [FileSystemOutputSink.plan_ready_iff]
  constructor
  · rintro ⟨_, hissues⟩ intent hintent
    refine ⟨FileSystemOutputSink.target_below_of_ready _ rfl hissues intent hintent, ?_⟩
    intro heq
    -- the directory itself is there and no file, which a required artifact may not meet
    obtain ⟨hexists, hread⟩ := stagingTree_directory hfresh
    have hdecision := FileSystemOutputSink.decisions_of_ready _ hissues intent hintent
    simp [FileSystemOutputSink.planEntry, heq, hexists, hread, FileSystemOutputSink.requiredIssue,
      hrequired intent hintent] at hdecision
  · exact fun hbelow => ⟨hlimit, planIntents_staging hroot hready hfresh hbelow⟩

/-- The entry of an artifact that is to be created. -/
def createEntry (intent : WriteIntent c) : WritePlanEntry c where
  intent := intent
  action := .create
  reason := "destination does not exist"

@[simp] theorem createEntry_intent (intent : WriteIntent c) :
    (createEntry intent).intent = intent := rfl

theorem staging_entries (hroot : sink.bundleRoot ≠ [])
    (hready : (sink.base.plan intents tree).status = .ready)
    (hfresh : (tree.makeDirectory sink.bundleRoot.dropLast).pathExists (sink.stagingRoot suffix) =
      false) (hbelow : StaysBelow sink suffix intents) :
    ((sink.stagingSink suffix).plan intents (sink.stagingTree suffix tree)).entries =
      intents.map createEntry := by
  have hissues := planIntents_staging hroot hready hfresh hbelow
  rw [FileSystemOutputSink.plan_entries, FileSystemOutputSink.entries_of_ready _ hissues]
  refine List.map_congr_left fun intent hintent => ?_
  rw [planEntry_staging hfresh hbelow hintent]
  rfl

end

/-! ## The staged commit -/

/-- Frame: only targets of the entries change. -/
theorem stageEntries_lookup {faults : CommitFaults} {entries : List (WritePlanEntry c)}
    {tree : FileTree} {path : Path}
    (h : ∀ entry ∈ entries, path ≠ (sink.stagingSink faults.suffix).target entry.intent) :
    Table.lookup (sink.stageEntries faults entries tree).2 path = Table.lookup tree path := by
  induction entries generalizing tree with
  | nil => rfl
  | cons entry rest ih =>
      unfold stageEntries
      split
      · rfl
      · simp only
        rw [ih fun other hother => h other (List.mem_cons_of_mem _ hother)]
        exact FileSystemOutputSink.commitEntry_lookup _ (h entry List.mem_cons_self)

/-- Where nothing raises, the loop is the one of the plain sink. -/
theorem stageEntries_ok {faults : CommitFaults} {entries : List (WritePlanEntry c)}
    {tree : FileTree} {results : List CommitArtifactResult}
    (h : (sink.stageEntries faults entries tree).1 = .ok results) :
    (sink.stagingSink faults.suffix).commitEntries faults.write entries tree =
      (results, (sink.stageEntries faults entries tree).2) := by
  induction entries generalizing tree results with
  | nil =>
      cases h
      rfl
  | cons entry rest ih =>
      unfold stageEntries at h ⊢
      split at h
      · cases h
      · simp only at h
        obtain ⟨later, hlater, rfl⟩ := map_eq_ok.1 h
        simp only [FileSystemOutputSink.commitEntries, ih hlater]

/-- Artifacts that are not there yet, none above an earlier one, are written where nothing fails. -/
theorem commitEntries_creates {base : FileSystemOutputSink} (hmode : base.policy.mode = .write)
    (hatomic : base.policy.atomicWrites = true) {intents : List (WriteIntent c)} {tree : FileTree}
    (hmissing : ∀ intent ∈ intents, tree.pathExists (base.target intent) = false)
    (hapart : (intents.map base.target).Pairwise fun path other => ¬ other <+: path) :
    ∀ result ∈ (base.commitEntries (fun _ => none) (intents.map createEntry) tree).1,
      result.status = .written := by
  induction intents generalizing tree with
  | nil => exact List.forall_mem_nil _
  | cons intent rest ih =>
      rw [List.map_cons, List.pairwise_cons] at hapart
      have hcreate : base.commitEntry (createEntry intent) (fun _ => none) tree = _ :=
        base.commitEntry_create (fun _ => none) hmode hatomic rfl rfl
          (hmissing intent List.mem_cons_self)
      simp only [List.map_cons, FileSystemOutputSink.commitEntries, hcreate, createEntry_intent]
      refine List.forall_mem_cons.2 ⟨rfl, ih ?_ hapart.2⟩
      intro other hother
      exact FileTree.pathExists_writeFile_of_apart _ (hapart.1 _ (List.mem_map_of_mem hother))
        (hmissing other (List.mem_cons_of_mem _ hother))

/-- Where no target raises, the loop ends. -/
theorem stageEntries_calm {faults : CommitFaults} (hstage : ∀ path, faults.stage path = none)
    (entries : List (WritePlanEntry c)) (tree : FileTree) :
    (sink.stageEntries faults entries tree).1 =
      .ok ((sink.stagingSink faults.suffix).commitEntries faults.write entries tree).1 := by
  induction entries generalizing tree with
  | nil => rfl
  | cons entry rest ih =>
      simp only [stageEntries, hstage, ih, FileSystemOutputSink.commitEntries]
      rfl

theorem stageEntries_written {faults : CommitFaults} (hstage : ∀ path, faults.stage path = none)
    (hwrite : ∀ path, faults.write path = none) {intents : List (WriteIntent c)} {tree : FileTree}
    (hmissing : ∀ intent ∈ intents,
      tree.pathExists ((sink.stagingSink faults.suffix).target intent) = false)
    (hapart : (intents.map (sink.stagingSink faults.suffix).target).Pairwise
      fun path other => ¬ other <+: path) :
    ∃ results, (sink.stageEntries faults (intents.map createEntry) tree).1 = .ok results ∧
      ∀ result ∈ results, result.status = .written := by
  refine ⟨_, stageEntries_calm hstage _ tree, ?_⟩
  rw [show faults.write = fun _ => none from funext hwrite]
  exact commitEntries_creates rfl rfl hmissing hapart

/-- How the staged commit can end. -/
inductive Staged (sink : PacketBundleOutputSink) (intents : List (WriteIntent c))
    (faults : CommitFaults) : Except String CommitReceipt → FileTree → Prop
  | raised (exc : String) (staged : FileTree)
      (below : faults.step .readStaging = none → StaysBelow sink faults.suffix intents) :
      Staged sink intents faults (.error exc) staged
  | blocked (receipt : CommitReceipt) (staged : FileTree) (status : receipt.status ≠ .passed)
      (results : receipt.results = []) (read : faults.step .readStaging = none)
      (leaves : ¬ StaysBelow sink faults.suffix intents) :
      Staged sink intents faults (.ok receipt) staged
  | failed (receipt : CommitReceipt) (staged : FileTree) (status : receipt.status ≠ .passed)
      (results : ∃ result ∈ receipt.results, result.status = .failed)
      (below : StaysBelow sink faults.suffix intents) :
      Staged sink intents faults (.ok receipt) staged
  | passed (receipt : CommitReceipt) (staged : FileTree) (status : receipt.status = .passed)
      (below : StaysBelow sink faults.suffix intents)
      (files : ∀ rest content, staged.readFile? (sink.stagingRoot faults.suffix ++ rest) =
        some content ↔ ∃ intent ∈ intents, (sink.stagingSink faults.suffix).target intent =
          sink.stagingRoot faults.suffix ++ rest ∧ content = intent.artifact.content.toUTF8) :
      Staged sink intents faults (.ok receipt) staged
section

variable {intents : List (WriteIntent c)} {faults : CommitFaults} {tree : FileTree}
  {now : Timestamp}

/-- Staging changes nothing at the bundle. -/
theorem stageEntries_unchanged (hroot : sink.bundleRoot ≠ [])
    (hbelow : StaysBelow sink faults.suffix intents) :
    sink.Unchanged tree (sink.stageEntries faults (intents.map createEntry)
      (sink.stagingTree faults.suffix tree)).2 := by
  refine (unchanged_stagingTree hroot tree).trans fun path hpath => stageEntries_lookup ?_
  intro entry hentry heq
  obtain ⟨intent, hintent, rfl⟩ := List.mem_map.1 hentry
  exact not_below_staging hroot hpath (heq ▸ (hbelow intent hintent).1)

/-- The artifacts of a staged commit that has passed, and nothing else, are in the staging
    directory. -/
theorem staged_files (hroot : sink.bundleRoot ≠ [])
    (hready : (sink.base.plan intents tree).status = .ready)
    (hfresh : (tree.makeDirectory sink.bundleRoot.dropLast).pathExists
      (sink.stagingRoot faults.suffix) = false)
    (hbelow : StaysBelow sink faults.suffix intents) {results : List CommitArtifactResult}
    (hok : (sink.stageEntries faults (intents.map createEntry)
      (sink.stagingTree faults.suffix tree)).1 = .ok results)
    (hresults : ∀ result ∈ results, result.status ≠ .failed) (rest : Path) (content : ByteArray) :
    (sink.stageEntries faults (intents.map createEntry)
        (sink.stagingTree faults.suffix tree)).2.readFile?
          (sink.stagingRoot faults.suffix ++ rest) = some content ↔
      ∃ intent ∈ intents, (sink.stagingSink faults.suffix).target intent =
        sink.stagingRoot faults.suffix ++ rest ∧ content = intent.artifact.content.toUTF8 := by
  have hcommit := stageEntries_ok hok
  have hissues := planIntents_staging hroot hready hfresh hbelow
  have hnodup := (FileSystemOutputSink.targets_of_ready _ rfl hissues).1
  have hentries : ∀ entry ∈ intents.map createEntry,
      ((sink.stagingSink faults.suffix).commitEntries faults.write (intents.map createEntry)
        (sink.stagingTree faults.suffix tree)).2.readFile?
          ((sink.stagingSink faults.suffix).target entry.intent) =
        some entry.intent.artifact.content.toUTF8 := by
    refine FileSystemOutputSink.commitEntries_written _ rfl ?_ ?_ ?_
    · intro entry hentry
      obtain ⟨_, _, rfl⟩ := List.mem_map.1 hentry
      exact WriteAction.noConfusion
    · rw [List.map_map]
      exact hnodup
    · rw [hcommit]
      exact hresults
  rw [hcommit] at hentries
  have hwritten : ∀ intent ∈ intents, (sink.stageEntries faults (intents.map createEntry)
      (sink.stagingTree faults.suffix tree)).2.readFile?
        ((sink.stagingSink faults.suffix).target intent) =
      some intent.artifact.content.toUTF8 :=
    fun intent hintent => hentries (createEntry intent) (List.mem_map_of_mem hintent)
  constructor
  · intro hread
    by_contra hnone
    -- where no artifact goes the tree is as it was: empty below the directory
    have hother : ∀ entry ∈ intents.map createEntry, sink.stagingRoot faults.suffix ++ rest ≠
        (sink.stagingSink faults.suffix).target entry.intent := by
      intro entry hentry heq
      obtain ⟨intent, hintent, rfl⟩ := List.mem_map.1 hentry
      have hfound := hwritten intent hintent
      have htarget : (createEntry intent).intent = intent := rfl
      rw [htarget] at heq
      rw [← heq, hread, Option.some.injEq] at hfound
      exact hnone ⟨intent, hintent, heq.symm, hfound⟩
    rw [FileTree.readFile?_congr (stageEntries_lookup hother)] at hread
    by_cases hrest : rest = []
    · rw [hrest, List.append_nil, (stagingTree_directory hfresh).2] at hread
      cases hread
    · rw [FileTree.readFile?_of_not_pathExists (pathExists_stagingTree hfresh hrest)] at hread
      cases hread
  · rintro ⟨intent, hintent, htarget, hcontent⟩
    rw [← htarget, hcontent]
    exact hwritten intent hintent

theorem stageBundle_staged (hrequired : ∀ intent ∈ intents, intent.required = true)
    (hroot : sink.bundleRoot ≠ []) (hready : (sink.base.plan intents tree).status = .ready)
    (hfresh : (tree.makeDirectory sink.bundleRoot.dropLast).pathExists
      (sink.stagingRoot faults.suffix) = false) :
    sink.Unchanged tree
        (sink.stageBundle intents faults now (sink.stagingTree faults.suffix tree)).2 ∧
      Staged sink intents faults
        (sink.stageBundle intents faults now (sink.stagingTree faults.suffix tree)).1
        (sink.stageBundle intents faults now (sink.stagingTree faults.suffix tree)).2 := by
  have hiff := stagingPlan_ready_iff hrequired hroot hready hfresh
  unfold stageBundle
  cases hread : faults.step .readStaging with
  | some exc =>
      exact ⟨unchanged_stagingTree hroot tree, .raised exc _ fun h => by simp [hread] at h⟩
  | none =>
      by_cases hbelow : StaysBelow sink faults.suffix intents
      · have hplan := hiff.2 hbelow
        have hnotBlocked : ((sink.stagingSink faults.suffix).plan intents
            (sink.stagingTree faults.suffix tree)).status ≠ .blocked := by
          rw [hplan]
          decide
        simp only [if_neg hnotBlocked, staging_entries hroot hready hfresh hbelow]
        refine ⟨stageEntries_unchanged hroot hbelow, ?_⟩
        cases hresults : (sink.stageEntries faults (intents.map createEntry)
            (sink.stagingTree faults.suffix tree)).1 with
        | error exc => exact .raised exc _ fun _ => hbelow
        | ok results =>
            by_cases hfailed : ∀ result ∈ results, result.status ≠ .failed
            · refine .passed _ _ ?_ hbelow
                (staged_files hroot hready hfresh hbelow hresults hfailed)
              rw [makeCommitReceipt_status, commitStatus_eq_passed_iff]
              exact ⟨rfl, hplan, hfailed⟩
            · refine .failed _ _ ?_ ?_ hbelow
              · rw [makeCommitReceipt_status, Ne, commitStatus_eq_passed_iff]
                exact fun h => hfailed h.2.2
              · have hsome : ∃ result ∈ results, result.status = .failed := by
                  simpa using hfailed
                exact hsome
      · have hblocked : ((sink.stagingSink faults.suffix).plan intents
            (sink.stagingTree faults.suffix tree)).status = .blocked := by
          cases hstatus : ((sink.stagingSink faults.suffix).plan intents
            (sink.stagingTree faults.suffix tree)).status with
          | ready => exact absurd (hiff.1 hstatus) hbelow
          | blocked => rfl
        simp only [if_pos hblocked]
        refine ⟨unchanged_stagingTree hroot tree, .blocked _ _ ?_ rfl hread hbelow⟩
        rw [makeCommitReceipt_status, Ne, commitStatus_eq_passed_iff]
        exact fun h => absurd h.1 (by decide)

end

/-! ## The commit -/

/-- The commit gets as far as its staging directory: there is something to write, nothing in the
    way, and no call raises before. -/
structure Stages (sink : PacketBundleOutputSink) (intents : List (WriteIntent c))
    (faults : CommitFaults) (tree : FileTree) : Prop where
  mode : sink.mode = .write
  ready : (sink.base.plan intents tree).status = .ready
  mutates : ¬ ((sink.base.plan intents tree).entries.all fun entry => entry.action = .skip) = true
  absent : sink.rootExists tree = false
  calls : faults.first [.readDestinations, .probeRoot, .makeParent, .makeStaging] = none
  fresh : (tree.makeDirectory sink.bundleRoot.dropLast).pathExists
    (sink.stagingRoot faults.suffix) = false

/-- The commit gets as far as the rename: the staged commit passes, and no call raises up to it. -/
structure Replaces (sink : PacketBundleOutputSink) (intents : List (WriteIntent c))
    (faults : CommitFaults) (now : Timestamp) (tree : FileTree) : Prop where
  stages : Stages sink intents faults tree
  staged : ∃ receipt, (sink.stageBundle intents faults now
    (sink.stagingTree faults.suffix tree)).1 = .ok receipt ∧ receipt.status = .passed
  calls : faults.first [.verifyBundle, .syncTree, .replace] = none

/-- A dry run with something to write. -/
structure Rehearses (sink : PacketBundleOutputSink) (intents : List (WriteIntent c))
    (faults : CommitFaults) (tree : FileTree) : Prop where
  mode : sink.mode = .dryRun
  ready : (sink.base.plan intents tree).status = .ready
  mutates : ¬ ((sink.base.plan intents tree).entries.all fun entry => entry.action = .skip) = true
  calls : faults.step .readDestinations = none

theorem first_eq_none {faults : CommitFaults} {steps : List CommitStep} :
    faults.first steps = none ↔ ∀ step ∈ steps, faults.step step = none :=
  List.findSome?_eq_none_iff

section

variable {intents : List (WriteIntent c)} {faults : CommitFaults} {tree : FileTree}
  {now : Timestamp}

theorem Stages.root_ne_nil (h : Stages sink intents faults tree) : sink.bundleRoot ≠ [] := by
  intro heq
  have habsent := h.absent
  simp [rootExists, heq] at habsent

theorem Stages.root_free (h : Stages sink intents faults tree) :
    tree.pathExists sink.bundleRoot = false := by
  have habsent := h.absent
  rw [rootExists, Bool.or_eq_false_iff] at habsent
  exact habsent.2

/-- A commit that stages does nothing else before. -/
theorem commitSteps_of_stages (h : Stages sink intents faults tree) :
    sink.commitSteps intents faults now tree =
      match faults.step .probeStaging with
      | some exc => (.error exc, (sink.stageAndReplace (sink.base.plan intents tree) intents faults
          now (sink.stagingTree faults.suffix tree)).2)
      | none => (.ok (sink.stageAndReplace (sink.base.plan intents tree) intents faults now
            (sink.stagingTree faults.suffix tree)).1,
          (sink.stageAndReplace (sink.base.plan intents tree) intents faults now
            (sink.stagingTree faults.suffix tree)).2.removeTree (sink.stagingRoot faults.suffix)
              faults.leftover) := by
  have hcalls := first_eq_none.1 h.calls
  have hread := hcalls .readDestinations (by simp)
  have hprobe := hcalls .probeRoot (by simp)
  have hparent := hcalls .makeParent (by simp)
  have hstaging := hcalls .makeStaging (by simp)
  have hblocked : (sink.base.plan intents tree).status ≠ .blocked := by
    rw [h.ready]
    decide
  have hmode : sink.mode ≠ .dryRun := by
    rw [h.mode]
    decide
  cases hend : faults.step .probeStaging with
  | none =>
      simp only [commitSteps, publishBundle, hread, hprobe, hparent, hstaging, hend,
        if_neg hblocked, if_neg hmode, if_neg h.mutates, h.absent, h.fresh, Bool.false_eq_true,
        if_false]
  | some exc =>
      simp only [commitSteps, publishBundle, hread, hprobe, hparent, hstaging, hend,
        if_neg hblocked, if_neg hmode, if_neg h.mutates, h.absent, h.fresh, Bool.false_eq_true,
        if_false]

/-- A dry run leaves the tree alone and skips every entry. -/
theorem commitEntries_dryRun {base : FileSystemOutputSink} (hmode : base.policy.mode = .dryRun)
    (faults : WriteFaults) (entries : List (WritePlanEntry c)) (tree : FileTree) :
    (base.commitEntries faults entries tree).2 = tree ∧
      ∀ result ∈ (base.commitEntries faults entries tree).1, result.status = .skipped := by
  induction entries generalizing tree with
  | nil => simp [FileSystemOutputSink.commitEntries]
  | cons entry rest ih =>
      simp only [FileSystemOutputSink.commitEntries, FileSystemOutputSink.commitEntry, if_pos hmode]
      obtain ⟨hsame, hskipped⟩ := ih tree
      refine ⟨hsame, ?_⟩
      intro result hresult
      rcases List.mem_cons.1 hresult with rfl | hresult
      · rfl
      · exact hskipped result hresult

/-- What a dry run of a ready plan ends in. -/
theorem commitSteps_dryRun (hmode : sink.mode = .dryRun)
    (hready : (sink.base.plan intents tree).status = .ready)
    (hcalls : faults.step .readDestinations = none) :
    sink.commitSteps intents faults now tree = (.ok (makeCommitReceipt c
      (sink.base.plan intents tree) (sink.base.commitEntries faults.write
        (sink.base.plan intents tree).entries tree).1 false now), tree) := by
  have hbase : sink.base.policy.mode = .dryRun := hmode
  have hblocked : (sink.base.plan intents tree).status ≠ .blocked := by
    rw [hready]
    decide
  simp only [commitSteps, hcalls, if_neg hblocked, if_pos hmode, FileSystemOutputSink.commitPlan,
    (commitEntries_dryRun hbase faults.write _ tree).1]

theorem dryRun_passed (hmode : sink.mode = .dryRun)
    (hready : (sink.base.plan intents tree).status = .ready) :
    (makeCommitReceipt c (sink.base.plan intents tree) (sink.base.commitEntries faults.write
      (sink.base.plan intents tree).entries tree).1 false now).status = .passed := by
  have hbase : sink.base.policy.mode = .dryRun := hmode
  rw [makeCommitReceipt_status, commitStatus_eq_passed_iff]
  refine ⟨rfl, hready, ?_⟩
  intro result hresult
  rw [(commitEntries_dryRun hbase faults.write _ tree).2 result hresult]
  decide

/-- What a commit may end in when nothing has changed. -/
def Refused (sink : PacketBundleOutputSink) (intents : List (WriteIntent c)) (tree : FileTree)
    (answer : Except String CommitReceipt) : Prop :=
  ∀ receipt, answer = .ok receipt → receipt.status = .passed →
    (∀ result ∈ receipt.results, result.status = .skipped) ∧ sink.base.InPlace intents tree

theorem refused_error (exc : String) : Refused sink intents tree (.error exc) :=
  fun _ h => nomatch h

theorem refused_of_status {receipt : CommitReceipt} (h : receipt.status ≠ .passed) :
    Refused sink intents tree (.ok receipt) := by
  intro other heq hstatus
  rw [← Except.ok.inj heq] at hstatus
  exact absurd hstatus h

/-- A dry run with nothing to write finds the bundle in place. -/
theorem commitSteps_of_dryRun (hrequired : ∀ intent ∈ intents, intent.required = true)
    (hmode : sink.mode = .dryRun) (hready : (sink.base.plan intents tree).status = .ready)
    (hcalls : faults.step .readDestinations = none) (h : ¬ Rehearses sink intents faults tree) :
    sink.Unchanged tree (sink.commitSteps intents faults now tree).2 ∧
      Refused sink intents tree (sink.commitSteps intents faults now tree).1 := by
  have hskip : ((sink.base.plan intents tree).entries.all fun entry => entry.action = .skip) =
      true := by
    by_contra hmutates
    exact h ⟨hmode, hready, hmutates, hcalls⟩
  have hissues := ((sink.base.plan_ready_iff intents tree).1 hready).2
  rw [commitSteps_dryRun hmode hready hcalls]
  refine ⟨unchanged_refl tree, fun receipt hreceipt _ => ⟨?_, ?_⟩⟩
  · rw [← Except.ok.inj hreceipt]
    exact (commitEntries_dryRun hmode faults.write _ tree).2
  · exact sink.inPlace_of_all_skip hrequired hissues hskip

/-- A commit that neither stages nor rehearses changes nothing, and passes only where it may. -/
theorem commitSteps_of_not_stages (hrequired : ∀ intent ∈ intents, intent.required = true)
    (h : ¬ Stages sink intents faults tree) (hdry : ¬ Rehearses sink intents faults tree) :
    sink.Unchanged tree (sink.commitSteps intents faults now tree).2 ∧
      Refused sink intents tree (sink.commitSteps intents faults now tree).1 := by
  have hsame : sink.Unchanged tree tree := unchanged_refl tree
  unfold commitSteps
  cases hread : faults.step .readDestinations with
  | some exc => exact ⟨hsame, refused_error exc⟩
  | none =>
      cases hstatus : (sink.base.plan intents tree).status with
      | blocked =>
          simp only [hstatus, if_true]
          refine ⟨hsame, refused_of_status ?_⟩
          rw [makeCommitReceipt_status, Ne, commitStatus_eq_passed_iff]
          exact fun hpassed => absurd hpassed.1 (by decide)
      | ready =>
          have hissues := ((sink.base.plan_ready_iff intents tree).1 hstatus).2
          cases hmode : sink.mode with
          | dryRun =>
              have hended : sink.Unchanged tree (sink.commitSteps intents faults now tree).2 ∧
                  Refused sink intents tree (sink.commitSteps intents faults now tree).1 :=
                commitSteps_of_dryRun hrequired hmode hstatus hread hdry
              simpa only [commitSteps, hread, hstatus, hmode, reduceCtorEq, if_false, if_true]
                using hended
          | write =>
              simp only [hstatus, reduceCtorEq, if_false]
              split
              · next hskip =>
                  refine ⟨hsame, fun receipt hreceipt _ => ⟨?_, ?_⟩⟩
                  · rw [← Except.ok.inj hreceipt]
                    intro result hresult
                    obtain ⟨entry, -, rfl⟩ := List.mem_map.1 hresult
                    rfl
                  · exact sink.inPlace_of_all_skip hrequired hissues hskip
              · next hmutates =>
                  split
                  · exact ⟨hsame, refused_error _⟩
                  · next hprobe =>
                      split
                      · exact ⟨hsame, refused_of_status (failed_receipt_not_passed _ _ hmutates)⟩
                      · next habsent =>
                          have hroot : sink.bundleRoot ≠ [] := by
                            intro heq
                            simp [rootExists, heq] at habsent
                          have hparent : sink.Unchanged tree
                              (tree.makeDirectory sink.bundleRoot.dropLast) :=
                            unchanged_makeParent hroot tree
                          unfold publishBundle
                          simp only
                          split
                          · exact ⟨hsame, refused_error _⟩
                          · exact ⟨hparent, refused_error _⟩
                          · next hmakeParent hmakeStaging =>
                              split
                              · exact ⟨hparent, refused_error _⟩
                              · next hfresh =>
                                  refine absurd ?_ h
                                  exact {
                                    mode := hmode
                                    ready := hstatus
                                    mutates := hmutates
                                    absent := by simpa using habsent
                                    calls := first_eq_none.2 (by
                                      simp [hread, hprobe, hmakeParent, hmakeStaging])
                                    fresh := by simpa using hfresh }

/-- There is something to write. -/
theorem Stages.exists_intent (h : Stages sink intents faults tree) : ∃ intent, intent ∈ intents := by
  cases intents with
  | nil => exact absurd rfl h.mutates
  | cons intent rest => exact ⟨intent, List.mem_cons_self⟩

/-- A bundle that was not there before is a change. -/
theorem Stages.not_holdsBundle (h : Stages sink intents faults tree) {tree' : FileTree}
    (hsame : sink.Unchanged tree tree') : ¬ sink.HoldsBundle intents tree' := by
  intro hholds
  obtain ⟨intent, hintent⟩ := h.exists_intent
  have hbelow := (base_targets h.ready).1 intent hintent
  have hread := (hholds _ hbelow _).2 ⟨intent, hintent, rfl, rfl⟩
  have hfree := pathExists_eq_false_iff.1 (hsame.pathExists h.root_free) _ hbelow
  simp [FileTree.readFile?, hfree] at hread

/-- The rename puts the staged bundle in place. -/
theorem holdsBundle_replaceTree (h : Stages sink intents faults tree) {staged : FileTree}
    (hsame : sink.Unchanged tree staged) (hbelow : StaysBelow sink faults.suffix intents)
    (hfiles : ∀ rest content, staged.readFile? (sink.stagingRoot faults.suffix ++ rest) =
      some content ↔ ∃ intent ∈ intents, (sink.stagingSink faults.suffix).target intent =
        sink.stagingRoot faults.suffix ++ rest ∧ content = intent.artifact.content.toUTF8) :
    sink.HoldsBundle intents
      (staged.replaceTree (sink.stagingRoot faults.suffix) sink.bundleRoot) := by
  intro path hpath content
  obtain ⟨rest, rfl⟩ := hpath
  rw [FileTree.readFile?_replaceTree (hsame.pathExists h.root_free), hfiles]
  refine exists_congr fun intent => and_congr_right fun hintent => and_congr_left' ?_
  obtain ⟨own, hbase, hstaging⟩ := exists_rest_of_targets h.root_ne_nil
    ((base_targets h.ready).1 intent hintent) (hbelow intent hintent).1
  rw [hbase, hstaging, List.append_cancel_left_eq, List.append_cancel_left_eq]

/-- A failed result is no passed receipt. -/
theorem receipt_not_passed {plan : WritePlan c} {results : List CommitArtifactResult}
    (h : ∃ result ∈ results, result.status = .failed) :
    (makeCommitReceipt c plan results false now).status ≠ .passed := by
  rw [makeCommitReceipt_status, Ne, commitStatus_eq_passed_iff]
  intro hpassed
  obtain ⟨result, hresult, hfailed⟩ := h
  exact hpassed.2.2 result hresult hfailed

/-- What staging and renaming do. -/
structure Staying (sink : PacketBundleOutputSink) (intents : List (WriteIntent c))
    (faults : CommitFaults) (tree : FileTree) (outcome : CommitReceipt × FileTree) : Prop where
  same : sink.Unchanged tree outcome.2
  answer : Refused sink intents tree (.ok outcome.1) ↔
    (faults.step .readStaging = none → StaysBelow sink faults.suffix intents)

theorem stageAndReplace_of_not_replaces (hrequired : ∀ intent ∈ intents, intent.required = true)
    (h : Stages sink intents faults tree) (hnot : ¬ Replaces sink intents faults now tree) :
    Staying sink intents faults tree (sink.stageAndReplace (sink.base.plan intents tree) intents
      faults now (sink.stagingTree faults.suffix tree)) := by
  have hbundle : _ ∧ Staged sink intents faults (sink.stageBundle intents faults now
      (sink.stagingTree faults.suffix tree)).1 _ :=
    stageBundle_staged hrequired h.root_ne_nil h.ready h.fresh
  obtain ⟨hsame, hstaged⟩ := hbundle
  have hreplaces : (∃ receipt, (sink.stageBundle intents faults now
      (sink.stagingTree faults.suffix tree)).1 = .ok receipt ∧ receipt.status = .passed) →
      faults.first [.verifyBundle, .syncTree, .replace] ≠ none :=
    fun hpassed hcalls => hnot ⟨h, hpassed, hcalls⟩
  unfold stageAndReplace
  generalize sink.stageBundle intents faults now (sink.stagingTree faults.suffix tree) = bundle
    at hsame hstaged hreplaces ⊢
  obtain ⟨answer, staged⟩ := bundle
  have hfailed : ∀ message, Refused sink intents tree
      (.ok (failedReceipt (sink.base.plan intents tree) message now)) :=
    fun message => refused_of_status (failed_receipt_not_passed message now h.mutates)
  cases hstaged with
  | raised exc _ hbelow => exact ⟨hsame, fun _ => hbelow, fun _ => hfailed exc⟩
  | blocked receipt _ hstatus hresults hread hleaves =>
      simp only [if_pos hstatus, hresults]
      refine ⟨hsame, ?_, fun himplies => absurd (himplies hread) hleaves⟩
      intro hrefused
      -- without a result the receipt passes, though nothing was written
      have hpassed : (makeCommitReceipt c (sink.base.plan intents tree) [] false now).status =
          .passed := by
        rw [makeCommitReceipt_status, commitStatus_eq_passed_iff]
        exact ⟨rfl, h.ready, by simp⟩
      obtain ⟨_, hplace⟩ := hrefused _ rfl hpassed
      obtain ⟨intent, hintent⟩ := h.exists_intent
      have hfound := hplace intent hintent
      have hbelow := (base_targets h.ready).1 intent hintent
      have hfree := pathExists_eq_false_iff.1 h.root_free _ hbelow
      simp [FileTree.readFile?, hfree] at hfound
  | failed receipt _ hstatus hresults hbelow =>
      simp only [if_pos hstatus]
      exact ⟨hsame, fun _ _ => hbelow, fun _ => refused_of_status (receipt_not_passed hresults)⟩
  | passed receipt _ hstatus hbelow _ =>
      have hcalls := hreplaces ⟨receipt, rfl, hstatus⟩
      obtain ⟨exc, hexc⟩ := Option.ne_none_iff_exists'.1 hcalls
      simp only [hstatus, ne_eq, not_true_eq_false, if_false, hexc]
      exact ⟨hsame, fun _ _ => hbelow, fun _ => hfailed exc⟩

theorem committed_receipt_passed {plan : WritePlan c} (hready : plan.status = .ready) :
    (makeCommitReceipt c plan (committedResults plan) false now).status = .passed := by
  rw [makeCommitReceipt_status, commitStatus_eq_passed_iff]
  refine ⟨rfl, hready, ?_⟩
  intro result hresult
  obtain ⟨entry, -, rfl⟩ := List.mem_map.1 hresult
  split <;> exact ResultStatus.noConfusion

/-- What is done once the bundle has been renamed. -/
structure Published (sink : PacketBundleOutputSink) (intents : List (WriteIntent c))
    (faults : CommitFaults) (outcome : CommitReceipt × FileTree) : Prop where
  holds : sink.HoldsBundle intents outcome.2
  status : outcome.1.status = .passed ↔
    faults.first [.openParent, .syncParent, .closeParent] = none
  below : StaysBelow sink faults.suffix intents

theorem stageAndReplace_of_replaces (hrequired : ∀ intent ∈ intents, intent.required = true)
    (h : Replaces sink intents faults now tree) :
    Published sink intents faults (sink.stageAndReplace (sink.base.plan intents tree) intents
      faults now (sink.stagingTree faults.suffix tree)) := by
  have hstages := h.stages
  have hbundle : _ ∧ Staged sink intents faults (sink.stageBundle intents faults now
      (sink.stagingTree faults.suffix tree)).1 _ :=
    stageBundle_staged hrequired hstages.root_ne_nil hstages.ready hstages.fresh
  obtain ⟨hsame, hstaged⟩ := hbundle
  obtain ⟨passed, hpassed, hstatus⟩ := h.staged
  unfold stageAndReplace
  generalize sink.stageBundle intents faults now (sink.stagingTree faults.suffix tree) = bundle
    at hsame hstaged hpassed ⊢
  obtain ⟨answer, staged⟩ := bundle
  simp only at hpassed
  subst hpassed
  cases hstaged with
  | blocked _ _ hnot => exact absurd hstatus hnot
  | failed _ _ hnot => exact absurd hstatus hnot
  | passed _ _ _ hbelow hfiles =>
      have hholds := holdsBundle_replaceTree hstages hsame hbelow hfiles
      simp only [hstatus, ne_eq, not_true_eq_false, if_false, h.calls]
      cases hcalls : faults.first [.openParent, .syncParent, .closeParent] with
      | none =>
          exact ⟨hholds, iff_of_true (committed_receipt_passed hstages.ready) hcalls, hbelow⟩
      | some exc =>
          have hfailed := failed_receipt_not_passed exc now hstages.mutates
          exact ⟨hholds, iff_of_false hfailed (by simp [hcalls]), hbelow⟩

theorem commitsAtomically_iff : sink.CommitsAtomically intents faults now tree ↔
    (sink.Unchanged tree (sink.commitSteps intents faults now tree).2 ∧
      Refused sink intents tree (sink.commitSteps intents faults now tree).1) ∨
    (sink.HoldsBundle intents (sink.commitSteps intents faults now tree).2 ∧
      faults.step .verifyBundle = none ∧
      ∃ receipt, (sink.commitSteps intents faults now tree).1 = .ok receipt ∧
        receipt.status = .passed) := Iff.rfl

/-- A failed or blocked receipt of an atomic commit stands for an unchanged bundle. -/
theorem unchanged_of_not_passed (h : sink.CommitsAtomically intents faults now tree)
    {receipt : CommitReceipt} (hanswer : (sink.commitSteps intents faults now tree).1 = .ok receipt)
    (hstatus : receipt.status ≠ .passed) :
    sink.Unchanged tree (sink.commitSteps intents faults now tree).2 := by
  rcases commitsAtomically_iff.1 h with ⟨hsame, _⟩ | ⟨_, _, other, hother, hpassed⟩
  · exact hsame
  · rw [hanswer, Except.ok.injEq] at hother
    exact absurd (hother ▸ hpassed) hstatus

/-- After the rename every call counts. -/
theorem atomic_iff_of_replaces (hrequired : ∀ intent ∈ intents, intent.required = true)
    (h : Replaces sink intents faults now tree) :
    sink.CommitsAtomically intents faults now tree ↔
      faults.first [.openParent, .syncParent, .closeParent, .probeStaging] = none := by
  have hstages := h.stages
  have hverified := first_eq_none.1 h.calls .verifyBundle (by simp)
  rw [commitsAtomically_iff, commitSteps_of_stages hstages]
  have hpublished := stageAndReplace_of_replaces hrequired h
  generalize sink.stageAndReplace (sink.base.plan intents tree) intents faults now
    (sink.stagingTree faults.suffix tree) = outcome at hpublished ⊢
  obtain ⟨receipt, tree'⟩ := outcome
  obtain ⟨hholds, hstatus, _⟩ := hpublished
  simp only at hholds hstatus
  cases hprobe : faults.step .probeStaging with
  | some exc =>
      have hchanged : ¬ sink.Unchanged tree tree' :=
        fun hsame => hstages.not_holdsBundle hsame hholds
      simp [hchanged, first_eq_none, hprobe]
  | none =>
      have hremoved : sink.Unchanged tree'
          (tree'.removeTree (sink.stagingRoot faults.suffix) faults.leftover) :=
        unchanged_removeTree hstages.root_ne_nil tree' faults.leftover
      have hholds' := hremoved.holdsBundle.2 hholds
      have hchanged : ¬ sink.Unchanged tree
          (tree'.removeTree (sink.stagingRoot faults.suffix) faults.leftover) :=
        fun hsame => hstages.not_holdsBundle hsame hholds'
      rw [first_eq_none] at hstatus
      simpa [hchanged, hholds', hverified, first_eq_none, hprobe] using hstatus

/-- Without the rename only a staged plan that is blocked counts. -/
theorem atomic_iff_of_not_replaces (hrequired : ∀ intent ∈ intents, intent.required = true)
    (hstages : Stages sink intents faults tree) (hnot : ¬ Replaces sink intents faults now tree) :
    sink.CommitsAtomically intents faults now tree ↔
      (faults.first [.readStaging, .probeStaging] = none →
        StaysBelow sink faults.suffix intents) := by
  rw [commitsAtomically_iff, commitSteps_of_stages hstages]
  have hstaying := stageAndReplace_of_not_replaces hrequired hstages hnot
  generalize sink.stageAndReplace (sink.base.plan intents tree) intents faults now
    (sink.stagingTree faults.suffix tree) = outcome at hstaying ⊢
  obtain ⟨receipt, tree'⟩ := outcome
  obtain ⟨hsame, hanswer⟩ := hstaying
  simp only at hsame hanswer
  cases hprobe : faults.step .probeStaging with
  | some exc => simp [hsame, refused_error, first_eq_none, hprobe]
  | none =>
      have hsame' : sink.Unchanged tree
          (tree'.removeTree (sink.stagingRoot faults.suffix) faults.leftover) :=
        hsame.trans (unchanged_removeTree hstages.root_ne_nil tree' faults.leftover)
      have hholds' := hstages.not_holdsBundle hsame'
      simpa [hsame', hholds', first_eq_none, hprobe] using hanswer

/-- What is in place has nothing to write. -/
theorem all_skip_of_inPlace (hready : (sink.base.plan intents tree).status = .ready)
    (hplace : sink.base.InPlace intents tree) :
    ((sink.base.plan intents tree).entries.all fun entry => entry.action = .skip) = true := by
  have hissues := ((sink.base.plan_ready_iff intents tree).1 hready).2
  rw [FileSystemOutputSink.plan_entries, sink.base.entries_of_ready hissues, List.all_map,
    List.all_eq_true]
  intro intent hintent
  have hentry : sink.base.planEntry intent (sink.base.target intent) tree = _ :=
    sink.base.planEntry_unchanged (hplace intent hintent)
  simp [hentry]

/-- A dry run with something to write passes, and nothing is there. -/
theorem Rehearses.not_atomic (h : Rehearses sink intents faults tree) :
    ¬ sink.CommitsAtomically intents faults now tree := by
  have hmissing : ¬ sink.base.InPlace intents tree :=
    fun hplace => h.mutates (all_skip_of_inPlace h.ready hplace)
  rw [commitsAtomically_iff, commitSteps_dryRun h.mode h.ready h.calls]
  intro hatomic
  rcases hatomic with ⟨_, hrefused⟩ | ⟨hholds, _⟩
  · exact hmissing (hrefused _ rfl (dryRun_passed h.mode h.ready)).2
  · refine hmissing fun intent hintent => ?_
    have hread := (hholds _ ((base_targets h.ready).1 intent hintent) _).2
      ⟨intent, hintent, rfl, rfl⟩
    rw [hread, Option.map_some, intent.artifact.contentHash_matches]

/-- A staged commit passes where nothing fails and no artifact is below another. -/
theorem stageBundle_passed (h : Stages sink intents faults tree)
    (hstage : ∀ path, faults.stage path = none) (hwrite : ∀ path, faults.write path = none)
    (hread : faults.step .readStaging = none)
    (hready : ((sink.stagingSink faults.suffix).plan intents
      (sink.stagingTree faults.suffix tree)).status = .ready)
    (hbelow : StaysBelow sink faults.suffix intents)
    (hapart : (intents.map (sink.stagingSink faults.suffix).target).Pairwise
      fun path other => ¬ other <+: path) :
    ∃ receipt, (sink.stageBundle intents faults now (sink.stagingTree faults.suffix tree)).1 =
      .ok receipt ∧ receipt.status = .passed := by
  obtain ⟨results, hresults, hwritten⟩ := stageEntries_written hstage hwrite
    (missing_of_staysBelow h.fresh hbelow) hapart
  have hblocked : ((sink.stagingSink faults.suffix).plan intents
      (sink.stagingTree faults.suffix tree)).status ≠ .blocked := by
    rw [hready]
    decide
  refine ⟨makeCommitReceipt c ((sink.stagingSink faults.suffix).plan intents
    (sink.stagingTree faults.suffix tree)) results false now, ?_, ?_⟩
  · simp only [stageBundle, hread, if_neg hblocked,
      staging_entries h.root_ne_nil h.ready h.fresh hbelow, hresults]
    rfl
  · rw [makeCommitReceipt_status, commitStatus_eq_passed_iff]
    refine ⟨rfl, hready, ?_⟩
    intro result hresult
    rw [hwritten result hresult]
    decide

/-- **Atomicity.** A commit is atomic exactly when it is no dry run with something to write; if it
    stages, every destination stays below the staging directory (unless a call raises that hides
    the blocked plan); and, if it renames, no call raises any more. -/
theorem commit_atomic_iff (sink : PacketBundleOutputSink) (intents : List (WriteIntent c))
    (faults : CommitFaults) (now : Timestamp) (tree : FileTree)
    (hrequired : ∀ intent ∈ intents, intent.required = true) :
    sink.CommitsAtomically intents faults now tree ↔
      ¬ Rehearses sink intents faults tree ∧
      (Stages sink intents faults tree → faults.first [.readStaging, .probeStaging] = none →
        StaysBelow sink faults.suffix intents) ∧
      (Replaces sink intents faults now tree →
        faults.first [.openParent, .syncParent, .closeParent, .probeStaging] = none) := by
  by_cases hdry : Rehearses sink intents faults tree
  · have hatomic : ¬ sink.CommitsAtomically intents faults now tree := hdry.not_atomic
    simp [hatomic, hdry]
  by_cases hstages : Stages sink intents faults tree
  · by_cases hreplaces : Replaces sink intents faults now tree
    · have hbelow := (stageAndReplace_of_replaces hrequired hreplaces).below
      simp [atomic_iff_of_replaces hrequired hreplaces, hdry, hreplaces, hbelow]
    · simp [atomic_iff_of_not_replaces hrequired hstages hreplaces, hdry, hreplaces, hstages]
  · have hreplaces : ¬ Replaces sink intents faults now tree := fun h => hstages h.stages
    have hrefused : sink.Unchanged tree (sink.commitSteps intents faults now tree).2 ∧
        Refused sink intents tree (sink.commitSteps intents faults now tree).1 :=
      commitSteps_of_not_stages hrequired hstages hdry
    simp [commitsAtomically_iff, hdry, hstages, hreplaces, hrefused]

end

/-! ## Two commits that are not atomic

A bundle of three files below `/out/bundle` whose parent cannot be synced, and an artifact that is
to be the bundle directory itself. -/

/-- A required artifact. -/
def packetIntent (c : Codec) (destination content : String)
    (h : normalizeSourcePath destination = .ok destination) : WriteIntent c where
  artifact :=
    { logicalId := destination
      destinationPath := destination
      artifactKind := .topologyPacket
      mediaType := "application/json"
      content := content
      contentHash := c.artifactHash content.toUTF8
      contentHash_matches := rfl
      destination_normalized := normalized_of_eq h }

theorem manifestJson_normalized : normalizeSourcePath "manifest.json" = .ok "manifest.json" := by
  rw [normalizeSourcePath_ok_iff]
  decide

theorem packetJson_normalized : normalizeSourcePath "packet.json" = .ok "packet.json" := by
  rw [normalizeSourcePath_ok_iff]
  decide

theorem emptyJson_normalized : normalizeSourcePath "empty.json" = .ok "empty.json" := by
  rw [normalizeSourcePath_ok_iff]
  decide

theorem dot_normalized : normalizeSourcePath "." = .ok "." := by
  rw [normalizeSourcePath_ok_iff]
  decide

def packetSink : PacketBundleOutputSink := { bundleRoot := ["out", "bundle"] }

/-- The artifacts of a bundle. -/
def bundleIntents (c : Codec) (manifest packet domain : String) : List (WriteIntent c) :=
  [packetIntent c "manifest.json" manifest manifestJson_normalized,
    packetIntent c "packet.json" packet packetJson_normalized,
    packetIntent c "empty.json" domain emptyJson_normalized]

/-- The last sync fails. -/
def unsyncedFaults : CommitFaults where
  step step := if step = .syncParent then some "Input/output error" else none
  suffix := "x1"

/-- An ordinary name is one component below the root of a sink. -/
theorem packetIntent_target {base : FileSystemOutputSink} {name content : String}
    (h : normalizeSourcePath name = .ok name) (hslash : '/' ∉ name.toList) (hempty : name ≠ "")
    (hdot : name ≠ ".") (hdots : name ≠ "..") :
    base.target (packetIntent c name content h) = base.outputRoot ++ [name] :=
  resolvePath_name hslash hempty hdot hdots

theorem bundleIntents_targets (base : FileSystemOutputSink) (manifest packet domain : String) :
    (bundleIntents c manifest packet domain).map base.target =
      [base.outputRoot ++ ["manifest.json"], base.outputRoot ++ ["packet.json"],
        base.outputRoot ++ ["empty.json"]] := by
  simp only [bundleIntents, List.map_cons, List.map_nil]
  rw [packetIntent_target manifestJson_normalized (by decide) (by decide) (by decide) (by decide),
    packetIntent_target packetJson_normalized (by decide) (by decide) (by decide) (by decide),
    packetIntent_target emptyJson_normalized (by decide) (by decide) (by decide) (by decide)]

theorem bundleIntents_below (base : FileSystemOutputSink) (manifest packet domain : String) :
    ∀ intent ∈ bundleIntents c manifest packet domain,
      base.outputRoot <+: base.target intent ∧ base.target intent ≠ base.outputRoot := by
  intro intent hintent
  have htarget : base.target intent ∈
      (bundleIntents c manifest packet domain).map base.target := List.mem_map_of_mem hintent
  rw [bundleIntents_targets] at htarget
  simp only [List.mem_cons, List.not_mem_nil, or_false] at htarget
  rcases htarget with h | h | h <;> rw [h] <;> simp

theorem bundleIntents_apart (base : FileSystemOutputSink) (manifest packet domain : String) :
    ((bundleIntents c manifest packet domain).map base.target).Pairwise
      fun path other => ¬ other <+: path := by
  rw [bundleIntents_targets]
  simp [List.prefix_append_right_inj]

theorem bundleIntents_kind (manifest packet domain : String) :
    ∀ intent ∈ bundleIntents c manifest packet domain,
      intent.artifact.artifactKind = .topologyPacket ∧ intent.required = true := by
  simp [bundleIntents, packetIntent]

theorem bundleIntents_paths (manifest packet domain : String) :
    ∀ intent ∈ bundleIntents c manifest packet domain,
      '\x00' ∉ intent.artifact.destinationPath.toList := by
  simp [bundleIntents, packetIntent]

/-- What the contents of a bundle amount to. -/
def bundleSize (manifest packet domain : String) : Nat :=
  manifest.toUTF8.size + packet.toUTF8.size + domain.toUTF8.size

theorem bundle_stages {manifest packet domain : String}
    (hsize : bundleSize manifest packet domain ≤ 268435456) :
    Stages packetSink (bundleIntents c manifest packet domain) unsyncedFaults Table.empty where
  mode := rfl
  ready := by
    have hbelow := bundleIntents_below (c := c) packetSink.base manifest packet domain
    refine (packetSink.base.plan_ready_iff _ _).2 ⟨?_, planIntents_of_screened ?_ ?_ ?_ (by simp)⟩
    · have hsum : ((bundleIntents c manifest packet domain).map
          fun intent => intent.artifact.content.toUTF8.size).sum ≤ 268435456 := by
        simpa [bundleIntents, packetIntent, bundleSize, Nat.add_assoc] using hsize
      have hcount : (bundleIntents c manifest packet domain).length ≤ 1000 := by
        simp [bundleIntents]
      have hbounds : packetSink.base.policy.maximumOutputCount = 1000 ∧
          packetSink.base.policy.maximumOutputBytes = 268435456 := ⟨rfl, rfl⟩
      rw [FileSystemOutputSink.limitIssues, hbounds.1, hbounds.2, if_neg (by omega),
        if_neg (by omega)]
      rfl
    · intro intent hintent
      refine FileSystemOutputSink.planTarget_inside _ rfl
        (bundleIntents_paths manifest packet domain intent hintent) (hbelow intent hintent).1 ?_
        List.mem_cons_self
      rw [(bundleIntents_kind manifest packet domain intent hintent).1]
      decide
    · intro intent hintent
      rw [packetSink.base.planEntry_missing rfl]
    · refine (bundleIntents_apart packetSink.base manifest packet domain).imp ?_
      intro path other hapart heq
      exact hapart (heq ▸ List.prefix_rfl)
  mutates := Bool.false_ne_true
  absent := rfl
  calls := rfl
  fresh := rfl

theorem bundle_replaces {manifest packet domain : String} (now : Timestamp)
    (hsize : bundleSize manifest packet domain ≤ 268435456) :
    Replaces packetSink (bundleIntents c manifest packet domain) unsyncedFaults now
      Table.empty where
  stages := bundle_stages hsize
  staged := by
    have hstages : Stages packetSink (bundleIntents c manifest packet domain) unsyncedFaults
      Table.empty := bundle_stages hsize
    have hbelow : StaysBelow packetSink "x1" (bundleIntents c manifest packet domain) :=
      bundleIntents_below (packetSink.stagingSink "x1") manifest packet domain
    have hready := (stagingPlan_ready_iff (fun intent hintent =>
      (bundleIntents_kind manifest packet domain intent hintent).2) hstages.root_ne_nil
      hstages.ready hstages.fresh).2 hbelow
    exact stageBundle_passed hstages (fun _ => rfl) (fun _ => rfl) rfl hready hbelow
      (bundleIntents_apart (packetSink.stagingSink "x1") manifest packet domain)
  calls := rfl

/-- When the bundle is committed. -/
def commitTime : Timestamp := ⟨"2026-01-01T00:00:00Z"⟩

/-- A run of which the condition can be read off: it renames, and the last sync fails. -/
theorem commit_atomic_iff_unsynced :
    packetSink.CommitsAtomically (bundleIntents textCodec "" "" "") unsyncedFaults commitTime
        Table.empty ↔
      ¬ Rehearses packetSink (bundleIntents textCodec "" "" "") unsyncedFaults Table.empty ∧
      (Stages packetSink (bundleIntents textCodec "" "" "") unsyncedFaults Table.empty →
        unsyncedFaults.first [.readStaging, .probeStaging] = none →
        StaysBelow packetSink unsyncedFaults.suffix (bundleIntents textCodec "" "" "")) ∧
      (Replaces packetSink (bundleIntents textCodec "" "" "") unsyncedFaults commitTime
          Table.empty →
        unsyncedFaults.first [.openParent, .syncParent, .closeParent, .probeStaging] = none) :=
  commit_atomic_iff packetSink _ unsyncedFaults commitTime Table.empty
    fun intent hintent => (bundleIntents_kind "" "" "" intent hintent).2

/-- The artifact that is to be the bundle directory itself. -/
def dotIntents (c : Codec) : List (WriteIntent c) := [packetIntent c "." "{}" dot_normalized]

/-- A commit in which nothing fails. -/
def calmFaults : CommitFaults := { suffix := "x1" }

theorem dot_target (base : FileSystemOutputSink) :
    ∀ intent ∈ dotIntents c, base.target intent = base.outputRoot := by
  intro intent hintent
  rw [dotIntents, List.mem_singleton] at hintent
  subst hintent
  have hsegments : pathSegments "." = ["."] := by decide
  simp [FileSystemOutputSink.target, packetIntent, resolvePath, hsegments, resolveSegment]

theorem dot_stages : Stages packetSink (dotIntents c) calmFaults Table.empty where
  mode := rfl
  ready := by
    refine (packetSink.base.plan_ready_iff _ _).2 ⟨rfl, planIntents_of_screened ?_ ?_ ?_ (by simp)⟩
    · intro intent hintent
      refine FileSystemOutputSink.planTarget_inside _ rfl ?_ ?_ ?_ List.mem_cons_self
      · rw [dotIntents, List.mem_singleton] at hintent
        subst hintent
        exact (by decide : '\x00' ∉ ".".toList)
      · exact (dot_target packetSink.base intent hintent).symm ▸ List.prefix_rfl
      · rw [dotIntents, List.mem_singleton] at hintent
        subst hintent
        exact List.mem_cons_self
    · intro intent hintent
      rw [packetSink.base.planEntry_missing rfl]
    · simp [dotIntents]
  mutates := Bool.false_ne_true
  absent := rfl
  calls := rfl
  fresh := rfl

theorem dot_leaves : ¬ StaysBelow packetSink "x1" (dotIntents c) := by
  intro hbelow
  exact (hbelow _ List.mem_cons_self).2 (dot_target _ _ List.mem_cons_self)

/-- A bundle that is renamed and cannot be synced is in place, with a failed receipt. The artifact
    that is to be the bundle directory is not staged, and its receipt passes. -/
theorem commit_not_atomic :
    (∀ (now : Timestamp) (manifest packet domain : String),
      bundleSize manifest packet domain ≤ 268435456 →
        ¬ packetSink.CommitsAtomically (bundleIntents textCodec manifest packet domain)
          unsyncedFaults now Table.empty) ∧
      ∀ now : Timestamp,
        ¬ packetSink.CommitsAtomically (dotIntents textCodec) calmFaults now Table.empty := by
  constructor
  · intro now manifest packet domain hsize
    rw [atomic_iff_of_replaces
      (fun intent hintent => (bundleIntents_kind manifest packet domain intent hintent).2)
      (bundle_replaces now hsize)]
    decide
  · intro now
    have hrequired : ∀ intent ∈ dotIntents textCodec, intent.required = true := by
      simp [dotIntents, packetIntent]
    have hreplaces : ¬ Replaces packetSink (dotIntents textCodec) calmFaults now Table.empty :=
      fun h => dot_leaves (stageAndReplace_of_replaces hrequired h).below
    rw [atomic_iff_of_not_replaces hrequired dot_stages hreplaces]
    exact fun h => dot_leaves (h rfl)

end PacketBundleOutputSink

end ConstellationTopology
