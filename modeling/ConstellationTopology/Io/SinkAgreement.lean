import ConstellationTopology.Io.MemoryOutputSink
import ConstellationTopology.Io.WriteContainment

set_option autoImplicit false

/-! # Two sinks over the same files

The in-memory sink finds a file by the text of its destination, the filesystem sink by the path the
text resolves to. Over the same regular files the two plans are alike exactly when no destination
is another name for something that is there, and the plan is blocked for a reason of its own or no
two destinations are names of one file (`plans_alike_iff`). -/

namespace ConstellationTopology

/-! ## Relative texts -/

/-- A segment that a text names: neither empty nor `.`, and without a slash. -/
structure FileName (name : String) : Prop where
  names : name ≠ "" ∧ name ≠ "."
  slash : '/' ∉ name.toList

/-- `path.relative_to(root).as_posix()`, for the names below the root. -/
def relativeText (names : List String) : String :=
  if names = [] then "." else String.intercalate "/" names

theorem pathSegments_relativeText {names : List String} (h : ∀ name ∈ names, FileName name) :
    pathSegments (relativeText names) = if names = [] then ["."] else names := by
  unfold relativeText
  split
  · decide
  · next hne => exact pathSegments_intercalate hne fun name hname => (h name hname).slash

/-! ## The same contents -/

/-- A component of a resolved path. -/
structure PlainName (name : String) : Prop extends FileName name where
  notParent : name ≠ ".."
  noNul : '\x00' ∉ name.toList

/-- Regular files below a root: stored under their relative texts, and on the disk. What else the
    disk holds outside the root, and whether the root itself exists, is left open. -/
structure SharedContents (root : Path) where
  storage : Table StoredFile.destination
  tree : FileTree
  stored_named : ∀ file ∈ storage.rows, ∃ names, names ≠ [] ∧ (∀ name ∈ names, PlainName name) ∧
    file.destination = relativeText names
  read_eq : ∀ names, names ≠ [] → (∀ name ∈ names, PlainName name) →
    tree.readFile? (root ++ names) =
      (Table.lookup storage (relativeText names)).map StoredFile.content

/-- A relative text does not start at the top. -/
theorem relativeText_head {names : List String} (hne : names ≠ [])
    (h : ∀ name ∈ names, FileName name) : (relativeText names).toList.head? ≠ some '/' := by
  have hsegments := pathSegments_relativeText h
  rw [if_neg hne] at hsegments
  have hkept : pathParts (relativeText names) = names := by
    rw [pathParts, hsegments, List.filter_eq_self]
    intro name hname
    simpa [namesSegment] using (h name hname).names
  have hpure : purePosixPath (relativeText names) = relativeText names := by
    rw [purePosixPath_eq, hkept, if_neg hne, relativeText, if_neg hne]
  rw [← hpure]
  exact relative_purePosixPath _

/-- A relative text resolves to the names it is made of. -/
theorem resolvePath_relativeText {root : Path} {names : List String} (hne : names ≠ [])
    (h : ∀ name ∈ names, PlainName name) :
    resolvePath root (relativeText names) = root ++ names := by
  have hfile : ∀ name ∈ names, FileName name := fun name hname => (h name hname).toFileName
  have hwalk : ∀ path : Path, names.foldl resolveSegment path = path ++ names := by
    clear hne hfile
    induction names with
    | nil => simp
    | cons name rest ih =>
        intro path
        obtain ⟨⟨hnames, -⟩, hparent, -⟩ := h name List.mem_cons_self
        have hstep : resolveSegment path name = path ++ [name] := by
          simp [resolveSegment, hnames.1, hnames.2, hparent]
        rw [List.foldl_cons, hstep, ih fun other hother => h other (List.mem_cons_of_mem _ hother),
          List.append_assoc, List.singleton_append]
  rw [resolvePath, pathSegments_relativeText hfile, if_neg hne,
    if_neg (relativeText_head hne hfile), hwalk]

theorem nul_notMem_relativeText {names : List String} (h : ∀ name ∈ names, PlainName name) :
    '\x00' ∉ (relativeText names).toList := by
  unfold relativeText
  split
  · decide
  · intro hnul
    rcases mem_intercalate hnul with hslash | ⟨name, hname, hmem⟩
    · exact absurd hslash (by decide)
    · exact (h name hname).noNul hmem

/-- Different names have different texts. -/
theorem relativeText_inj {names names' : List String} (hne : names ≠ []) (hne' : names' ≠ [])
    (h : ∀ name ∈ names, FileName name) (h' : ∀ name ∈ names', FileName name)
    (heq : relativeText names = relativeText names') : names = names' := by
  have hsegments := pathSegments_relativeText h
  rwa [heq, pathSegments_relativeText h', if_neg hne, if_neg hne', eq_comm] at hsegments

/-- The destination is a path that leads below the root. -/
def LeadsBelow (root : Path) (destination : String) : Prop :=
  '\x00' ∉ destination.toList ∧ root <+: resolvePath root destination

instance (root : Path) (destination : String) : Decidable (LeadsBelow root destination) :=
  inferInstanceAs (Decidable (_ ∧ _))

namespace SharedContents

/-- Files given by their names, as both sinks see them. -/
def ofFiles (root : Path) (files : List (List String × ByteArray))
    (hne : ∀ file ∈ files, file.1 ≠ [])
    (hplain : ∀ file ∈ files, ∀ name ∈ file.1, PlainName name)
    (hnodup : (files.map Prod.fst).Nodup) : SharedContents root where
  storage := ⟨files.map fun file => ⟨relativeText file.1, file.2⟩, by
    rw [List.map_map]
    refine List.Nodup.map_on ?_ hnodup.of_map
    intro file hfile other hother heq
    have hnames := relativeText_inj (hne file hfile) (hne other hother)
      (fun name hname => (hplain file hfile name hname).toFileName)
      (fun name hname => (hplain other hother name hname).toFileName) heq
    exact List.inj_on_of_nodup_map hnodup hfile hother hnames⟩
  tree := ⟨files.map fun file => ⟨root ++ file.1, .file file.2⟩, by
    rw [List.map_map]
    refine List.Nodup.map_on ?_ hnodup.of_map
    intro file hfile other hother heq
    exact List.inj_on_of_nodup_map hnodup hfile hother (List.append_cancel_left heq)⟩
  stored_named := by
    intro stored hstored
    obtain ⟨file, hfile, rfl⟩ := List.mem_map.1 hstored
    exact ⟨file.1, hne file hfile, hplain file hfile, rfl⟩
  read_eq := by
    intro names hnames hnamesPlain
    have hfile : ∀ content,
        (names, content) ∈ files ↔ ∃ file ∈ files, file.1 = names ∧ file.2 = content := by
      intro content
      exact ⟨fun h => ⟨_, h, rfl, rfl⟩, fun ⟨_, h, hfst, hsnd⟩ => hfst ▸ hsnd ▸ h⟩
    refine Option.ext fun content => ?_
    rw [FileTree.readFile?_eq_some_iff, Option.map_eq_some_iff]
    simp only [Table.lookup_eq_some_iff, List.mem_map, FileEntry.mk.injEq, FileNode.file.injEq,
      List.append_cancel_left_eq]
    rw [← hfile content]
    constructor
    · intro h
      exact ⟨⟨relativeText names, content⟩, ⟨⟨_, h, rfl⟩, rfl⟩, rfl⟩
    · rintro ⟨stored, ⟨⟨file, hmem, hstored⟩, htext⟩, hcontent⟩
      rw [← hstored] at htext hcontent
      have hnames' : file.1 = names := relativeText_inj (hne file hmem) hnames
        (fun name hname => (hplain file hmem name hname).toFileName)
        (fun name hname => (hnamesPlain name hname).toFileName) htext
      exact (hfile content).2 ⟨file, hmem, hnames', hcontent⟩

variable {root : Path} (contents : SharedContents root)

/-- A memory sink under the policy. -/
def memorySink (policy : WritePolicy) : MemoryOutputSink := ⟨policy, contents.storage⟩

/-- What is stored under a destination is the file that the destination resolves to. -/
theorem read_of_stored {policy : WritePolicy} {destination : String} {content : ByteArray}
    (h : (contents.memorySink policy).stored? destination = some content) :
    LeadsBelow root destination ∧
      contents.tree.readFile? (resolvePath root destination) = some content := by
  obtain ⟨file, hlookup, hcontent⟩ := Option.map_eq_some_iff.1 h
  obtain ⟨names, hne, hnames, htext⟩ := contents.stored_named file (Table.lookup_mem hlookup)
  have hkey : file.destination = destination := Table.lookup_key hlookup
  rw [hkey] at htext
  rw [htext, LeadsBelow, resolvePath_relativeText hne hnames]
  refine ⟨⟨nul_notMem_relativeText hnames, List.prefix_append _ _⟩, ?_⟩
  rw [contents.read_eq names hne hnames, ← htext]
  exact h

end SharedContents

/-! ## Alike plans -/

/-- What a plan says about an intent. -/
def WritePlanEntry.verdict {c : Codec} (entry : WritePlanEntry c) :
    WriteIntent c × WriteAction × String :=
  (entry.intent, entry.action, entry.reason)

/-- The same action and reason for every intent, and the same outcome. -/
structure PlansAlike {c : Codec} (plan plan' : WritePlan c) : Prop where
  verdicts : plan.entries.map WritePlanEntry.verdict = plan'.entries.map WritePlanEntry.verdict
  status : plan.status = plan'.status

/-! ## The filesystem sink's plan -/

namespace FileSystemOutputSink

variable {c : Codec} (sink : FileSystemOutputSink)

/-- The path a destination is planned for when containment is enforced. -/
def plannedPath (root : Path) (destination : String) : Path :=
  if LeadsBelow root destination then resolvePath root destination else root ++ ["__blocked__"]

/-- The in-memory sink of the same policy, with nothing stored. -/
def screen : MemoryOutputSink := { policy := sink.policy }

theorem leadsBelow_iff (henforce : sink.policy.enforcePathContainment = true)
    (destination : String) :
    LeadsBelow sink.outputRoot destination ↔
      sink.resolveDestination destination = .ok (resolvePath sink.outputRoot destination) := by
  simp [sink.resolveDestination_eq_ok, LeadsBelow, henforce]

theorem planTarget_path (henforce : sink.policy.enforcePathContainment = true)
    (intent : WriteIntent c) :
    (sink.planTarget intent).1 = plannedPath sink.outputRoot intent.artifact.destinationPath := by
  unfold plannedPath
  split
  · next hbelow => simp only [planTarget, (sink.leadsBelow_iff henforce _).1 hbelow]
  · next hnot =>
      cases hresolve : sink.resolveDestination intent.artifact.destinationPath with
      | error issue => simp only [planTarget, hresolve]
      | ok path =>
          obtain ⟨hnul, hbelow, -⟩ := sink.resolveDestination_eq_ok.1 hresolve
          exact absurd ⟨hnul, hbelow henforce⟩ hnot

theorem planTarget_issues_eq_nil_iff (henforce : sink.policy.enforcePathContainment = true)
    (intent : WriteIntent c) :
    (sink.planTarget intent).2 = [] ↔
      ¬ sink.screen.Unlisted intent ∧
        LeadsBelow sink.outputRoot intent.artifact.destinationPath := by
  have hscreen : ¬ sink.screen.Unlisted intent ↔
      intent.artifact.artifactKind ∈ sink.policy.allowedArtifactKinds ∧
        sink.allowedRoot intent.artifact.destinationPath = true := by
    rw [MemoryOutputSink.Unlisted, not_or, not_not, Bool.not_eq_false]
    rfl
  rw [hscreen, planTarget_issues, and_assoc]
  simp [sink.resolveDestination_eq_ok, LeadsBelow, henforce]

theorem planIntents_entries (tree : FileTree) (seen : List Path) (intents : List (WriteIntent c)) :
    (sink.planIntents tree seen intents).1 =
      intents.map fun intent => (sink.planEntry intent (sink.planTarget intent).1 tree).1 := by
  induction intents generalizing seen with
  | nil => rfl
  | cons intent rest ih => simp only [planIntents, ih, List.map_cons]

theorem planIntents_issues_eq_nil_iff (tree : FileTree) (seen : List Path)
    (intents : List (WriteIntent c)) :
    (sink.planIntents tree seen intents).2 = [] ↔
      (∀ intent ∈ intents, (sink.planTarget intent).2 = [] ∧
        (sink.planEntry intent (sink.planTarget intent).1 tree).2 = []) ∧
      (sink.policy.rejectCollisions = true →
        (intents.map fun intent => (sink.planTarget intent).1).Nodup ∧
          ∀ intent ∈ intents, (sink.planTarget intent).1 ∉ seen) := by
  induction intents generalizing seen with
  | nil => simp [planIntents]
  | cons intent rest ih =>
      rw [planIntents_cons_issues, ih]
      simp only [List.mem_cons, forall_eq_or_imp, List.map_cons, List.nodup_cons, List.mem_map,
        not_exists, not_and, not_or]
      grind

/-- A file is created exactly where nothing is. -/
theorem planEntry_create_iff (intent : WriteIntent c) (path : Path) (tree : FileTree) :
    (sink.planEntry intent path tree).1.action = .create ↔ tree.pathExists path = false := by
  constructor
  · intro h
    by_contra hexists
    rw [Bool.not_eq_false] at hexists
    unfold planEntry at h
    simp only [hexists, not_true_eq_false, if_false] at h
    split_ifs at h
  · intro hmissing
    rw [sink.planEntry_missing hmissing]

/-- Where the tree and the storage hold the same, the two sinks decide alike. -/
theorem planEntry_eq_memory {memory : MemoryOutputSink} (hpolicy : memory.policy = sink.policy)
    {intent : WriteIntent c} {path : Path} {tree : FileTree}
    (hread : tree.readFile? path = memory.stored? intent.artifact.destinationPath)
    (hexists : tree.pathExists path =
      (memory.stored? intent.artifact.destinationPath).isSome) :
    sink.planEntry intent path tree = memory.planEntry intent := by
  unfold planEntry MemoryOutputSink.planEntry
  rw [hread, hexists, hpolicy]
  cases hstored : memory.stored? intent.artifact.destinationPath with
  | none => simp [hstored]
  | some content => simp [hstored]

end FileSystemOutputSink

/-! ## Agreement -/

namespace SharedContents

variable {c : Codec} {root : Path} (contents : SharedContents root)

/-- A file system sink under the policy. -/
def fileSink (root : Path) (policy : WritePolicy) : FileSystemOutputSink := ⟨root, policy⟩

/-- Each destination is the text of a stored file, or nothing is where it would be written: at the
    path it resolves to, or at `__blocked__` when it leaves the root or is no path. -/
def FoundAlike (intents : List (WriteIntent c)) : Prop :=
  ∀ intent ∈ intents,
    (Table.lookup contents.storage intent.artifact.destinationPath).isSome = true ∨
      contents.tree.pathExists
        (FileSystemOutputSink.plannedPath root intent.artifact.destinationPath) = false

/-- The destinations are paths that stay below the root and, where the policy rejects collisions, resolve to
    different paths. -/
def OwnTargets (root : Path) (policy : WritePolicy) (intents : List (WriteIntent c)) : Prop :=
  (∀ intent ∈ intents, LeadsBelow root intent.artifact.destinationPath) ∧
    (policy.rejectCollisions = true →
      (intents.map fun intent => resolvePath root intent.artifact.destinationPath).Nodup)

section

variable {policy : WritePolicy} {intents : List (WriteIntent c)}
  (henforce : policy.enforcePathContainment = true)

include henforce

/-- What is found alike is decided alike. -/
theorem planEntry_of_foundAlike (h : contents.FoundAlike intents) {intent : WriteIntent c}
    (hmem : intent ∈ intents) :
    (fileSink root policy).planEntry intent ((fileSink root policy).planTarget intent).1
        contents.tree =
      (contents.memorySink policy).planEntry intent := by
  rw [(fileSink root policy).planTarget_path henforce]
  cases hstored : (contents.memorySink policy).stored? intent.artifact.destinationPath with
  | some content =>
      obtain ⟨hbelow, hread⟩ := contents.read_of_stored hstored
      have hpath : FileSystemOutputSink.plannedPath root intent.artifact.destinationPath =
          resolvePath root intent.artifact.destinationPath := if_pos hbelow
      refine FileSystemOutputSink.planEntry_eq_memory _ rfl ?_ ?_
      · exact (hpath ▸ hread).trans hstored.symm
      · rw [hstored]
        exact FileTree.pathExists_of_readFile? (hpath ▸ hread)
  | none =>
      have hmissing : contents.tree.pathExists
          (FileSystemOutputSink.plannedPath root intent.artifact.destinationPath) = false := by
        refine (h intent hmem).resolve_left fun hfound => ?_
        obtain ⟨file, hlookup⟩ := Option.isSome_iff_exists.1 hfound
        have hsome : (contents.memorySink policy).stored? intent.artifact.destinationPath =
            some file.content := by
          rw [MemoryOutputSink.stored?, memorySink, hlookup]
          rfl
        rw [hstored] at hsome
        cases hsome
      refine FileSystemOutputSink.planEntry_eq_memory _ rfl ?_ ?_
      · exact (FileTree.readFile?_of_not_pathExists hmissing).trans hstored.symm
      · rw [hstored]
        exact hmissing

theorem verdicts_of_foundAlike (h : contents.FoundAlike intents) :
    ((contents.memorySink policy).plan intents).entries =
      ((fileSink root policy).plan intents contents.tree).entries := by
  rw [MemoryOutputSink.plan_entries, FileSystemOutputSink.plan_entries,
    FileSystemOutputSink.planIntents_entries]
  refine List.map_congr_left fun intent hmem => ?_
  rw [contents.planEntry_of_foundAlike henforce h hmem]

/-- The in-memory sink creates whatever is not stored, so the filesystem sink has to as well. -/
theorem foundAlike_of_verdicts
    (h : ((contents.memorySink policy).plan intents).entries.map WritePlanEntry.verdict =
      ((fileSink root policy).plan intents contents.tree).entries.map WritePlanEntry.verdict) :
    contents.FoundAlike intents := by
  rw [MemoryOutputSink.plan_entries, FileSystemOutputSink.plan_entries,
    FileSystemOutputSink.planIntents_entries, List.map_map, List.map_map, List.map_inj_left] at h
  intro intent hmem
  rw [Option.isSome_iff_ne_none, ne_eq]
  by_cases hlookup : Table.lookup contents.storage intent.artifact.destinationPath = none
  · have hverdict := congrArg (fun verdict => verdict.2.1) (h intent hmem)
    have hstored : (contents.memorySink policy).stored? intent.artifact.destinationPath = none := by
      rw [MemoryOutputSink.stored?, memorySink, hlookup, Option.map_none]
    have hcreate : ((contents.memorySink policy).planEntry intent).1.action = .create := by
      simp [MemoryOutputSink.planEntry, hstored]
    have hmissing := (FileSystemOutputSink.planEntry_create_iff _ _ _ _).1
      (hverdict.symm.trans hcreate)
    rw [(fileSink root policy).planTarget_path henforce] at hmissing
    exact Or.inr hmissing
  · exact Or.inl hlookup

/-- The filesystem sink asks for more: that the destinations have targets of their own. -/
theorem fileSink_ready_iff (h : contents.FoundAlike intents) :
    ((fileSink root policy).plan intents contents.tree).status = .ready ↔
      ¬ (contents.memorySink policy).Blocked intents ∧ OwnTargets root policy intents := by
  have hlimits : (fileSink root policy).limitIssues intents = [] ↔
      ¬ (contents.memorySink policy).OverLimits intents :=
    (contents.memorySink policy).limitIssues_eq_nil_iff intents
  have hscreen := fun intent => (fileSink root policy).planTarget_issues_eq_nil_iff
    (c := c) henforce intent
  have hpaths : (∀ intent ∈ intents, LeadsBelow root intent.artifact.destinationPath) →
      (intents.map fun intent => ((fileSink root policy).planTarget intent).1) =
        intents.map fun intent => resolvePath root intent.artifact.destinationPath := by
    intro hbelow
    refine List.map_congr_left fun intent hmem => ?_
    rw [(fileSink root policy).planTarget_path henforce]
    exact if_pos (hbelow intent hmem)
  rw [FileSystemOutputSink.plan_ready_iff, hlimits,
    FileSystemOutputSink.planIntents_issues_eq_nil_iff]
  constructor
  · rintro ⟨hwithin, heach, hdistinct⟩
    have hbelow : ∀ intent ∈ intents, LeadsBelow root intent.artifact.destinationPath :=
      fun intent hmem => ((hscreen intent).1 (heach intent hmem).1).2
    have htargets : policy.rejectCollisions = true →
        (intents.map fun intent => resolvePath root intent.artifact.destinationPath).Nodup :=
      fun hreject => hpaths hbelow ▸ (hdistinct hreject).1
    refine ⟨?_, hbelow, htargets⟩
    rintro (hover | ⟨hreject, hrepeated⟩ | ⟨intent, hmem, hunlisted | hrefused⟩)
    · exact hwithin hover
    · have hnodup := htargets hreject
      rw [← Function.comp_def (resolvePath root), ← List.map_map] at hnodup
      exact hrepeated hnodup.of_map
    · exact ((hscreen intent).1 (heach intent hmem).1).1 hunlisted
    · have hdecision := (heach intent hmem).2
      rw [contents.planEntry_of_foundAlike henforce h hmem,
        MemoryOutputSink.planEntry_issues_eq_nil_iff] at hdecision
      exact hdecision hrefused
  · rintro ⟨hblocked, hbelow, htargets⟩
    refine ⟨fun hover => hblocked (Or.inl hover), ?_, ?_⟩
    · intro intent hmem
      refine ⟨(hscreen intent).2 ⟨fun hunlisted => ?_, hbelow intent hmem⟩, ?_⟩
      · exact hblocked (Or.inr (Or.inr ⟨intent, hmem, Or.inl hunlisted⟩))
      · rw [contents.planEntry_of_foundAlike henforce h hmem,
          MemoryOutputSink.planEntry_issues_eq_nil_iff]
        exact fun hrefused => hblocked (Or.inr (Or.inr ⟨intent, hmem, Or.inr hrefused⟩))
    · intro hreject
      rw [hpaths hbelow]
      exact ⟨htargets hreject, by simp⟩

/-- **The sinks plan alike** exactly when they find the same files, and either the policy blocks
    the intents whatever their destinations resolve to, or each destination has a target of its
    own below the root. -/
theorem plans_alike_iff :
    PlansAlike ((contents.memorySink policy).plan intents)
        ((fileSink root policy).plan intents contents.tree) ↔
      contents.FoundAlike intents ∧
        ((contents.memorySink policy).Blocked intents ∨ OwnTargets root policy intents) := by
  have hmemory := (contents.memorySink policy).plan_ready_iff intents
  constructor
  · rintro ⟨hverdicts, hstatus⟩
    have hfound := contents.foundAlike_of_verdicts henforce hverdicts
    refine ⟨hfound, or_iff_not_imp_left.2 fun hblocked => ?_⟩
    have hready := hstatus.symm.trans (hmemory.2 hblocked)
    exact ((contents.fileSink_ready_iff henforce hfound).1 hready).2
  · rintro ⟨hfound, hreason⟩
    have hfile := contents.fileSink_ready_iff henforce hfound
    refine ⟨congrArg _ (contents.verdicts_of_foundAlike henforce hfound), ?_⟩
    have hsame : ((contents.memorySink policy).plan intents).status = .ready ↔
        ((fileSink root policy).plan intents contents.tree).status = .ready := by
      rw [hmemory, hfile]
      exact ⟨fun hblocked => ⟨hblocked, hreason.resolve_left hblocked⟩, fun h => h.1⟩
    cases hm : ((contents.memorySink policy).plan intents).status <;>
      cases hf : ((fileSink root policy).plan intents contents.tree).status <;>
      simp [hm, hf] at hsame ⊢

end

/-! ## A directory in the way -/

theorem plainName_nested : ∀ name ∈ ["a", "b.txt"], PlainName name := by
  simp only [List.forall_mem_cons]
  exact ⟨⟨⟨by decide, by decide⟩, by decide, by decide⟩,
    ⟨⟨by decide, by decide⟩, by decide, by decide⟩, by simp⟩

/-- One file in one directory below `/out`. -/
def oneNested : SharedContents ["out"] :=
  ofFiles ["out"] [(["a", "b.txt"], ByteArray.empty)] (by simp)
    (by simpa only [List.mem_singleton, forall_eq] using plainName_nested) (by simp)

/-- Reports anywhere below the root. -/
def openPolicy : WritePolicy := { allowedArtifactKinds := [.humanReport] }

theorem directory_normalized : normalizeSourcePath "a" = .ok "a" :=
  normalizeSourcePath_name (by simp) (by simp) (by simp) (by simp) (by simp) (by simp)

/-- An intent whose destination is the directory itself. -/
def directoryIntent (c : Codec) : WriteIntent c :=
  FileSystemOutputSink.reportIntent c "a" directory_normalized

theorem plans_alike_directory :
    PlansAlike ((oneNested.memorySink openPolicy).plan [directoryIntent textCodec])
        ((fileSink ["out"] openPolicy).plan [directoryIntent textCodec] oneNested.tree) ↔
      oneNested.FoundAlike [directoryIntent textCodec] ∧
        ((oneNested.memorySink openPolicy).Blocked [directoryIntent textCodec] ∨
          OwnTargets ["out"] openPolicy [directoryIntent textCodec]) :=
  oneNested.plans_alike_iff rfl

/-- The directory `/out/a` is no file for the one sink and nothing at all for the other. -/
theorem plans_not_alike :
    ¬ ∀ (c : Codec) (root : Path) (contents : SharedContents root) (policy : WritePolicy)
      (intents : List (WriteIntent c)), policy.enforcePathContainment = true →
        PlansAlike ((contents.memorySink policy).plan intents)
          ((fileSink root policy).plan intents contents.tree) := by
  intro hclaim
  have h := hclaim textCodec _ oneNested openPolicy [directoryIntent textCodec] rfl
  have hfound := oneNested.foundAlike_of_verdicts rfl h.verdicts _ List.mem_cons_self
  revert hfound
  decide

end SharedContents

end ConstellationTopology
