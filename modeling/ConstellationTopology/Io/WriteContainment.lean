import ConstellationTopology.Io.FileSystemOutputSink
import ConstellationTopology.Library.JsonText
import ConstellationTopology.Run.NormalizedPath

set_option autoImplicit false

/-! # Where a commit writes

The policy of a sink lists the roots below which it may write. `_allowed_root` compares texts, the
write goes to the resolved path, so a destination that starts with an allowed root and then climbs
out of it is admitted. Writes stay in the allowed roots exactly when the segments behind the root
come back to it, or go over into another one (`plan_contained_iff`); without a `..` behind the root
they do (`plan_contained_of_plain`). -/

namespace ConstellationTopology

/-! ## Paths below a root, as texts -/

/-- A slash separates the segments before it from those behind it. -/
theorem pathSegments_append_slash (front : String) (behind : List Char) :
    pathSegments (String.ofList (front.toList ++ '/' :: behind)) =
      pathSegments front ++ pathSegments (String.ofList behind) := by
  simp only [pathSegments, String.toList_ofList, List.splitOn_append_cons_self, List.map_append]

/-- The test of `_allowed_root` on one root. -/
def underRoot (root destination : String) : Prop :=
  root = "." ∨ destination = root ∨ (root ++ "/").toList <+: destination.toList

theorem head_of_underRoot {root destination : String} (hdot : root ≠ ".")
    (hunder : underRoot root destination) (h : destination.toList.head? ≠ some '/') :
    root.toList.head? ≠ some '/' := by
  rcases hunder with hroot | rfl | ⟨behind, hbehind⟩
  · exact absurd hroot hdot
  · exact h
  · rw [← hbehind, String.toList_append, List.append_assoc] at h
    cases hchars : root.toList with
    | nil => simp
    | cons ch rest =>
        rw [hchars] at h
        exact h

/-- The segments of a destination start with those of the root that its text starts with. -/
theorem pathParts_prefix_of_underRoot {root destination : String} (hdot : root ≠ ".")
    (hunder : underRoot root destination) : pathParts root <+: pathParts destination := by
  rcases hunder with hroot | rfl | ⟨behind, hbehind⟩
  · exact absurd hroot hdot
  · exact List.prefix_rfl
  · have hsegments := pathSegments_append_slash root behind
    rw [← String.ofList_toList (s := destination), ← hbehind, String.toList_append,
      List.append_assoc]
    refine ⟨pathParts (String.ofList behind), ?_⟩
    rw [pathParts, pathParts, ← List.filter_append, ← hsegments]
    rfl

/-- The segments of a destination behind a root that its text starts with. -/
def segmentsBehind (root destination : String) : List String :=
  (pathParts destination).drop (pathParts root).length

/-- What these segments do to a walk that has come to the root. -/
def detourBehind (root destination : String) : Detour :=
  (segmentsBehind root destination).foldl Detour.enter Detour.stay

/-- A destination leads to where its segments behind the root lead from there. -/
theorem resolvePath_behind {place : Path} {root destination : String} (hdot : root ≠ ".")
    (hunder : underRoot root destination) (h : destination.toList.head? ≠ some '/') :
    resolvePath place destination =
      (detourBehind root destination).apply (resolvePath place root) := by
  obtain ⟨behind, hbehind⟩ := pathParts_prefix_of_underRoot hdot hunder
  rw [resolvePath_eq_foldl h, resolvePath_eq_foldl (head_of_underRoot hdot hunder h), detourBehind,
    segmentsBehind, ← hbehind, List.drop_left, List.foldl_append, Detour.foldl_enter_apply,
    Detour.apply_stay]

namespace FileSystemOutputSink

variable {c : Codec} (sink : FileSystemOutputSink)

/-! ## What a commit may mutate -/

/-- The targets that a commit of this plan may mutate. -/
def MayMutate (plan : WritePlan c) (path : Path) : Prop :=
  sink.policy.mode = .write ∧
    ∃ entry ∈ plan.entries, entry.action ≠ .skip ∧ sink.target entry.intent = path

/-- Whatever the tree has become since the plan and whatever fails, nothing else is mutated. -/
theorem commitEntries_confined {entries : List (WritePlanEntry c)} {faults : WriteFaults}
    {tree : FileTree} {path : Path}
    (h : ¬ (sink.policy.mode = .write ∧
      ∃ entry ∈ entries, entry.action ≠ .skip ∧ sink.target entry.intent = path)) :
    (sink.commitEntries faults entries tree).2.readFile? path = tree.readFile? path := by
  induction entries generalizing tree with
  | nil => rfl
  | cons entry rest ih =>
      have hrest : ¬ (sink.policy.mode = .write ∧
          ∃ entry ∈ rest, entry.action ≠ .skip ∧ sink.target entry.intent = path) := by
        rintro ⟨hmode, other, hother, hmutates⟩
        exact h ⟨hmode, other, List.mem_cons_of_mem _ hother, hmutates⟩
      simp only [commitEntries]
      rw [ih hrest]
      by_cases hpath : path = sink.target entry.intent
      · -- the entry's own target: then the entry does nothing
        unfold commitEntry
        cases hmode : sink.policy.mode with
        | dryRun => rfl
        | write =>
            have hskip : entry.action = .skip := by
              by_contra hne
              exact h ⟨hmode, entry, List.mem_cons_self, hne, hpath.symm⟩
            rw [if_neg (by decide), if_pos hskip]
      · exact sink.commitEntry_frame hpath

theorem commitPlan_confined {plan : WritePlan c} {faults : WriteFaults} {now : Timestamp}
    {tree : FileTree} {path : Path} (h : ¬ sink.MayMutate plan path) :
    (sink.commitPlan plan faults now tree).2.readFile? path = tree.readFile? path := by
  unfold commitPlan
  split
  · rfl
  · exact sink.commitEntries_confined h

/-- The intent would change its target: other content, and either nothing there or a replacement
    that the policy and the intent allow. -/
def Mutates (tree : FileTree) (intent : WriteIntent c) : Prop :=
  let existing := (tree.readFile? (sink.target intent)).map c.artifactHash
  existing ≠ some intent.artifact.contentHash ∧
    (tree.pathExists (sink.target intent) = false ∨
      existing ≠ none ∧ sink.policy.allowOverwrite = true ∧
        ¬ (sink.policy.requireExpectedHashForReplace = true ∧
          intent.expectedExistingHash = none) ∧
        ¬ (intent.expectedExistingHash ≠ none ∧ intent.expectedExistingHash ≠ existing))

theorem planEntry_mutates_iff {tree : FileTree} {intent : WriteIntent c} :
    (sink.planEntry intent (sink.target intent) tree).1.action ≠ .skip ↔
      sink.Mutates tree intent := by
  unfold planEntry Mutates
  simp only
  split
  · next hsame => simp [hsame]
  · next hdiff =>
      split
      · next hmissing => simp [hdiff, hmissing]
      · next hexists =>
          have hexists : tree.pathExists (sink.target intent) = true := by simpa using hexists
          split
          · next hfile => simp [hexists, hfile]
          · next hfile =>
              split
              · next hprohibited => simp [hexists, hprohibited]
              · next hallowed =>
                  split
                  · next hrequired => simp [hexists, hrequired]
                  · next hgiven =>
                      split
                      · next hmismatch => simp [hexists, hmismatch]
                      · next hmatch =>
                          simp only [ne_eq, reduceCtorEq, not_false_eq_true, true_iff]
                          exact ⟨hdiff, Or.inr ⟨hfile, not_not.1 hallowed, hgiven, hmatch⟩⟩

/-- The targets of a ready plan that a commit may mutate are those of the intents that would
    change theirs. -/
theorem mayMutate_iff {intents : List (WriteIntent c)} {tree : FileTree} {path : Path}
    (hready : (sink.plan intents tree).status = .ready) :
    sink.MayMutate (sink.plan intents tree) path ↔
      sink.policy.mode = .write ∧
        ∃ intent ∈ intents, sink.Mutates tree intent ∧ sink.target intent = path := by
  have hissues := ((sink.plan_ready_iff intents tree).1 hready).2
  have hintent : ∀ intent : WriteIntent c, ∀ tree : FileTree,
      (sink.planEntry intent (sink.target intent) tree).1.intent = intent := by
    intro intent tree
    unfold planEntry
    simp only
    split_ifs <;> rfl
  unfold MayMutate
  rw [plan_entries, sink.entries_of_ready hissues]
  simp only [List.mem_map, exists_exists_and_eq_and, sink.planEntry_mutates_iff, hintent]

/-! ## Containment -/

/-- The path lies in one of the allowed roots, which lie below the output root. -/
def InAllowedRoot (path : Path) : Prop :=
  ∃ root ∈ sink.policy.allowedOutputRoots, resolvePath sink.outputRoot root <+: path

/-- Behind a root that its text starts with, the destination first enters the names it has climbed
    out of, or it goes over into another allowed root. -/
def StaysBehind (destination root : String) : Prop :=
  let place := resolvePath sink.outputRoot root
  let detour := detourBehind root destination
  let left := place.length - detour.climbs
  place.drop left <+: detour.names ∨
    ∃ other ∈ sink.policy.allowedOutputRoots, other ≠ root ∧
      resolvePath sink.outputRoot other <+: place.take left ++ detour.names

/-- The whole output root is allowed, or the destination stays behind each allowed root that its text
    starts with. -/
def KeepsRoots (destination : String) : Prop :=
  "." ∈ sink.policy.allowedOutputRoots ∨
    ∀ root ∈ sink.policy.allowedOutputRoots, underRoot root destination →
      sink.StaysBehind destination root

theorem allowedRoot_iff {destination : String} :
    sink.allowedRoot destination = true ↔
      ∃ root ∈ sink.policy.allowedOutputRoots, underRoot root destination := by
  unfold allowedRoot underRoot
  simp only [List.any_eq_true, decide_eq_true_eq]

theorem inAllowedRoot_of_dot {path : Path} (hbelow : sink.outputRoot <+: path)
    (hdot : "." ∈ sink.policy.allowedOutputRoots) : sink.InAllowedRoot path := by
  have hroot : resolvePath sink.outputRoot "." = sink.outputRoot := by
    rw [resolvePath_eq_foldl (by decide), show pathParts "." = [] by decide, List.foldl_nil]
  exact ⟨".", hdot, hroot ▸ hbelow⟩

/-- Behind a root that its text starts with, a destination leads into an allowed root exactly when
    it stays there. -/
theorem inAllowedRoot_iff_staysBehind {destination root : String}
    (hhead : destination.toList.head? ≠ some '/')
    (hroot : root ∈ sink.policy.allowedOutputRoots) (hdot : root ≠ ".")
    (hunder : underRoot root destination) :
    sink.InAllowedRoot (resolvePath sink.outputRoot destination) ↔
      sink.StaysBehind destination root := by
  rw [resolvePath_behind hdot hunder hhead]
  unfold InAllowedRoot StaysBehind
  constructor
  · rintro ⟨other, hother, hinside⟩
    by_cases hsame : other = root
    · exact Or.inl ((Detour.prefix_apply_iff _ _).1 (hsame ▸ hinside))
    · exact Or.inr ⟨other, hother, hsame, hinside⟩
  · rintro (hback | ⟨other, hother, -, hinside⟩)
    · exact ⟨root, hroot, (Detour.prefix_apply_iff _ _).2 hback⟩
    · exact ⟨other, hother, hinside⟩

/-- An admitted destination below the output root leads into an allowed root exactly when it keeps to
    the roots that its text starts with. -/
theorem inAllowedRoot_iff {destination : String} (hhead : destination.toList.head? ≠ some '/')
    (hbelow : sink.outputRoot <+: resolvePath sink.outputRoot destination)
    (hallowed : sink.allowedRoot destination = true) :
    sink.InAllowedRoot (resolvePath sink.outputRoot destination) ↔ sink.KeepsRoots destination := by
  by_cases hdot : "." ∈ sink.policy.allowedOutputRoots
  · exact iff_of_true (sink.inAllowedRoot_of_dot hbelow hdot) (Or.inl hdot)
  · have hne : ∀ root ∈ sink.policy.allowedOutputRoots, root ≠ "." :=
      fun root hroot heq => hdot (heq ▸ hroot)
    constructor
    · exact fun h => Or.inr fun root hroot hunder =>
        (sink.inAllowedRoot_iff_staysBehind hhead hroot (hne root hroot) hunder).1 h
    · intro h
      obtain ⟨root, hroot, hunder⟩ := sink.allowedRoot_iff.1 hallowed
      exact (sink.inAllowedRoot_iff_staysBehind hhead hroot (hne root hroot) hunder).2
        (h.resolve_left hdot root hroot hunder)

/-- A ready plan has no destination outside the output root. -/
theorem target_below_of_ready {intents : List (WriteIntent c)} {tree : FileTree}
    (henforce : sink.policy.enforcePathContainment = true)
    {seen : List Path} (h : (sink.planIntents tree seen intents).2 = []) :
    ∀ intent ∈ intents, sink.outputRoot <+: sink.target intent := by
  intro intent hintent
  obtain ⟨-, -, path, hresolve⟩ :=
    sink.planTarget_issues.1 (sink.planTarget_issues_of_ready h intent hintent)
  exact (sink.resolveDestination_eq_ok.1 hresolve).2.1 henforce

/-- The destination of an artifact is relative. -/
theorem destination_relative (intent : WriteIntent c) :
    intent.artifact.destinationPath.toList.head? ≠ some '/' := by
  obtain ⟨raw, hraw⟩ := intent.artifact.destination_normalized
  obtain ⟨-, -, hpure, -⟩ := normalizeSourcePath_ok_iff.1 hraw
  exact hpure ▸ relative_purePosixPath _

/-- **Writes stay in the allowed roots** exactly when the destinations that would be written keep to
    the roots that their texts start with. -/
theorem plan_contained_iff {intents : List (WriteIntent c)} {tree : FileTree}
    (henforce : sink.policy.enforcePathContainment = true)
    (hready : (sink.plan intents tree).status = .ready) :
    (∀ path, sink.MayMutate (sink.plan intents tree) path → sink.InAllowedRoot path) ↔
      (sink.policy.mode = .write → ∀ intent ∈ intents, sink.Mutates tree intent →
        sink.KeepsRoots intent.artifact.destinationPath) := by
  have hissues := ((sink.plan_ready_iff intents tree).1 hready).2
  have hinside : ∀ intent ∈ intents, sink.InAllowedRoot (sink.target intent) ↔
      sink.KeepsRoots intent.artifact.destinationPath := fun intent hintent =>
    sink.inAllowedRoot_iff (destination_relative intent)
      (sink.target_below_of_ready henforce hissues intent hintent)
      (sink.planTarget_issues.1 (sink.planTarget_issues_of_ready hissues intent hintent)).2.1
  simp only [sink.mayMutate_iff hready]
  constructor
  · intro h hmode intent hintent hmutates
    exact (hinside intent hintent).1 (h _ ⟨hmode, intent, hintent, hmutates, rfl⟩)
  · rintro h path ⟨hmode, intent, hintent, hmutates, hpath⟩
    rw [← hpath, hinside intent hintent]
    exact h hmode intent hintent hmutates

/-- Without a `..` behind it, a destination stays behind the root. -/
theorem staysBehind_of_plain {destination root : String}
    (h : ".." ∉ segmentsBehind root destination) : sink.StaysBehind destination root := by
  have hplain : ∀ segment ∈ segmentsBehind root destination, PlainSegment segment :=
    fun segment hsegment => ⟨(names_of_mem_pathParts (List.mem_of_mem_drop hsegment)).2,
      fun heq => h (heq ▸ hsegment)⟩
  refine Or.inl ?_
  rw [detourBehind, Detour.foldl_enter_plain _ hplain, Detour.stay, Nat.sub_zero, List.drop_length]
  exact List.nil_prefix

/-- Destinations without a `..` behind the allowed root they start with are written in allowed roots
    only. -/
theorem plan_contained_of_plain {intents : List (WriteIntent c)} {tree : FileTree}
    (henforce : sink.policy.enforcePathContainment = true)
    (hready : (sink.plan intents tree).status = .ready)
    (hplain : ∀ intent ∈ intents, ∀ root ∈ sink.policy.allowedOutputRoots,
      underRoot root intent.artifact.destinationPath →
        ".." ∉ segmentsBehind root intent.artifact.destinationPath) :
    ∀ path, sink.MayMutate (sink.plan intents tree) path → sink.InAllowedRoot path :=
  (sink.plan_contained_iff henforce hready).2 fun _ intent hintent _ => Or.inr fun root hroot hunder =>
    sink.staysBehind_of_plain (hplain intent hintent root hroot hunder)

/-! ## A destination that climbs out -/

/-- Reports only, below `/out`. -/
def reportSink : FileSystemOutputSink where
  outputRoot := ["out"]
  policy :=
    { allowedOutputRoots := ["reports"]
      allowedArtifactKinds := [.humanReport] }

/-- The intent to write a report at the destination. -/
def reportIntent (c : Codec) (destination : String)
    (h : normalizeSourcePath destination = .ok destination) : WriteIntent c where
  artifact :=
    { logicalId := "report"
      destinationPath := destination
      artifactKind := .humanReport
      mediaType := "text/markdown"
      content := ""
      contentHash := c.artifactHash "".toUTF8
      contentHash_matches := rfl
      destination_normalized := normalized_of_eq h }

/-- What the sink plans for a destination whose text starts with `reports/`. -/
theorem reportSink_ready (c : Codec) {destination : String}
    (h : normalizeSourcePath destination = .ok destination)
    (hnul : '\x00' ∉ destination.toList) (hbelow : ["out"] <+: resolvePath ["out"] destination)
    (hreports : "reports/".toList <+: destination.toList) :
    (reportSink.plan [reportIntent c destination h] Table.empty).status = .ready := by
  refine (reportSink.plan_ready_iff _ _).2 ⟨rfl, ?_⟩
  have hallowed : reportSink.allowedRoot destination = true :=
    reportSink.allowedRoot_iff.2 ⟨"reports", List.mem_cons_self, Or.inr (Or.inr hreports)⟩
  have hresolve : reportSink.resolveDestination destination =
      .ok (resolvePath ["out"] destination) := by
    exact reportSink.resolveDestination_eq_ok.2 ⟨hnul, fun _ => hbelow, rfl⟩
  have htarget : reportSink.planTarget (reportIntent c destination h) =
      (resolvePath ["out"] destination, []) := by
    unfold planTarget reportIntent
    simp only [hallowed, hresolve]
    rfl
  refine (reportSink.planIntents_cons_issues _ _ _ _).2 ?_
  rw [htarget]
  exact ⟨rfl, by simp, rfl, rfl⟩

theorem reportIntent_mutates (c : Codec) {destination : String}
    (h : normalizeSourcePath destination = .ok destination) :
    reportSink.Mutates Table.empty (reportIntent c destination h) :=
  ⟨nofun, Or.inl rfl⟩

theorem summary_normalized :
    normalizeSourcePath "reports/summary.md" = .ok "reports/summary.md" := by
  rw [normalizeSourcePath_ok_iff]
  decide

theorem plan_contained_summary :
    (∀ path, reportSink.MayMutate (reportSink.plan
        [reportIntent textCodec "reports/summary.md" summary_normalized] Table.empty) path →
      reportSink.InAllowedRoot path) ↔
      (reportSink.policy.mode = .write →
        ∀ intent ∈ [reportIntent textCodec "reports/summary.md" summary_normalized],
          reportSink.Mutates Table.empty intent →
            reportSink.KeepsRoots intent.artifact.destinationPath) :=
  reportSink.plan_contained_iff rfl
    (reportSink_ready textCodec summary_normalized (by decide) (by decide) (by decide))

theorem climbing_normalized :
    normalizeSourcePath "reports/../packet.json" = .ok "reports/../packet.json" := by
  rw [normalizeSourcePath_ok_iff]
  decide

/-- `reports/../packet.json` is planned for `/out/packet.json`, which is no report. -/
theorem plan_not_contained :
    ¬ ∀ (c : Codec) (sink : FileSystemOutputSink) (intents : List (WriteIntent c))
      (tree : FileTree), sink.policy.enforcePathContainment = true →
      (sink.plan intents tree).status = .ready →
        ∀ path, sink.MayMutate (sink.plan intents tree) path → sink.InAllowedRoot path := by
  intro hclaim
  have hready := reportSink_ready textCodec climbing_normalized (by decide) (by decide) (by decide)
  have hmutated : reportSink.MayMutate (reportSink.plan
      [reportIntent textCodec "reports/../packet.json" climbing_normalized] Table.empty)
      ["out", "packet.json"] :=
    (reportSink.mayMutate_iff hready).2
      ⟨rfl, _, List.mem_cons_self, reportIntent_mutates textCodec climbing_normalized, by decide⟩
  obtain ⟨root, hroot, hinside⟩ := hclaim _ reportSink _ _ rfl hready _ hmutated
  rw [List.mem_singleton.1 hroot] at hinside
  exact absurd hinside (by decide)

end FileSystemOutputSink

end ConstellationTopology
