import ConstellationTopology.Io.FileSystemOutputSink

set_option autoImplicit false

/-! # The in-memory sink

`MemoryOutputSink.plan`: the double of the filesystem sink for tests and dry runs. It keeps one
content for each destination text and decides by looking the text up. Which intents it blocks is
said on its input alone (`plan_ready_iff`). -/

namespace ConstellationTopology

/-- One item of `storage`. -/
structure StoredFile where
  destination : String
  content : ByteArray

/-- A sink over a dictionary. -/
structure MemoryOutputSink where
  policy : WritePolicy
  storage : Table StoredFile.destination := Table.empty

namespace MemoryOutputSink

open FileSystemOutputSink (requiredIssue)

variable {c : Codec} (sink : MemoryOutputSink)

/-! ## Planning -/

/-- `_allowed_root`. -/
def allowedRoot (destination : String) : Bool :=
  sink.policy.allowedOutputRoots.any fun root =>
    root = "." ∨ destination = root ∨ (root ++ "/").toList <+: destination.toList

/-- `storage.get(destination)`. -/
def stored? (destination : String) : Option ByteArray :=
  (Table.lookup sink.storage destination).map StoredFile.content

/-- The issues that need no look at the storage. -/
def screenIssues (intent : WriteIntent c) : List String :=
  (if intent.artifact.artifactKind ∈ sink.policy.allowedArtifactKinds then []
    else ["artifact kind is not allowed: " ++ intent.artifact.artifactKind.text]) ++
  (if sink.allowedRoot intent.artifact.destinationPath then []
    else ["destination is outside allowed output roots: " ++ intent.artifact.destinationPath])

/-- The decision for one intent: the entry and the issues it raises. -/
def planEntry (intent : WriteIntent c) : WritePlanEntry c × List String :=
  let destination := intent.artifact.destinationPath
  let existing := sink.stored? destination
  let existingHash := existing.map c.artifactHash
  let entry (action : WriteAction) (reason : String) : WritePlanEntry c :=
    { intent, action, existingHash, reason }
  if existingHash = some intent.artifact.contentHash then (entry .skip "content unchanged", [])
  else if existing = none then (entry .create "destination does not exist", [])
  else if ¬ sink.policy.allowOverwrite then
    (entry .skip "overwrite prohibited",
      requiredIssue intent
        ("required output exists and overwrite is prohibited: " ++ destination))
  else if sink.policy.requireExpectedHashForReplace ∧ intent.expectedExistingHash = none then
    (entry .skip "expected existing hash required",
      requiredIssue intent ("expected existing hash is required: " ++ destination))
  else if intent.expectedExistingHash ≠ none ∧ intent.expectedExistingHash ≠ existingHash then
    (entry .skip "existing hash does not match expected hash",
      requiredIssue intent ("existing hash mismatch: " ++ destination))
  else (entry .replace "replacement authorized", [])

/-- The loop of `plan`; `seen` holds the destinations of the intents before. -/
def planIntents : List String → List (WriteIntent c) → List (WritePlanEntry c) × List String
  | _, [] => ([], [])
  | seen, intent :: rest =>
      let destination := intent.artifact.destinationPath
      let collision :=
        if destination ∈ seen ∧ sink.policy.rejectCollisions then
          ["output collision: " ++ destination]
        else []
      let (entry, decision) := sink.planEntry intent
      let (entries, later) := planIntents (destination :: seen) rest
      (entry :: entries, sink.screenIssues intent ++ collision ++ decision ++ later)

/-- The two bounds of the policy. -/
def limitIssues (intents : List (WriteIntent c)) : List String :=
  (if intents.length > sink.policy.maximumOutputCount then ["maximum_output_count exceeded"]
    else []) ++
  (if (intents.map fun intent => intent.artifact.content.toUTF8.size).sum
      > sink.policy.maximumOutputBytes then ["maximum_output_bytes exceeded"] else [])

/-- `plan`. -/
def plan (intents : List (WriteIntent c)) : WritePlan c :=
  let (entries, issues) := sink.planIntents [] intents
  makeWritePlan c entries (sortedSet (sink.limitIssues intents ++ issues))

/-! ## What blocks a plan -/

/-- More outputs or bytes than the policy admits. -/
def OverLimits (intents : List (WriteIntent c)) : Prop :=
  sink.policy.maximumOutputCount < intents.length ∨
    sink.policy.maximumOutputBytes <
      (intents.map fun intent => intent.artifact.content.toUTF8.size).sum

/-- An artifact of a kind, or a destination, that the policy does not list. -/
def Unlisted (intent : WriteIntent c) : Prop :=
  intent.artifact.artifactKind ∉ sink.policy.allowedArtifactKinds ∨
    sink.allowedRoot intent.artifact.destinationPath = false

/-- Other content is stored under the destination, and it may not be replaced. -/
def Refused (intent : WriteIntent c) : Prop :=
  ∃ content, sink.stored? intent.artifact.destinationPath = some content ∧
    c.artifactHash content ≠ intent.artifact.contentHash ∧
    (sink.policy.allowOverwrite = false ∨
      (sink.policy.requireExpectedHashForReplace = true ∧ intent.expectedExistingHash = none) ∨
      ∃ expected, intent.expectedExistingHash = some expected ∧
        expected ≠ c.artifactHash content)

/-- Two intents have one destination, which the policy rejects. -/
def Colliding (intents : List (WriteIntent c)) : Prop :=
  sink.policy.rejectCollisions = true ∧
    ¬ (intents.map fun intent => intent.artifact.destinationPath).Nodup

/-- Some intent or all of them together break the policy. -/
def Blocked (intents : List (WriteIntent c)) : Prop :=
  sink.OverLimits intents ∨ sink.Colliding intents ∨
    ∃ intent ∈ intents, sink.Unlisted intent ∨ (intent.required = true ∧ sink.Refused intent)

theorem limitIssues_eq_nil_iff (intents : List (WriteIntent c)) :
    sink.limitIssues intents = [] ↔ ¬ sink.OverLimits intents := by
  simp [limitIssues, OverLimits]

theorem screenIssues_eq_nil_iff (intent : WriteIntent c) :
    sink.screenIssues intent = [] ↔ ¬ sink.Unlisted intent := by
  simp [screenIssues, Unlisted]

/-- A decision raises an issue only for a required intent that is refused. -/
theorem planEntry_issues_eq_nil_iff (intent : WriteIntent c) :
    (sink.planEntry intent).2 = [] ↔ ¬ (intent.required = true ∧ sink.Refused intent) := by
  have hissue : ∀ issue, requiredIssue intent issue = [] ↔ ¬ intent.required = true := by
    intro issue
    simp [requiredIssue]
  cases hstored : sink.stored? intent.artifact.destinationPath with
  | none => simp [planEntry, Refused, hstored]
  | some content =>
      have hrefused : sink.Refused intent ↔
          c.artifactHash content ≠ intent.artifact.contentHash ∧
            (sink.policy.allowOverwrite = false ∨
              (sink.policy.requireExpectedHashForReplace = true ∧
                intent.expectedExistingHash = none) ∨
              ∃ expected, intent.expectedExistingHash = some expected ∧
                expected ≠ c.artifactHash content) := by
        simp [Refused, hstored]
      rw [hrefused]
      unfold planEntry
      simp only [hstored, Option.map_some, Option.some.injEq, reduceCtorEq, if_false]
      split
      · next hsame => simp [hsame]
      · next hdiff =>
          split
          · next hprohibited => simp [hissue, hdiff, hprohibited]
          · next hallowed =>
              split
              · next hrequired => simp [hissue, hdiff, hrequired]
              · next hgiven =>
                  split
                  · next hmismatch =>
                      obtain ⟨hne, hother⟩ := hmismatch
                      obtain ⟨expected, hexpected⟩ := Option.ne_none_iff_exists'.1 hne
                      have hdiffers : expected ≠ c.artifactHash content := by
                        simpa [hexpected] using hother
                      simp [hissue, hdiff, hexpected, hdiffers]
                  · next hmatch =>
                      have hnone : ¬ ∃ expected, intent.expectedExistingHash = some expected ∧
                          expected ≠ c.artifactHash content := by
                        rintro ⟨expected, hexpected, hdiffers⟩
                        exact hmatch ⟨by simp [hexpected], by simpa [hexpected] using hdiffers⟩
                      simp only [true_iff]
                      rintro ⟨_, _, hreason⟩
                      rcases hreason with hprohibited | hrequired | hmismatch
                      · exact hallowed (by simp [hprohibited])
                      · exact hgiven hrequired
                      · exact hnone hmismatch

/-- The entries of a plan: one decision for each intent. -/
theorem planIntents_entries (seen : List String) (intents : List (WriteIntent c)) :
    (sink.planIntents seen intents).1 = intents.map fun intent => (sink.planEntry intent).1 := by
  induction intents generalizing seen with
  | nil => rfl
  | cons intent rest ih => simp only [planIntents, ih, List.map_cons]

theorem planIntents_issues_eq_nil_iff (seen : List String) (intents : List (WriteIntent c)) :
    (sink.planIntents seen intents).2 = [] ↔
      (∀ intent ∈ intents, sink.screenIssues intent = [] ∧ (sink.planEntry intent).2 = []) ∧
      (sink.policy.rejectCollisions = true →
        (intents.map fun intent => intent.artifact.destinationPath).Nodup ∧
          ∀ intent ∈ intents, intent.artifact.destinationPath ∉ seen) := by
  induction intents generalizing seen with
  | nil => simp [planIntents]
  | cons intent rest ih =>
      simp only [planIntents, List.append_eq_nil_iff, ite_eq_right_iff, List.cons_ne_nil,
        imp_false, ih, List.mem_cons, forall_eq_or_imp, List.map_cons, List.nodup_cons,
        List.mem_map, not_exists, not_and, not_or]
      grind

@[simp] theorem plan_entries (intents : List (WriteIntent c)) :
    (sink.plan intents).entries = intents.map fun intent => (sink.planEntry intent).1 :=
  sink.planIntents_entries [] intents

/-- A plan is ready unless the policy is broken. -/
theorem plan_ready_iff (intents : List (WriteIntent c)) :
    (sink.plan intents).status = .ready ↔ ¬ sink.Blocked intents := by
  have hissues := sink.planIntents_issues_eq_nil_iff [] intents
  have hready : (sink.plan intents).status = .ready ↔
      sink.limitIssues intents = [] ∧ (sink.planIntents [] intents).2 = [] := by
    simp [plan, makeWritePlan]
  rw [hready, hissues, sink.limitIssues_eq_nil_iff]
  simp only [screenIssues_eq_nil_iff, planEntry_issues_eq_nil_iff, List.not_mem_nil,
    not_false_eq_true, implies_true, and_true]
  unfold Blocked Colliding
  push Not
  constructor
  · rintro ⟨hlimits, heach, hcollide⟩
    exact ⟨hlimits, hcollide, heach⟩
  · rintro ⟨hlimits, hcollide, heach⟩
    exact ⟨hlimits, heach, hcollide⟩

end MemoryOutputSink

end ConstellationTopology
