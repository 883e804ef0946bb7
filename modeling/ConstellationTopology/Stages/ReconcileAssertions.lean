import ConstellationTopology.Domain.Assessment
import ConstellationTopology.Library.Collection
import ConstellationTopology.Library.Table
import ConstellationTopology.Reconciliation.Predicates
import ConstellationTopology.Run.Evidence
import Mathlib.Data.Prod.Lex

set_option autoImplicit false

/-! # Reconciling producer statements into claims

`stages/reconcile_assertions.py`. Statements are grouped by the question they answer, subject and
predicate; the predicate registry says what several answers to one question mean. Each group gives
one claim for each distinct object, and what it raises besides: a conflict, or an unknown with a
diagnostic.

Everything a group gives is read off its members as sets, which is why the stage does not depend on
the order of the statements (`run_perm`). -/

namespace ConstellationTopology

/-! ## Statements -/

/-- One producer statement, reduced to what reconciliation reads. -/
structure SemanticInput where
  inputId : String
  subjectId : String
  predicate : String
  object : String
  authority : String
  confidence : String
  evidenceClass : String
  origin : String := "repository-model"
  deriving DecidableEq, Repr

/-- The question a statement answers. -/
def SemanticInput.question (statement : SemanticInput) : String ×ₗ String :=
  toLex (statement.subjectId, statement.predicate)

/-- What a statement says. -/
def SemanticInput.triple (statement : SemanticInput) : String × String × String :=
  (statement.subjectId, statement.predicate, statement.object)

/-! ## Producer vocabularies -/

/-- The authority a producer names. -/
def namedAuthority (value : String) : Authority :=
  match value with
  | "source" => .source
  | "validated-machine" => .validatedMachine
  | "validated_machine" => .validatedMachine
  | "derived" => .derived
  | "candidate" => .candidate
  | _ => .unknown

/-- The level a producer names. -/
def namedLevel (value : String) : ConfidenceLevel :=
  match value with
  | "high" => .high
  | "medium" => .medium
  | _ => .low

/-- The method behind a class of evidence. -/
def namedDerivation (evidenceClass : String) : DerivationMethod :=
  if evidenceClass = "declared" then .declared else .deterministic

/-! ## The evidence of a statement -/

/-- `ASSERTION_EVIDENCE_STAGE`. -/
def assertionEvidenceStage : String := "ingest_assertions"

/-- `DOCUMENT_SIGNAL_EVIDENCE_STAGE`. -/
def documentSignalEvidenceStage : String := "ingest_document_signals"

/-- `_STATEMENT_EVIDENCE_STAGES`. -/
def statementEvidenceStages : List String := [assertionEvidenceStage, documentSignalEvidenceStage]

/-- An entry of the index. -/
structure StatementEvidence where
  subjectId : String
  assertionId : String
  evidenceId : String

/-- The statement an entry is of. -/
def StatementEvidence.key (entry : StatementEvidence) : String × String :=
  (entry.subjectId, entry.assertionId)

/-- The entries, one for each statement. -/
abbrev AssertionEvidenceIndex := Table StatementEvidence.key

/-- The entry of an evidence record, if it is one of a statement. -/
def statementEvidence? (record : EvidenceRecord) : Option StatementEvidence :=
  if record.stage ∉ statementEvidenceStages then none
  else
    match record.value.get? "assertion_id" with
    | some (.str assertionId) => some ⟨record.subjectId, assertionId, record.evidenceId⟩
    | _ => none

/-- `AssertionEvidenceIndex.__init__`: the last record of a statement wins. -/
def assertionEvidenceIndex (evidence : List EvidenceRecord) : AssertionEvidenceIndex :=
  Table.ofRows _ (evidence.filterMap statementEvidence?)

/-- `resolve`: the evidence of a statement. -/
def AssertionEvidenceIndex.resolve (index : AssertionEvidenceIndex) (statement : SemanticInput) :
    Option String :=
  (Table.lookup index (statement.subjectId, statement.inputId)).map StatementEvidence.evidenceId

/-- `resolve_all`: the evidence of some statements. -/
def AssertionEvidenceIndex.resolveAll (index : AssertionEvidenceIndex)
    (statements : List SemanticInput) : List String :=
  sortedSet (statements.filterMap index.resolve)

/-! ## Confidence of a claim -/

/-- `_weakest_level`. -/
def weakestLevel (statements : List SemanticInput) : ConfidenceLevel :=
  leastBy ConfidenceLevel.rank .low (statements.map fun s => namedLevel s.confidence)

/-- `_weakest_authority`. -/
def weakestAuthority (statements : List SemanticInput) : Authority :=
  leastBy Authority.rank .unknown (statements.map fun s => namedAuthority s.authority)

/-- `_derivation`: the one method of all statements, or corroboration across records. -/
def derivation (statements : List SemanticInput) : DerivationMethod :=
  match (statements.map fun s => namedDerivation s.evidenceClass).dedup with
  | [method] => method
  | _ => .crossRecord

/-- `_claim_confidence`. -/
def claimConfidence (statements : List SemanticInput) (evidenceCount : ℕ)
    (conflictStatus : ConflictStatus) : ConfidenceAssessment where
  level := weakestLevel statements
  evidenceStrength := if evidenceCount > 1 then .corroborated else .direct
  derivationMethod := derivation statements
  authority := weakestAuthority statements
  completeness := if conflictStatus ≠ .none then .partly else .sufficient
  conflictStatus := conflictStatus

/-! ## Identities and diagnostics -/

/-- `STAGE_NAME`. -/
def reconcileAssertionsStage : String := "reconcile_assertions"

variable (c : Codec)

/-- `_claim_id`. -/
def claimId (subjectId predicate object : String) : String :=
  c.stableId "claim" (.obj [("subject_id", .str subjectId), ("predicate", .str predicate),
    ("object", .str object)])

/-- `_diagnostic`. -/
def reconcileDiagnostic (subjectId predicate sourcePacketId code message : String)
    (evidenceRefs : List String) (details : List (String × Json)) : DiagnosticRecord where
  diagnosticId := c.stableId "diagnostic" (.obj [("stage", .str reconcileAssertionsStage),
    ("code", .str code), ("subject_id", .str subjectId), ("field", .str predicate)])
  sourcePacketId := sourcePacketId
  stage := reconcileAssertionsStage
  severity := .warning
  code := code
  message := message
  category := "compiler"
  disposition := .translated
  subjectId := some subjectId
  evidenceRefs := evidenceRefs
  details := details

/-- `_packet_id_for`. -/
def packetIdFor (evidenceById : Table EvidenceRecord.evidenceId) (evidenceRefs : List String) :
    String :=
  (evidenceRefs.findSome? fun evidenceId =>
    (Table.lookup evidenceById evidenceId).bind fun record =>
      record.sourceRef.packetId.filter fun packetId => packetId ≠ "").getD "packet:unresolved"

/-! ## One group -/

/-- What the stage returns, before and after the final sort. -/
structure Reconciliation where
  claims : List SemanticClaimRecord
  conflicts : List ConflictRecord
  unknowns : List UnknownRecord
  diagnostics : List DiagnosticRecord

/-- The distinct answers of a group. -/
def groupObjects (group : List SemanticInput) : List String :=
  sortedSet (group.map SemanticInput.object)

/-- A question with one answer has several. -/
def Contradicts (cardinality : Cardinality) (objects : List String) : Prop :=
  cardinality = .single ∧ objects.length > 1

instance (cardinality : Cardinality) (objects : List String) :
    Decidable (Contradicts cardinality objects) :=
  inferInstanceAs (Decidable (_ ∧ _))

/-- The status of every claim of a group. -/
def groupConflictStatus (cardinality : Cardinality) (objects : List String) : ConflictStatus :=
  if Contradicts cardinality objects then .confirmed
  else if cardinality = .unknown ∧ objects.length > 1 then .possible
  else .none

/-- The conflict of a group. -/
def groupConflict (subjectId predicate : String) (objects groupEvidence : List String) :
    ConflictRecord where
  conflictId := c.stableId "conflict" (.obj [("subject_id", .str subjectId),
    ("field", .str predicate), ("values", Json.strings objects)])
  subjectId := subjectId
  field := predicate
  values := objects
  evidenceRefs := groupEvidence
  blocking := false

/-- The conflicts a group raises: one if it contradicts itself. -/
def groupConflicts (subjectId predicate : String) (cardinality : Cardinality)
    (objects groupEvidence : List String) : List ConflictRecord :=
  if Contradicts cardinality objects then [groupConflict c subjectId predicate objects groupEvidence]
  else []

theorem groupConflicts_confirmed (subjectId predicate : String) (cardinality : Cardinality)
    (objects groupEvidence : List String) :
    (groupConflicts c subjectId predicate cardinality objects groupEvidence).map
        ConflictRecord.conflictId ≠ [] ↔
      groupConflictStatus cardinality objects = .confirmed := by
  unfold groupConflicts groupConflictStatus
  split
  · simp
  · split <;> simp

/-- The unknown of a group without a rule. -/
def groupUnknown (subjectId predicate : String) (objects groupEvidence : List String) :
    UnknownRecord where
  unknownId := c.stableId "unknown" (.obj [("subject_id", .str subjectId),
    ("field", .str predicate), ("values", Json.strings objects)])
  subjectId := subjectId
  field := some predicate
  reason := unsupportedPredicateReason
  evidenceRefs := groupEvidence

/-- The diagnostic of a group without a rule; `repr` is Python's. -/
def groupDiagnostic (repr : String → String) (subjectId predicate sourcePacketId : String)
    (objects groupEvidence : List String) (assertionCount : ℕ) : DiagnosticRecord :=
  reconcileDiagnostic c subjectId predicate sourcePacketId unsupportedPredicateCode
    ("assertion predicate " ++ repr predicate ++ " has no declared rule in the predicate registry; "
      ++ toString assertionCount ++ " claim(s) on " ++ subjectId
      ++ " were preserved with their evidence and not projected")
    groupEvidence
    [("predicate", .str predicate), ("objects", Json.strings objects),
      ("assertion_count", .int assertionCount)]

/-- The claim of one object of a group. -/
def groupClaim (index : AssertionEvidenceIndex) (subjectId predicate : String)
    (group : List SemanticInput) (object : String) : SemanticClaimRecord :=
  let objects := groupObjects group
  let groupEvidence := index.resolveAll group
  let cardinality := predicateCardinality predicate
  let conflictStatus := groupConflictStatus cardinality objects
  let supporting := groupOf SemanticInput.object object group
  let evidenceRefs := index.resolveAll supporting
  { claimId := claimId c subjectId predicate object
    subjectId := subjectId
    predicate := predicate
    object := object
    sourceAssertionIds := sortedSet (supporting.map SemanticInput.inputId)
    evidenceRefs := evidenceRefs
    confidence := claimConfidence supporting evidenceRefs.length conflictStatus
    authority := weakestAuthority supporting
    cardinality := cardinality
    support := predicateSupport predicate
    conflictStatus := conflictStatus
    conflictIds := (groupConflicts c subjectId predicate cardinality objects groupEvidence).map
      ConflictRecord.conflictId
    authority_agrees := rfl
    conflictIds_confirmed := groupConflicts_confirmed c subjectId predicate cardinality objects
      groupEvidence }

/-- The body of the loop over the groups. -/
def reconcileGroup (repr : String → String) (index : AssertionEvidenceIndex)
    (evidenceById : Table EvidenceRecord.evidenceId) (subjectId predicate : String)
    (group : List SemanticInput) : Reconciliation :=
  let support := predicateSupport predicate
  let cardinality := predicateCardinality predicate
  let objects := groupObjects group
  let groupEvidence := index.resolveAll group
  let sourcePacketId := packetIdFor evidenceById groupEvidence
  { claims := objects.map (groupClaim c index subjectId predicate group)
    conflicts := groupConflicts c subjectId predicate cardinality objects groupEvidence
    unknowns :=
      if support = .unsupported then [groupUnknown c subjectId predicate objects groupEvidence]
      else []
    diagnostics :=
      if support = .unsupported then
        [groupDiagnostic c repr subjectId predicate sourcePacketId objects groupEvidence
          group.length]
      else [] }

/-! ## The stage -/

/-- `sorted(grouped)`. -/
def questions (statements : List SemanticInput) : List (String ×ₗ String) :=
  sortedSet (statements.map SemanticInput.question)

namespace ReconcileAssertions

/-- The groups in the order of the loop. -/
def groups (repr : String → String) (statements : List SemanticInput)
    (evidence : List EvidenceRecord) : List Reconciliation :=
  (questions statements).map fun question =>
    reconcileGroup c repr (assertionEvidenceIndex evidence)
      (Table.ofRows _ evidence) (ofLex question).1 (ofLex question).2
      (groupOf SemanticInput.question question statements)

/-- `run`. -/
def run (repr : String → String) (statements : List SemanticInput)
    (evidence : List EvidenceRecord) : Reconciliation :=
  let groups := groups c repr statements evidence
  { claims := sortedBy SemanticClaimRecord.claimId (groups.flatMap Reconciliation.claims)
    conflicts := sortedBy ConflictRecord.conflictId (groups.flatMap Reconciliation.conflicts)
    unknowns := sortedBy UnknownRecord.unknownId (groups.flatMap Reconciliation.unknowns)
    diagnostics :=
      sortedBy DiagnosticRecord.diagnosticId (groups.flatMap Reconciliation.diagnostics) }

end ReconcileAssertions

/-! ## A group depends on its members only

One lemma for each function that reads a group: what a permutation of the group leaves alone. -/

section Members

variable {group group' : List SemanticInput} (h : group.Perm group')

include h

theorem groupObjects_perm : groupObjects group = groupObjects group' :=
  sortedSet_perm (h.map _)

theorem resolveAll_perm (index : AssertionEvidenceIndex) :
    index.resolveAll group = index.resolveAll group' :=
  sortedSet_perm (h.filterMap _)

theorem weakestLevel_perm : weakestLevel group = weakestLevel group' :=
  leastBy_congr ConfidenceLevel.rank_injective _ fun _ => (h.map _).mem_iff

theorem weakestAuthority_perm : weakestAuthority group = weakestAuthority group' :=
  leastBy_congr Authority.rank_injective _ fun _ => (h.map _).mem_iff

theorem derivation_perm : derivation group = derivation group' := by
  have hmethods := (h.map fun s => namedDerivation s.evidenceClass).dedup
  unfold derivation
  generalize (group.map fun s => namedDerivation s.evidenceClass).dedup = methods at hmethods ⊢
  generalize (group'.map fun s => namedDerivation s.evidenceClass).dedup = methods' at hmethods ⊢
  match methods, methods' with
  | [], [] => rfl
  | [_], [_] => rw [List.perm_singleton.1 hmethods]
  | [], _ :: _ => simp at hmethods
  | _ :: _, [] => simp at hmethods
  | [_], _ :: _ :: _ => simp at hmethods
  | _ :: _ :: _, [_] => simp at hmethods
  | _ :: _ :: _, _ :: _ :: _ => rfl

theorem groupClaim_perm (index : AssertionEvidenceIndex) (subjectId predicate object : String) :
    groupClaim c index subjectId predicate group object =
      groupClaim c index subjectId predicate group' object := by
  have hsupporting : (groupOf SemanticInput.object object group).Perm
      (groupOf SemanticInput.object object group') := groupOf_perm object h
  unfold groupClaim claimConfidence
  simp only [groupObjects_perm h, resolveAll_perm h, resolveAll_perm hsupporting,
    weakestLevel_perm hsupporting, weakestAuthority_perm hsupporting,
    derivation_perm hsupporting, sortedSet_perm (hsupporting.map SemanticInput.inputId)]

theorem reconcileGroup_perm (repr : String → String) (index : AssertionEvidenceIndex)
    (evidenceById : Table EvidenceRecord.evidenceId) (subjectId predicate : String) :
    reconcileGroup c repr index evidenceById subjectId predicate group =
      reconcileGroup c repr index evidenceById subjectId predicate group' := by
  unfold reconcileGroup
  simp only [groupObjects_perm h, resolveAll_perm h, h.length_eq,
    funext (groupClaim_perm c h index subjectId predicate)]

end Members

namespace ReconcileAssertions

variable {repr : String → String} {statements statements' : List SemanticInput}
  {evidence : List EvidenceRecord}

/-- **Order.** The stage does not depend on the order of the statements. -/
theorem run_perm (h : statements.Perm statements') :
    run c repr statements evidence = run c repr statements' evidence := by
  have hquestions : questions statements = questions statements' := sortedSet_perm (h.map _)
  have hgroups : groups c repr statements evidence = groups c repr statements' evidence := by
    unfold groups
    rw [hquestions]
    refine List.map_congr_left fun question _ => ?_
    exact reconcileGroup_perm c (groupOf_perm question h) _ _ _ _ _
  unfold run
  rw [hgroups]

/-! ## What the groups give -/

/-- The statements that answer the question of a statement. -/
def groupAt (statements : List SemanticInput) (statement : SemanticInput) : List SemanticInput :=
  groupOf SemanticInput.question statement.question statements

theorem mem_groupAt {s x : SemanticInput} :
    x ∈ groupAt statements s ↔
      x ∈ statements ∧ x.subjectId = s.subjectId ∧ x.predicate = s.predicate := by
  simp [groupAt, SemanticInput.question]

/-- Every group is the group of one of its statements. -/
theorem mem_groups {r : Reconciliation} :
    r ∈ groups c repr statements evidence ↔ ∃ s ∈ statements,
      r = reconcileGroup c repr (assertionEvidenceIndex evidence)
        (Table.ofRows _ evidence) s.subjectId s.predicate
        (groupAt statements s) := by
  simp only [groups, questions, List.mem_map, mem_sortedSet]
  constructor
  · rintro ⟨question, ⟨s, hs, rfl⟩, rfl⟩
    exact ⟨s, hs, rfl⟩
  · rintro ⟨s, hs, rfl⟩
    exact ⟨s.question, ⟨s, hs, rfl⟩, rfl⟩

theorem mem_claims {claim : SemanticClaimRecord} :
    claim ∈ (run c repr statements evidence).claims ↔ ∃ s ∈ statements,
      claim = groupClaim c (assertionEvidenceIndex evidence) s.subjectId s.predicate
        (groupAt statements s) s.object := by
  simp only [run, mem_sortedBy, List.mem_flatMap, mem_groups]
  constructor
  · rintro ⟨_, ⟨s, hs, rfl⟩, hclaim⟩
    obtain ⟨object, hobject, rfl⟩ := List.mem_map.1 hclaim
    obtain ⟨x, hx, rfl⟩ := List.mem_map.1 (mem_sortedSet.1 hobject)
    obtain ⟨hxs, hsubject, hpredicate⟩ := mem_groupAt.1 hx
    have hgroup : groupAt statements x = groupAt statements s := by
      unfold groupAt SemanticInput.question
      rw [hsubject, hpredicate]
    refine ⟨x, hxs, ?_⟩
    rw [hgroup, hsubject, hpredicate]
  · rintro ⟨s, hs, rfl⟩
    refine ⟨_, ⟨s, hs, rfl⟩, List.mem_map.2 ⟨s.object, ?_, rfl⟩⟩
    exact mem_sortedSet.2 (List.mem_map.2 ⟨s, mem_groupAt.2 ⟨hs, rfl, rfl⟩, rfl⟩)

theorem mem_conflicts {conflict : ConflictRecord} :
    conflict ∈ (run c repr statements evidence).conflicts ↔ ∃ s ∈ statements,
      Contradicts (predicateCardinality s.predicate) (groupObjects (groupAt statements s)) ∧
        conflict = groupConflict c s.subjectId s.predicate (groupObjects (groupAt statements s))
          ((assertionEvidenceIndex evidence).resolveAll (groupAt statements s)) := by
  simp only [run, mem_sortedBy, List.mem_flatMap, mem_groups]
  constructor
  · rintro ⟨_, ⟨s, hs, rfl⟩, hconflict⟩
    simp only [reconcileGroup, groupConflicts] at hconflict
    split at hconflict
    · next hcontradicts => exact ⟨s, hs, hcontradicts, List.mem_singleton.1 hconflict⟩
    · cases hconflict
  · rintro ⟨s, hs, hcontradicts, rfl⟩
    refine ⟨_, ⟨s, hs, rfl⟩, ?_⟩
    simp only [reconcileGroup, groupConflicts, if_pos hcontradicts]
    exact List.mem_singleton_self _

/-- Two statements answer one question differently. -/
def Disagree (statements : List SemanticInput) (subjectId predicate : String) : Prop :=
  ∃ x ∈ statements, ∃ y ∈ statements, x.subjectId = subjectId ∧ x.predicate = predicate ∧
    y.subjectId = subjectId ∧ y.predicate = predicate ∧ x.object ≠ y.object

theorem one_lt_length_groupObjects_iff (s : SemanticInput) :
    (groupObjects (groupAt statements s)).length > 1 ↔
      Disagree statements s.subjectId s.predicate := by
  unfold groupObjects
  rw [gt_iff_lt, one_lt_length_sortedSet_iff]
  simp only [List.mem_map]
  constructor
  · rintro ⟨_, ⟨x, hx, rfl⟩, _, ⟨y, hy, rfl⟩, hne⟩
    obtain ⟨hxs, hx1, hx2⟩ := mem_groupAt.1 hx
    obtain ⟨hys, hy1, hy2⟩ := mem_groupAt.1 hy
    exact ⟨x, hxs, y, hys, hx1, hx2, hy1, hy2, hne⟩
  · rintro ⟨x, hxs, y, hys, hx1, hx2, hy1, hy2, hne⟩
    exact ⟨_, ⟨x, mem_groupAt.2 ⟨hxs, hx1, hx2⟩, rfl⟩, _, ⟨y, mem_groupAt.2 ⟨hys, hy1, hy2⟩, rfl⟩,
      hne⟩

/-! ## Each group is listed once -/

theorem questions_nodup : (questions statements).Nodup := sortedSet_nodup _

theorem claims_nodup :
    ((run c repr statements evidence).claims.map SemanticClaimRecord.triple).Nodup := by
  have hperm := (sortedBy_perm SemanticClaimRecord.claimId
    ((groups c repr statements evidence).flatMap Reconciliation.claims)).map
      SemanticClaimRecord.triple
  refine hperm.nodup_iff.2 ?_
  unfold groups
  rw [List.flatMap_map]
  refine nodup_map_flatMap (fun t => toLex (t.1, t.2.1)) questions_nodup ?_ ?_
  · intro question _ claim hclaim
    obtain ⟨object, -, rfl⟩ := List.mem_map.1 hclaim
    rfl
  · intro question _
    have htriple : ((reconcileGroup c repr (assertionEvidenceIndex evidence)
        (Table.ofRows _ evidence) (ofLex question).1 (ofLex question).2
        (groupOf SemanticInput.question question statements)).claims.map
          SemanticClaimRecord.triple) =
        (groupObjects (groupOf SemanticInput.question question statements)).map
          fun object => ((ofLex question).1, (ofLex question).2, object) := by
      simp only [reconcileGroup, List.map_map]
      rfl
    rw [htriple]
    refine (sortedSet_nodup _).map ?_
    intro object object' heq
    exact (Prod.mk.inj (Prod.mk.inj heq).2).2

/-- The unknowns, one question at a time. -/
theorem mem_unknowns {unknown : UnknownRecord} :
    unknown ∈ (run c repr statements evidence).unknowns ↔ ∃ s ∈ statements,
      predicateSupport s.predicate = .unsupported ∧
        unknown = groupUnknown c s.subjectId s.predicate (groupObjects (groupAt statements s))
          ((assertionEvidenceIndex evidence).resolveAll (groupAt statements s)) := by
  simp only [run, mem_sortedBy, List.mem_flatMap, mem_groups]
  constructor
  · rintro ⟨_, ⟨s, hs, rfl⟩, hunknown⟩
    simp only [reconcileGroup] at hunknown
    split at hunknown
    · next hsupport => exact ⟨s, hs, hsupport, List.mem_singleton.1 hunknown⟩
    · cases hunknown
  · rintro ⟨s, hs, hsupport, rfl⟩
    refine ⟨_, ⟨s, hs, rfl⟩, ?_⟩
    simp only [reconcileGroup, if_pos hsupport]
    exact List.mem_singleton_self _

/-- What an unknown is about. -/
def unknownField (unknown : UnknownRecord) : String × Option String :=
  (unknown.subjectId, unknown.field)

/-- What a diagnostic of the stage is about. -/
def diagnosticField (diagnostic : DiagnosticRecord) : Option String × Option Json :=
  (diagnostic.subjectId, diagnostic.details.lookup "predicate")

theorem unknowns_nodup : ((run c repr statements evidence).unknowns.map unknownField).Nodup := by
  have hperm := (sortedBy_perm UnknownRecord.unknownId
    ((groups c repr statements evidence).flatMap Reconciliation.unknowns)).map unknownField
  refine hperm.nodup_iff.2 ?_
  unfold groups
  rw [List.flatMap_map]
  refine nodup_map_flatMap (fun f => toLex (f.1, f.2.getD "")) questions_nodup ?_ ?_
  · intro question _ unknown hunknown
    simp only [reconcileGroup] at hunknown
    split at hunknown
    · rw [List.mem_singleton.1 hunknown]
      rfl
    · cases hunknown
  · intro question _
    simp only [reconcileGroup]
    split <;> simp

theorem mem_diagnostics {diagnostic : DiagnosticRecord} :
    diagnostic ∈ (run c repr statements evidence).diagnostics ↔ ∃ s ∈ statements,
      predicateSupport s.predicate = .unsupported ∧
        diagnostic = groupDiagnostic c repr s.subjectId s.predicate
          (packetIdFor (Table.ofRows _ evidence)
            ((assertionEvidenceIndex evidence).resolveAll (groupAt statements s)))
          (groupObjects (groupAt statements s))
          ((assertionEvidenceIndex evidence).resolveAll (groupAt statements s))
          (groupAt statements s).length := by
  simp only [run, mem_sortedBy, List.mem_flatMap, mem_groups]
  constructor
  · rintro ⟨_, ⟨s, hs, rfl⟩, hdiagnostic⟩
    simp only [reconcileGroup] at hdiagnostic
    split at hdiagnostic
    · next hsupport => exact ⟨s, hs, hsupport, List.mem_singleton.1 hdiagnostic⟩
    · cases hdiagnostic
  · rintro ⟨s, hs, hsupport, rfl⟩
    refine ⟨_, ⟨s, hs, rfl⟩, ?_⟩
    simp only [reconcileGroup, if_pos hsupport]
    exact List.mem_singleton_self _

/-- The question a diagnostic field names. -/
def fieldQuestion (field : Option String × Option Json) : String ×ₗ String :=
  toLex (field.1.getD "", match field.2 with
    | some (.str predicate) => predicate
    | _ => "")

theorem diagnostics_nodup :
    ((run c repr statements evidence).diagnostics.map diagnosticField).Nodup := by
  have hperm := (sortedBy_perm DiagnosticRecord.diagnosticId
    ((groups c repr statements evidence).flatMap Reconciliation.diagnostics)).map diagnosticField
  refine hperm.nodup_iff.2 ?_
  unfold groups
  rw [List.flatMap_map]
  refine nodup_map_flatMap fieldQuestion questions_nodup ?_ ?_
  · intro question _ diagnostic hdiagnostic
    simp only [reconcileGroup] at hdiagnostic
    split at hdiagnostic
    · rw [List.mem_singleton.1 hdiagnostic]
      rfl
    · cases hdiagnostic
  · intro question _
    simp only [reconcileGroup]
    split <;> simp

/-! ## The specification -/

/-- Some statement answers the question. -/
def Asked (statements : List SemanticInput) (subjectId predicate : String) : Prop :=
  ∃ s ∈ statements, s.subjectId = subjectId ∧ s.predicate = predicate

/-- What the stage promises about its output. -/
structure Spec (statements : List SemanticInput) (out : Reconciliation) : Prop where
  /-- one claim for each distinct triple -/
  claims_nodup : (out.claims.map SemanticClaimRecord.triple).Nodup
  claims_exact : ∀ triple, triple ∈ out.claims.map SemanticClaimRecord.triple ↔
    triple ∈ statements.map SemanticInput.triple
  sources : ∀ claim ∈ out.claims, ∀ inputId, inputId ∈ claim.sourceAssertionIds ↔
    ∃ s ∈ statements, s.triple = claim.triple ∧ s.inputId = inputId
  conflict_iff : ∀ subjectId predicate,
    (∃ conflict ∈ out.conflicts, conflict.subjectId = subjectId ∧ conflict.field = predicate) ↔
      predicateCardinality predicate = .single ∧ Disagree statements subjectId predicate
  conflict_named : ∀ conflict ∈ out.conflicts, ∀ claim ∈ out.claims,
    claim.subjectId = conflict.subjectId → claim.predicate = conflict.field →
      conflict.conflictId ∈ claim.conflictIds ∧ claim.conflictStatus = .confirmed
  possible : ∀ claim ∈ out.claims, predicateCardinality claim.predicate = .unknown →
    Disagree statements claim.subjectId claim.predicate → claim.conflictStatus = .possible ∧
      ∀ conflict ∈ out.conflicts,
        ¬ (conflict.subjectId = claim.subjectId ∧ conflict.field = claim.predicate)
  /-- one unknown and one diagnostic for each question without a rule, and no others -/
  unknowns_nodup : (out.unknowns.map unknownField).Nodup
  unknowns_exact : ∀ subjectId field,
    (subjectId, field) ∈ out.unknowns.map unknownField ↔
      ∃ predicate, field = some predicate ∧ Asked statements subjectId predicate ∧
        predicateSupport predicate = .unsupported
  diagnostics_nodup : (out.diagnostics.map diagnosticField).Nodup
  diagnostics_exact : ∀ subjectId field,
    (subjectId, field) ∈ out.diagnostics.map diagnosticField ↔
      ∃ subject predicate, subjectId = some subject ∧ field = some (.str predicate) ∧
        Asked statements subject predicate ∧ predicateSupport predicate = .unsupported
  level_ceiling : ∀ claim ∈ out.claims, ∀ s ∈ statements, s.triple = claim.triple →
    claim.confidence.level.rank ≤ (namedLevel s.confidence).rank
  authority_ceiling : ∀ claim ∈ out.claims, ∀ s ∈ statements, s.triple = claim.triple →
    claim.authority.rank ≤ (namedAuthority s.authority).rank

/-! ## The claims, conflicts and reports one by one -/

theorem claims_exact (triple : String × String × String) :
    triple ∈ (run c repr statements evidence).claims.map SemanticClaimRecord.triple ↔
      triple ∈ statements.map SemanticInput.triple := by
  simp only [List.mem_map, mem_claims]
  constructor
  · rintro ⟨_, ⟨s, hs, rfl⟩, rfl⟩
    exact ⟨s, hs, rfl⟩
  · rintro ⟨s, hs, rfl⟩
    exact ⟨_, ⟨s, hs, rfl⟩, rfl⟩

/-- The statements that support the claim of a statement are those with its triple. -/
theorem mem_supporting {s x : SemanticInput} :
    x ∈ groupOf SemanticInput.object s.object (groupAt statements s) ↔
      x ∈ statements ∧ x.triple = s.triple := by
  simp only [mem_groupOf, mem_groupAt, SemanticInput.triple, Prod.mk.injEq]
  tauto

theorem sources {claim : SemanticClaimRecord}
    (hclaim : claim ∈ (run c repr statements evidence).claims) (inputId : String) :
    inputId ∈ claim.sourceAssertionIds ↔
      ∃ s ∈ statements, s.triple = claim.triple ∧ s.inputId = inputId := by
  obtain ⟨s, -, rfl⟩ := (mem_claims c).1 hclaim
  show inputId ∈ sortedSet _ ↔ _
  simp only [mem_sortedSet, List.mem_map, mem_supporting, and_assoc]
  rfl

theorem conflict_iff (subjectId predicate : String) :
    (∃ conflict ∈ (run c repr statements evidence).conflicts,
        conflict.subjectId = subjectId ∧ conflict.field = predicate) ↔
      predicateCardinality predicate = .single ∧ Disagree statements subjectId predicate := by
  simp only [mem_conflicts]
  constructor
  · rintro ⟨_, ⟨s, -, ⟨hsingle, hmany⟩, rfl⟩, rfl, rfl⟩
    exact ⟨hsingle, (one_lt_length_groupObjects_iff s).1 hmany⟩
  · rintro ⟨hsingle, hdisagree⟩
    obtain ⟨s, hs, -, -, rfl, rfl, -⟩ := id hdisagree
    exact ⟨_, ⟨s, hs, ⟨hsingle, (one_lt_length_groupObjects_iff s).2 hdisagree⟩, rfl⟩, rfl, rfl⟩

theorem conflict_named {conflict : ConflictRecord} {claim : SemanticClaimRecord}
    (hconflict : conflict ∈ (run c repr statements evidence).conflicts)
    (hclaim : claim ∈ (run c repr statements evidence).claims)
    (hsubject : claim.subjectId = conflict.subjectId)
    (hpredicate : claim.predicate = conflict.field) :
    conflict.conflictId ∈ claim.conflictIds ∧ claim.conflictStatus = .confirmed := by
  obtain ⟨s, -, hcontradicts, rfl⟩ := (mem_conflicts c).1 hconflict
  obtain ⟨x, -, rfl⟩ := (mem_claims c).1 hclaim
  have hquestion : x.subjectId = s.subjectId ∧ x.predicate = s.predicate := ⟨hsubject, hpredicate⟩
  have hgroup : groupAt statements x = groupAt statements s := by
    unfold groupAt SemanticInput.question
    rw [hquestion.1, hquestion.2]
  simp only [groupClaim, hgroup, hquestion.1, hquestion.2, groupConflicts, if_pos hcontradicts,
    groupConflictStatus]
  exact ⟨List.mem_singleton_self _, trivial⟩

theorem possible {claim : SemanticClaimRecord}
    (hclaim : claim ∈ (run c repr statements evidence).claims)
    (hunknown : predicateCardinality claim.predicate = .unknown)
    (hdisagree : Disagree statements claim.subjectId claim.predicate) :
    claim.conflictStatus = .possible := by
  obtain ⟨s, -, rfl⟩ := (mem_claims c).1 hclaim
  have hcardinality : predicateCardinality s.predicate = .unknown := hunknown
  have hmany := (one_lt_length_groupObjects_iff s).2 hdisagree
  have hnot : ¬ Contradicts (predicateCardinality s.predicate)
      (groupObjects (groupAt statements s)) := by
    rw [hcardinality]
    exact fun h => Cardinality.noConfusion h.1
  show groupConflictStatus _ _ = _
  rw [groupConflictStatus, if_neg hnot, if_pos ⟨hcardinality, hmany⟩]

theorem unknowns_exact (subjectId : String) (field : Option String) :
    (subjectId, field) ∈ (run c repr statements evidence).unknowns.map unknownField ↔
      ∃ predicate, field = some predicate ∧ Asked statements subjectId predicate ∧
        predicateSupport predicate = .unsupported := by
  simp only [List.mem_map, mem_unknowns]
  constructor
  · rintro ⟨_, ⟨s, hs, hsupport, rfl⟩, heq⟩
    obtain ⟨rfl, rfl⟩ := Prod.mk.inj heq
    exact ⟨s.predicate, rfl, ⟨s, hs, rfl, rfl⟩, hsupport⟩
  · rintro ⟨predicate, rfl, ⟨s, hs, rfl, rfl⟩, hsupport⟩
    exact ⟨_, ⟨s, hs, hsupport, rfl⟩, rfl⟩

theorem diagnostics_exact (subjectId : Option String) (field : Option Json) :
    (subjectId, field) ∈ (run c repr statements evidence).diagnostics.map diagnosticField ↔
      ∃ subject predicate, subjectId = some subject ∧ field = some (.str predicate) ∧
        Asked statements subject predicate ∧ predicateSupport predicate = .unsupported := by
  simp only [List.mem_map, mem_diagnostics]
  constructor
  · rintro ⟨_, ⟨s, hs, hsupport, rfl⟩, heq⟩
    obtain ⟨rfl, rfl⟩ := Prod.mk.inj heq
    exact ⟨s.subjectId, s.predicate, rfl, rfl, ⟨s, hs, rfl, rfl⟩, hsupport⟩
  · rintro ⟨subject, predicate, rfl, rfl, ⟨s, hs, rfl, rfl⟩, hsupport⟩
    exact ⟨_, ⟨s, hs, hsupport, rfl⟩, rfl⟩

theorem level_ceiling {claim : SemanticClaimRecord}
    (hclaim : claim ∈ (run c repr statements evidence).claims) {x : SemanticInput}
    (hx : x ∈ statements) (htriple : x.triple = claim.triple) :
    claim.confidence.level.rank ≤ (namedLevel x.confidence).rank := by
  obtain ⟨s, -, rfl⟩ := (mem_claims c).1 hclaim
  have hsupporting := mem_supporting.2 ⟨hx, htriple⟩
  exact leastBy_le (List.mem_map.2 ⟨x, hsupporting, rfl⟩)

theorem authority_ceiling {claim : SemanticClaimRecord}
    (hclaim : claim ∈ (run c repr statements evidence).claims) {x : SemanticInput}
    (hx : x ∈ statements) (htriple : x.triple = claim.triple) :
    claim.authority.rank ≤ (namedAuthority x.authority).rank := by
  obtain ⟨s, -, rfl⟩ := (mem_claims c).1 hclaim
  have hsupporting := mem_supporting.2 ⟨hx, htriple⟩
  exact leastBy_le (List.mem_map.2 ⟨x, hsupporting, rfl⟩)

/-- **The stage meets its specification**, for every list of statements in any order and every
    evidence pool. -/
theorem reconciles_exactly (repr : String → String) (statements : List SemanticInput)
    (evidence : List EvidenceRecord) :
    (∀ statements', statements.Perm statements' →
        run c repr statements evidence = run c repr statements' evidence) ∧
      Spec statements (run c repr statements evidence) := by
  refine ⟨fun _ h => run_perm c h, ?_⟩
  exact
    { claims_nodup := claims_nodup c
      claims_exact := claims_exact c
      sources := fun claim hclaim => sources c hclaim
      conflict_iff := conflict_iff c
      conflict_named := fun conflict hconflict claim hclaim => conflict_named c hconflict hclaim
      possible := by
        intro claim hclaim hunknown hdisagree
        refine ⟨possible c hclaim hunknown hdisagree, fun conflict hconflict hquestion => ?_⟩
        have hsingle := ((conflict_iff c _ _).1 ⟨conflict, hconflict, hquestion⟩).1
        rw [hunknown] at hsingle
        cases hsingle
      unknowns_nodup := unknowns_nodup c
      unknowns_exact := unknowns_exact c
      diagnostics_nodup := diagnostics_nodup c
      diagnostics_exact := diagnostics_exact c
      level_ceiling := fun claim hclaim x hx => level_ceiling c hclaim hx
      authority_ceiling := fun claim hclaim x hx => authority_ceiling c hclaim hx }

end ReconcileAssertions

end ConstellationTopology
