import ConstellationTopology.Domain.Assessment
import ConstellationTopology.Library.Collection
import ConstellationTopology.Library.Table
import ConstellationTopology.Reconciliation.FieldCardinality
import ConstellationTopology.Stages.ReconcileAssertions

set_option autoImplicit false

/-! # Reconciling the evidence pool

`stages/reconcile_evidence.py`. The pool is deduplicated by evidence id, the last record of an id
standing, and the records of one subject and field are compared by value. Statement evidence is
deduplicated here and judged by `reconcile_assertions`.

`str` of a Python value is a parameter, as only its result is recorded. -/

namespace ConstellationTopology

/-- What the stage returns. -/
structure EvidenceReconciliation where
  evidence : List EvidenceRecord
  conflicts : List ConflictRecord
  unknowns : List UnknownRecord

namespace ReconcileEvidence

/-- `by_id`. -/
def byId (evidence : List EvidenceRecord) : Table EvidenceRecord.evidenceId :=
  Table.ofRows _ evidence

/-- The records the stage classifies: those outside `PREDICATE_FIELD_STAGES`. -/
def classified (evidence : List EvidenceRecord) : List EvidenceRecord :=
  (byId evidence).rows.filter fun record => record.stage ∉ statementEvidenceStages

/-- The subject and field a record speaks to. -/
def slot (record : EvidenceRecord) : Option (String ×ₗ String) :=
  record.field.map fun field => toLex (record.subjectId, field)

/-- The records of one subject and field. -/
def slotRecords (evidence : List EvidenceRecord) (key : String ×ₗ String) : List EvidenceRecord :=
  groupOf slot (some key) (classified evidence)

variable (c : Codec) (str : Json → String)

/-- `distinct`: one record for each canonical value, the last one standing. -/
def distinct (records : List EvidenceRecord) :
    Table fun record : EvidenceRecord => c.canonicalJson record.value :=
  Table.ofRows _ records

/-- `values`. -/
def slotValues (records : List EvidenceRecord) : List String :=
  sortedBy id ((distinct c records).rows.map fun record => str record.value)

/-- Two canonically different values stand in the slot. -/
def Divergent (records : List EvidenceRecord) : Prop := 2 ≤ (distinct c records).rows.length

instance (records : List EvidenceRecord) : Decidable (Divergent c records) :=
  inferInstanceAs (Decidable (_ ≤ _))

/-- The ids of the records. -/
def evidenceRefs (records : List EvidenceRecord) : List String :=
  sortedBy id (records.map EvidenceRecord.evidenceId)

/-- The conflict of a single-valued field. -/
def slotConflict (subjectId field : String) (records : List EvidenceRecord) : ConflictRecord where
  conflictId := c.stableId "conflict" (.obj [("subject_id", .str subjectId),
    ("field", .str field), ("values", Json.strings (slotValues c str records))])
  subjectId := subjectId
  field := field
  values := slotValues c str records
  evidenceRefs := evidenceRefs records
  blocking := false

/-- The unknown of a field without a declared cardinality. -/
def slotUnknown (subjectId field : String) (records : List EvidenceRecord) : UnknownRecord where
  unknownId := c.stableId "unknown" (.obj [("subject_id", .str subjectId),
    ("field", .str field), ("values", Json.strings (slotValues c str records))])
  subjectId := subjectId
  field := some field
  reason := "field cardinality is not declared; divergent values are preserved "
    ++ "without asserting a conflict"
  evidenceRefs := evidenceRefs records

/-- The slots in the order of the loop. A record without a field opens none: its group is skipped. -/
def slots (evidence : List EvidenceRecord) : List (String ×ₗ String) :=
  sortedSet ((classified evidence).filterMap slot)

/-- The slots that diverge under a cardinality. -/
def divergentSlots (cardinality : Cardinality) (evidence : List EvidenceRecord) :
    List (String ×ₗ String) :=
  (slots evidence).filter fun key =>
    Divergent c (slotRecords evidence key) ∧
      FieldCardinality.cardinalityOf (ofLex key).2 = cardinality

/-- `run`. -/
def run (evidence : List EvidenceRecord) : EvidenceReconciliation where
  evidence := sortedBy EvidenceRecord.evidenceId (byId evidence).rows
  conflicts := (divergentSlots c .single evidence).map fun key =>
    slotConflict c str (ofLex key).1 (ofLex key).2 (slotRecords evidence key)
  unknowns := (divergentSlots c .unknown evidence).map fun key =>
    slotUnknown c str (ofLex key).1 (ofLex key).2 (slotRecords evidence key)

/-! ## The pool -/

variable {c str} {evidence : List EvidenceRecord}

/-- The pool holds one record for each evidence id. -/
theorem evidence_ids_nodup :
    ((run c str evidence).evidence.map EvidenceRecord.evidenceId).Nodup :=
  ((sortedBy_perm _ _).map _).nodup_iff.2 (byId evidence).keys_nodup

theorem eq_of_evidenceId {record record' : EvidenceRecord}
    (h : record ∈ (run c str evidence).evidence) (h' : record' ∈ (run c str evidence).evidence)
    (hid : record.evidenceId = record'.evidenceId) : record = record' :=
  List.inj_on_of_nodup_map evidence_ids_nodup h h' hid

/-- Records with distinct ids are all kept. -/
theorem mem_evidence_of_nodup (h : (evidence.map EvidenceRecord.evidenceId).Nodup)
    {record : EvidenceRecord} :
    record ∈ (run c str evidence).evidence ↔ record ∈ evidence := by
  show record ∈ sortedBy _ _ ↔ _
  rw [mem_sortedBy, Table.mem_rows_iff, byId, Table.lookup_ofRows_of_nodup h]
  exact and_iff_left rfl

/-- The evidence of statements leaves the other records of the pool to be judged as they are. -/
theorem classified_append {own statements : List EvidenceRecord}
    (hnodup : (own.map EvidenceRecord.evidenceId).Nodup)
    (hown : ∀ record ∈ own, record.stage ∉ statementEvidenceStages)
    (hstatements : ∀ record ∈ statements, record.stage ∈ statementEvidenceStages)
    (hids : ∀ record ∈ statements, ∀ other ∈ own, other.evidenceId ≠ record.evidenceId) :
    classified (own ++ statements) = own := by
  have hrows : (byId own).rows = own := Table.rows_ofRows_of_nodup hnodup
  have hfold : byId (own ++ statements) = statements.foldl Table.upsert (byId own) := by
    unfold byId Table.ofRows
    rw [List.foldl_append]
  have hrefused : ∀ record ∈ statements, decide (record.stage ∉ statementEvidenceStages) = false :=
    fun record h => by simp [hstatements record h]
  have hfilter := Table.filter_rows_foldl_upsert
    (p := fun record => decide (record.stage ∉ statementEvidenceStages)) statements (byId own)
    hrefused (fun record h other hother _ => hids record h other (hrows ▸ hother))
  unfold classified
  rw [hfold, hfilter, hrows, List.filter_eq_self]
  exact fun record h => decide_eq_true (hown record h)

/-- Records that agree wherever they speak to one subject and field leave no slot divergent. -/
theorem divergentSlots_eq_nil {cardinality : Cardinality}
    (h : ∀ record ∈ evidence, ∀ other ∈ evidence, slot record = slot other →
      slot record ≠ none → record.value = other.value) :
    divergentSlots c cardinality evidence = [] := by
  refine List.filter_eq_nil_iff.2 fun key _ hkey => ?_
  obtain ⟨hdivergent, -⟩ := of_decide_eq_true hkey
  have hslot : ∀ record ∈ (distinct c (slotRecords evidence key)).rows,
      record ∈ evidence ∧ slot record = some key := by
    intro record hrecord
    obtain ⟨hclassified, hkey⟩ := mem_groupOf.1 (Table.mem_of_mem_ofRows hrecord)
    exact ⟨Table.mem_of_mem_ofRows (List.mem_of_mem_filter hclassified), hkey⟩
  have hkeys := (distinct c (slotRecords evidence key)).keys_nodup
  rw [Divergent] at hdivergent
  cases hrows : (distinct c (slotRecords evidence key)).rows with
  | nil => simp [hrows] at hdivergent
  | cons first rest =>
      cases rest with
      | nil => simp [hrows] at hdivergent
      | cons second rest =>
          rw [hrows] at hslot hkeys
          obtain ⟨hfirst, hfirstKey⟩ := hslot first List.mem_cons_self
          obtain ⟨hsecond, hsecondKey⟩ := hslot second (List.mem_cons_of_mem _ List.mem_cons_self)
          have hvalue := h first hfirst second hsecond (hfirstKey.trans hsecondKey.symm)
            (hfirstKey ▸ Option.some_ne_none key)
          rw [List.map_cons, List.map_cons, List.nodup_cons, hvalue] at hkeys
          exact hkeys.1 List.mem_cons_self

end ReconcileEvidence

end ConstellationTopology
