import ConstellationTopology.Library.JsonText
import ConstellationTopology.Library.KeyOrder
import ConstellationTopology.Stages.ReconcileEvidence
import ConstellationTopology.Validation.FindingIdentity

set_option autoImplicit false

/-! # What evidence reconciliation depends on

Two values are one when their canonical forms agree, so what is reported depends neither on the
order of the records nor on that of the keys inside their values. What is printed does: a report
lists `str` of the values, and `str` of a mapping shows its keys in their order. -/

namespace ConstellationTopology

namespace ReconcileEvidence

/-! ## What is to be reported -/

/-- The record is judged here, and speaks to the subject and field. -/
structure SpeaksTo (subjectId field : String) (record : EvidenceRecord) : Prop where
  stage : record.stage ∉ statementEvidenceStages
  subject : record.subjectId = subjectId
  field_eq : record.field = some field

/-- Two records give the field canonically different values. -/
def Diverges (evidence : List EvidenceRecord) (subjectId field : String) : Prop :=
  ∃ record ∈ evidence, ∃ other ∈ evidence, SpeaksTo subjectId field record ∧
    SpeaksTo subjectId field other ∧ record.value.canonicalData ≠ other.value.canonicalData

variable (c : Codec) (str : Json → String)

/-- A conflict stands for each single-valued field that diverges, an unknown for each undeclared
    one, and nothing else is reported. -/
structure Exact (evidence : List EvidenceRecord) : Prop where
  conflict_iff : ∀ subjectId field : String,
    (∃ conflict ∈ (run c str evidence).conflicts,
        conflict.subjectId = subjectId ∧ conflict.field = field) ↔
      FieldCardinality.cardinalityOf field = .single ∧ Diverges evidence subjectId field
  unknown_iff : ∀ subjectId field : String,
    (∃ unknown ∈ (run c str evidence).unknowns,
        unknown.subjectId = subjectId ∧ unknown.field = some field) ↔
      FieldCardinality.cardinalityOf field = .unknown ∧ Diverges evidence subjectId field
  unknown_field : ∀ unknown ∈ (run c str evidence).unknowns, unknown.field ≠ none

/-! ## What may not matter -/

/-- The record with another value. -/
def reordered (reorder : EvidenceRecord → Json) (record : EvidenceRecord) : EvidenceRecord :=
  { record with value := reorder record }

/-- The same records in any order, the keys of each value in any order. -/
structure Rearranged (reorder : EvidenceRecord → Json) (evidence evidence' : List EvidenceRecord) :
    Prop where
  values : ∀ record ∈ evidence, (reorder record).canonicalData = record.value.canonicalData
  records : evidence'.Perm (evidence.map (reordered reorder))

/-- No rearrangement shows in the output: the pool holds the rearranged records in the same order,
    and the reports are the same. -/
def OrderFree (evidence : List EvidenceRecord) : Prop :=
  ∀ (reorder : EvidenceRecord → Json) (evidence' : List EvidenceRecord),
    Rearranged reorder evidence evidence' →
      run c str evidence' =
        { evidence := (run c str evidence).evidence.map (reordered reorder)
          conflicts := (run c str evidence).conflicts
          unknowns := (run c str evidence).unknowns }

/-- No value that is printed in a report has an object with two keys. -/
def OneKeyReports (evidence : List EvidenceRecord) : Prop :=
  ∀ record ∈ evidence, ∀ subjectId field : String, SpeaksTo subjectId field record →
    FieldCardinality.cardinalityOf field ≠ .set → Diverges evidence subjectId field →
      record.value.OneKey

/-- Python prints the keys of a mapping in their order, so two orders of one value are told
    apart. -/
def PrintsKeyOrder : Prop :=
  ∀ v w : Json, v.canonicalData = w.canonicalData → str v = str w → v = w

/-! ## The groups -/

variable {c str} {evidence : List EvidenceRecord}

theorem canonicalJson_eq_iff (hc : c.Faithful) {v w : Json} :
    c.canonicalJson v = c.canonicalJson w ↔ v.canonicalData = w.canonicalData := by
  constructor
  · exact hc.dumps_inj v w
  · intro h
    rw [Codec.canonicalJson, h, Codec.canonicalJson]

theorem classified_of_nodup (hnodup : (evidence.map EvidenceRecord.evidenceId).Nodup) :
    classified evidence = evidence.filter fun record => record.stage ∉ statementEvidenceStages := by
  rw [classified, byId, Table.rows_ofRows_of_nodup hnodup]

theorem slot_eq_some_iff {record : EvidenceRecord} {key : String ×ₗ String} :
    slot record = some key ↔
      record.subjectId = (ofLex key).1 ∧ record.field = some (ofLex key).2 := by
  unfold slot
  cases hfield : record.field with
  | none => simp
  | some field =>
      constructor
      · intro h
        have hkey : key = toLex (record.subjectId, field) := (Option.some.inj h).symm
        rw [hkey]
        exact ⟨rfl, rfl⟩
      · rintro ⟨hsubject, hname⟩
        rw [Option.map_some, hsubject, Option.some.inj hname]
        rfl

theorem mem_slotRecords (hnodup : (evidence.map EvidenceRecord.evidenceId).Nodup)
    {key : String ×ₗ String} {record : EvidenceRecord} :
    record ∈ slotRecords evidence key ↔
      record ∈ evidence ∧ SpeaksTo (ofLex key).1 (ofLex key).2 record := by
  rw [slotRecords, mem_groupOf, classified_of_nodup hnodup, slot_eq_some_iff]
  simp only [List.mem_filter, decide_eq_true_eq]
  constructor
  · rintro ⟨⟨hmem, hstage⟩, hsubject, hfield⟩
    exact ⟨hmem, hstage, hsubject, hfield⟩
  · rintro ⟨hmem, hspeaks⟩
    exact ⟨⟨hmem, hspeaks.stage⟩, hspeaks.subject, hspeaks.field_eq⟩

/-- As many values stand as there are canonical forms. -/
theorem length_distinct (records : List EvidenceRecord) :
    (distinct c records).rows.length =
      (sortedSet (records.map fun record => c.canonicalJson record.value)).length := by
  have hperm : ((distinct c records).rows.map fun record => c.canonicalJson record.value).Perm
      (sortedSet (records.map fun record => c.canonicalJson record.value)) := by
    rw [List.perm_ext_iff_of_nodup (distinct c records).keys_nodup (sortedSet_nodup _)]
    intro text
    rw [mem_sortedSet]
    exact Table.mem_keys_ofRows
  rw [← hperm.length_eq, List.length_map]

theorem divergent_iff (hc : c.Faithful) (hnodup : (evidence.map EvidenceRecord.evidenceId).Nodup)
    (key : String ×ₗ String) :
    Divergent c (slotRecords evidence key) ↔ Diverges evidence (ofLex key).1 (ofLex key).2 := by
  unfold Divergent
  rw [length_distinct, Nat.succ_le_iff, one_lt_length_sortedSet_iff]
  simp only [List.mem_map, exists_exists_and_eq_and, mem_slotRecords hnodup, ne_eq,
    canonicalJson_eq_iff hc]
  constructor
  · rintro ⟨record, ⟨hmem, hspeaks⟩, other, ⟨hother, hspeaksOther⟩, hne⟩
    exact ⟨record, hmem, other, hother, hspeaks, hspeaksOther, hne⟩
  · rintro ⟨record, hmem, other, hother, hspeaks, hspeaksOther, hne⟩
    exact ⟨record, ⟨hmem, hspeaks⟩, other, ⟨hother, hspeaksOther⟩, hne⟩

theorem mem_slots_of_diverges (hnodup : (evidence.map EvidenceRecord.evidenceId).Nodup)
    {key : String ×ₗ String} (h : Diverges evidence (ofLex key).1 (ofLex key).2) :
    key ∈ slots evidence := by
  obtain ⟨record, hmem, -, -, hspeaks, -, -⟩ := h
  rw [slots, mem_sortedSet, List.mem_filterMap]
  have hslot := (mem_groupOf.1 ((mem_slotRecords hnodup).2 ⟨hmem, hspeaks⟩))
  exact ⟨record, hslot.1, hslot.2⟩

theorem mem_divergentSlots (hc : c.Faithful)
    (hnodup : (evidence.map EvidenceRecord.evidenceId).Nodup) {cardinality : Cardinality}
    (key : String ×ₗ String) :
    key ∈ divergentSlots c cardinality evidence ↔
      FieldCardinality.cardinalityOf (ofLex key).2 = cardinality ∧
        Diverges evidence (ofLex key).1 (ofLex key).2 := by
  rw [divergentSlots, List.mem_filter, decide_eq_true_eq, divergent_iff hc hnodup]
  constructor
  · exact fun h => h.2.symm
  · exact fun h => ⟨mem_slots_of_diverges hnodup h.2, h.symm⟩

/-- What is reported is exact. -/
theorem exact_run (hc : c.Faithful) (hnodup : (evidence.map EvidenceRecord.evidenceId).Nodup) :
    Exact c str evidence where
  conflict_iff := by
    intro subjectId field
    simp only [run, List.mem_map, exists_exists_and_eq_and, slotConflict,
      mem_divergentSlots hc hnodup]
    constructor
    · rintro ⟨key, hkey, hsubject, hfield⟩
      rwa [← hsubject, ← hfield]
    · exact fun h => ⟨toLex (subjectId, field), h, rfl, rfl⟩
  unknown_iff := by
    intro subjectId field
    simp only [run, List.mem_map, exists_exists_and_eq_and, slotUnknown,
      mem_divergentSlots hc hnodup]
    constructor
    · rintro ⟨key, hkey, hsubject, hfield⟩
      rwa [← hsubject, ← Option.some.inj hfield]
    · exact fun h => ⟨toLex (subjectId, field), h, rfl, rfl⟩
  unknown_field := by
    intro unknown h
    obtain ⟨key, -, rfl⟩ := List.mem_map.1 h
    exact Option.some_ne_none _

/-! ## Rearranging the records -/

section Rearranged

variable {reorder : EvidenceRecord → Json} {evidence' : List EvidenceRecord}

theorem Rearranged.nodup (h : Rearranged reorder evidence evidence')
    (hnodup : (evidence.map EvidenceRecord.evidenceId).Nodup) :
    (evidence'.map EvidenceRecord.evidenceId).Nodup := by
  rw [(h.records.map EvidenceRecord.evidenceId).nodup_iff, List.map_map]
  exact hnodup

theorem slotRecords_rearranged (h : Rearranged reorder evidence evidence')
    (hnodup : (evidence.map EvidenceRecord.evidenceId).Nodup) (key : String ×ₗ String) :
    (slotRecords evidence' key).Perm ((slotRecords evidence key).map (reordered reorder)) := by
  unfold slotRecords groupOf
  rw [classified_of_nodup hnodup, classified_of_nodup (h.nodup hnodup)]
  refine ((h.records.filter _).filter _).trans (List.Perm.of_eq ?_)
  rw [List.filter_map, List.filter_map]
  rfl

theorem slots_rearranged (h : Rearranged reorder evidence evidence')
    (hnodup : (evidence.map EvidenceRecord.evidenceId).Nodup) :
    slots evidence' = slots evidence := by
  unfold slots
  rw [classified_of_nodup hnodup, classified_of_nodup (h.nodup hnodup)]
  refine (sortedSet_perm ((h.records.filter _).filterMap slot)).trans ?_
  rw [List.filter_map, List.filterMap_map]
  rfl

/-- The canonical forms of a slot stay. -/
theorem divergent_rearranged (h : Rearranged reorder evidence evidence')
    (hnodup : (evidence.map EvidenceRecord.evidenceId).Nodup) (key : String ×ₗ String) :
    Divergent c (slotRecords evidence' key) ↔ Divergent c (slotRecords evidence key) := by
  have hforms : sortedSet ((slotRecords evidence' key).map fun r => c.canonicalJson r.value) =
      sortedSet ((slotRecords evidence key).map fun r => c.canonicalJson r.value) := by
    rw [sortedSet_perm ((slotRecords_rearranged h hnodup key).map _), List.map_map]
    congr 1
    refine List.map_congr_left fun record hrecord => ?_
    show c.dumps (reorder record).canonicalData = _
    rw [h.values record ((mem_slotRecords hnodup).1 hrecord).1]
    rfl
  unfold Divergent
  rw [length_distinct, length_distinct, hforms]

theorem divergentSlots_rearranged (h : Rearranged reorder evidence evidence')
    (hnodup : (evidence.map EvidenceRecord.evidenceId).Nodup) (cardinality : Cardinality) :
    divergentSlots c cardinality evidence' = divergentSlots c cardinality evidence := by
  unfold divergentSlots
  simp only [slots_rearranged h hnodup, divergent_rearranged h hnodup]

theorem evidenceRefs_rearranged (h : Rearranged reorder evidence evidence')
    (hnodup : (evidence.map EvidenceRecord.evidenceId).Nodup) (key : String ×ₗ String) :
    evidenceRefs (slotRecords evidence' key) = evidenceRefs (slotRecords evidence key) := by
  unfold evidenceRefs
  refine (sortedBy_congr (fun _ _ _ _ => id)
    ((slotRecords_rearranged h hnodup key).map EvidenceRecord.evidenceId)).trans ?_
  rw [List.map_map]
  rfl

theorem pool_rearranged (h : Rearranged reorder evidence evidence')
    (hnodup : (evidence.map EvidenceRecord.evidenceId).Nodup) :
    (run c str evidence').evidence = (run c str evidence).evidence.map (reordered reorder) := by
  have hids := h.nodup hnodup
  simp only [run, byId, Table.rows_ofRows_of_nodup hids, Table.rows_ofRows_of_nodup hnodup]
  rw [sortedBy_congr (List.inj_on_of_nodup_map hids) h.records]
  exact sortedBy_map evidence fun _ _ => rfl

/-! ## The printed values -/

/-- Values that have one order of their keys are printed whichever record stands last. -/
theorem slotValues_perm {records records' : List EvidenceRecord} (hc : c.Faithful)
    (hone : ∀ record ∈ records, record.value.OneKey) (h : records'.Perm records) :
    slotValues c str records' = slotValues c str records := by
  -- both lists hold each value once, and a value is known by its canonical form
  have hnodup : ∀ rs : List EvidenceRecord,
      ((distinct c rs).rows.map EvidenceRecord.value).Nodup := fun rs =>
    List.Nodup.of_map c.canonicalJson (by rw [List.map_map]; exact (distinct c rs).keys_nodup)
  have hmem : ∀ rs : List EvidenceRecord, (∀ record ∈ rs, record.value.OneKey) → ∀ value,
      value ∈ (distinct c rs).rows.map EvidenceRecord.value ↔
        value ∈ rs.map EvidenceRecord.value := by
    intro rs hrs value
    constructor
    · intro hvalue
      obtain ⟨record, hrecord, rfl⟩ := List.mem_map.1 hvalue
      exact List.mem_map_of_mem (Table.mem_of_mem_ofRows hrecord)
    · intro hvalue
      obtain ⟨record, hrecord, rfl⟩ := List.mem_map.1 hvalue
      have hform : c.canonicalJson record.value ∈
          (distinct c rs).rows.map fun r => c.canonicalJson r.value :=
        Table.mem_keys_ofRows.2 (List.mem_map_of_mem hrecord)
      obtain ⟨last, hlast, heq⟩ := List.mem_map.1 hform
      have hvalues := Json.eq_of_oneKey _ _ (hrs record hrecord) ((canonicalJson_eq_iff hc).1 heq)
      exact List.mem_map.2 ⟨last, hlast, hvalues⟩
  have hperm : ((distinct c records').rows.map EvidenceRecord.value).Perm
      ((distinct c records).rows.map EvidenceRecord.value) := by
    rw [List.perm_ext_iff_of_nodup (hnodup _) (hnodup _)]
    intro value
    rw [hmem records' (fun r hr => hone r (h.mem_iff.1 hr)) value, hmem records hone value]
    exact (h.map _).mem_iff
  have hprinted := hperm.map str
  rw [List.map_map, List.map_map] at hprinted
  exact sortedBy_congr (fun _ _ _ _ => id) hprinted

theorem slotValues_rearranged (hc : c.Faithful)
    (hnodup : (evidence.map EvidenceRecord.evidenceId).Nodup)
    (h : Rearranged reorder evidence evidence') {key : String ×ₗ String}
    (hone : ∀ record ∈ slotRecords evidence key, record.value.OneKey) :
    slotValues c str (slotRecords evidence' key) = slotValues c str (slotRecords evidence key) := by
  refine slotValues_perm hc hone ((slotRecords_rearranged h hnodup key).trans (List.Perm.of_eq ?_))
  refine (List.map_congr_left fun record hrecord => ?_).trans (List.map_id _)
  have hvalue := h.values record ((mem_slotRecords hnodup).1 hrecord).1
  rw [reordered, Json.eq_of_oneKey _ _ (hone record hrecord) hvalue]
  rfl

/-- Where each printed value has one order of its keys, no rearrangement shows. -/
theorem orderFree_of_oneKey (hc : c.Faithful)
    (hnodup : (evidence.map EvidenceRecord.evidenceId).Nodup) (hone : OneKeyReports evidence) :
    OrderFree c str evidence := by
  intro reorder evidence' h
  have hvalues : ∀ cardinality : Cardinality, cardinality ≠ .set →
      ∀ key ∈ divergentSlots c cardinality evidence,
        slotValues c str (slotRecords evidence' key) =
          slotValues c str (slotRecords evidence key) := by
    intro cardinality hset key hkey
    obtain ⟨hcardinality, hdiverges⟩ := (mem_divergentSlots hc hnodup key).1 hkey
    refine slotValues_rearranged hc hnodup h fun record hrecord => ?_
    obtain ⟨hmem, hspeaks⟩ := (mem_slotRecords hnodup).1 hrecord
    exact hone record hmem _ _ hspeaks (hcardinality ▸ hset) hdiverges
  have hconflicts : (run c str evidence').conflicts = (run c str evidence).conflicts := by
    simp only [run, divergentSlots_rearranged h hnodup]
    refine List.map_congr_left fun key hkey => ?_
    rw [slotConflict, slotConflict, hvalues .single (by decide) key hkey,
      evidenceRefs_rearranged h hnodup]
  have hunknowns : (run c str evidence').unknowns = (run c str evidence).unknowns := by
    simp only [run, divergentSlots_rearranged h hnodup]
    refine List.map_congr_left fun key hkey => ?_
    rw [slotUnknown, slotUnknown, hvalues .unknown (by decide) key hkey,
      evidenceRefs_rearranged h hnodup]
  rw [← pool_rearranged h hnodup, ← hconflicts, ← hunknowns]

end Rearranged

/-! ## The last record of a value is the one that is printed -/

theorem exists_distinct_split (records : List EvidenceRecord) (text : String) :
    ∃ before after, ∀ record : EvidenceRecord, c.canonicalJson record.value = text →
      (distinct c (records ++ [record])).rows = before ++ record :: after := by
  obtain ⟨before, after, hsplit⟩ := exists_upsertRows_split
    (fun record : EvidenceRecord => c.canonicalJson record.value) text (distinct c records).rows
  refine ⟨before, after, fun record hrecord => ?_⟩
  rw [distinct, Table.ofRows_append_singleton]
  exact hsplit record hrecord

/-- Two records of one canonical value that print alike after the same records print alike. -/
theorem str_eq_of_slotValues {records : List EvidenceRecord} {record record' : EvidenceRecord}
    (hform : record'.value.canonicalData = record.value.canonicalData)
    (h : slotValues c str (records ++ [record']) = slotValues c str (records ++ [record])) :
    str record'.value = str record.value := by
  obtain ⟨before, after, hsplit⟩ :=
    exists_distinct_split (c := c) records (c.canonicalJson record.value)
  have hform' : c.canonicalJson record'.value = c.canonicalJson record.value := by
    rw [Codec.canonicalJson, hform, Codec.canonicalJson]
  unfold slotValues at h
  rw [hsplit record rfl, hsplit record' hform', List.map_append, List.map_cons, List.map_append,
    List.map_cons] at h
  have hperm := (sortedBy_perm id _).symm.trans ((List.Perm.of_eq h).trans (sortedBy_perm id _))
  exact List.singleton_perm_singleton.1
    ((List.perm_append_right_iff _).1 ((List.perm_append_left_iff _).1
      (show (before.map _ ++ ([str record'.value] ++ after.map _)).Perm
        (before.map _ ++ ([str record.value] ++ after.map _)) from hperm)))

/-- A record can be moved to the end, its value in any order of its keys. -/
theorem rearranged_last {before after : List EvidenceRecord} {record : EvidenceRecord}
    (hnodup : ((before ++ record :: after).map EvidenceRecord.evidenceId).Nodup) {value : Json}
    (hvalue : value.canonicalData = record.value.canonicalData) :
    ∃ reorder, Rearranged reorder (before ++ record :: after)
      (before ++ after ++ [reordered (fun _ => value) record]) := by
  refine ⟨fun other => if other.evidenceId = record.evidenceId then value else other.value, ?_, ?_⟩
  · intro other hother
    by_cases hid : other.evidenceId = record.evidenceId
    · rw [if_pos hid, hvalue, List.inj_on_of_nodup_map hnodup hother (by simp) hid]
    · rw [if_neg hid]
  · have hsame : ∀ others : List EvidenceRecord, record.evidenceId ∉ others.map (·.evidenceId) →
        others.map (reordered fun other =>
          if other.evidenceId = record.evidenceId then value else other.value) = others := by
      intro others hfree
      refine (List.map_congr_left fun other hother => ?_).trans (List.map_id _)
      have hne : other.evidenceId ≠ record.evidenceId := fun heq =>
        hfree (heq ▸ List.mem_map_of_mem hother)
      rw [reordered, if_neg hne]
      rfl
    rw [List.map_append, List.map_cons, List.nodup_middle, List.nodup_cons] at hnodup
    rw [List.mem_append, not_or] at hnodup
    have hself : reordered (fun other =>
        if other.evidenceId = record.evidenceId then value else other.value) record =
          reordered (fun _ => value) record := by
      simp only [reordered, if_true]
    rw [List.map_append, List.map_cons, hsame _ hnodup.1.1, hsame _ hnodup.1.2, hself,
      List.append_assoc]
    exact (List.perm_append_singleton _ _).append_left before

theorem slotValues_of_unknown (hc : c.Faithful) {subjectId field : String}
    {records records' : List EvidenceRecord}
    (h : slotUnknown c str subjectId field records = slotUnknown c str subjectId field records') :
    slotValues c str records = slotValues c str records' := by
  have hkey : FindingKey.values subjectId field (slotValues c str records) =
      .values subjectId field (slotValues c str records') :=
    FindingKey.id_injective hc "unknown" (congrArg UnknownRecord.unknownId h)
  simpa using hkey

/-- What is reported of a slot shows its values. -/
theorem slotValues_of_reports {evidence evidence' : List EvidenceRecord} (hc : c.Faithful)
    (hslots : ∀ cardinality : Cardinality, divergentSlots c cardinality evidence' =
      divergentSlots c cardinality evidence)
    (hconflicts : (run c str evidence').conflicts = (run c str evidence).conflicts)
    (hunknowns : (run c str evidence').unknowns = (run c str evidence).unknowns)
    {cardinality : Cardinality} (hset : cardinality ≠ .set) {key : String ×ₗ String}
    (hkey : key ∈ divergentSlots c cardinality evidence) :
    slotValues c str (slotRecords evidence' key) = slotValues c str (slotRecords evidence key) := by
  simp only [run, hslots, List.map_inj_left] at hconflicts hunknowns
  cases cardinality with
  | set => exact absurd rfl hset
  | single => exact congrArg ConflictRecord.values (hconflicts key hkey)
  | unknown => exact slotValues_of_unknown hc (hunknowns key hkey)

theorem slotRecords_append_singleton {records : List EvidenceRecord} {last : EvidenceRecord}
    (key : String ×ₗ String) (hnodup : ((records ++ [last]).map EvidenceRecord.evidenceId).Nodup)
    (hspeaks : SpeaksTo (ofLex key).1 (ofLex key).2 last) :
    slotRecords (records ++ [last]) key = slotRecords records key ++ [last] := by
  have hself : slot last = some key := slot_eq_some_iff.2 ⟨hspeaks.subject, hspeaks.field_eq⟩
  have hrecords : (records.map EvidenceRecord.evidenceId).Nodup := by
    rw [List.map_append] at hnodup
    exact (List.nodup_append.1 hnodup).1
  rw [slotRecords, slotRecords, groupOf, groupOf, classified_of_nodup hnodup,
    classified_of_nodup hrecords, List.filter_append, List.filter_append]
  simp [hspeaks.stage, hself]

/-- Where no rearrangement shows, each printed value has one order of its keys. -/
theorem oneKey_of_orderFree (hc : c.Faithful) (hstr : PrintsKeyOrder str)
    (hnodup : (evidence.map EvidenceRecord.evidenceId).Nodup) (hfree : OrderFree c str evidence) :
    OneKeyReports evidence := by
  intro record hmem subjectId field hspeaks hset hdiverges
  rw [Json.oneKey_iff]
  intro value hvalue
  obtain ⟨before, after, rfl⟩ := List.append_of_mem hmem
  -- the values printed when the record stands last, its own value in any order of its keys
  have hprinted : ∀ value : Json, value.canonicalData = record.value.canonicalData →
      slotValues c str (slotRecords (before ++ after) (toLex (subjectId, field)) ++
          [reordered (fun _ => value) record]) =
        slotValues c str (slotRecords (before ++ record :: after) (toLex (subjectId, field))) := by
    intro value hvalue
    obtain ⟨reorder, h⟩ := rearranged_last hnodup hvalue
    have hrun := hfree _ _ h
    have hconflicts : (run c str _).conflicts = _ := congrArg EvidenceReconciliation.conflicts hrun
    have hunknowns : (run c str _).unknowns = _ := congrArg EvidenceReconciliation.unknowns hrun
    have hkey := (mem_divergentSlots hc hnodup (toLex (subjectId, field))).2 ⟨rfl, hdiverges⟩
    rw [← slotRecords_append_singleton (toLex (subjectId, field)) (h.nodup hnodup)
      ⟨hspeaks.stage, hspeaks.subject, hspeaks.field_eq⟩]
    exact slotValues_of_reports hc (divergentSlots_rearranged h hnodup) hconflicts hunknowns hset
      hkey
  have hsame := (hprinted value hvalue).trans (hprinted record.value rfl).symm
  exact hstr _ _ hvalue (str_eq_of_slotValues hvalue hsame)

/-- **Reconciliation shows the order of keys where it prints them.** What is reported is exact, and
    no rearrangement of the records or of the keys inside their values shows, exactly when no value
    of a reported subject and field has an object with two keys. -/
theorem run_exact_orderFree_iff (hc : c.Faithful) (hstr : PrintsKeyOrder str)
    (hnodup : (evidence.map EvidenceRecord.evidenceId).Nodup) :
    (Exact c str evidence ∧ OrderFree c str evidence) ↔ OneKeyReports evidence :=
  ⟨fun h => oneKey_of_orderFree hc hstr hnodup h.2,
    fun h => ⟨exact_run hc hnodup, orderFree_of_oneKey hc hnodup h⟩⟩

/-! ## Records with and without a second key -/

/-- A record of the name of one repository. -/
def nameRecord (evidenceId : String) (value : Json) : EvidenceRecord where
  evidenceId := evidenceId
  subjectId := "repository:alpha"
  field := some "name"
  stage := "ingest_repository_models"
  evidenceClass := .observed
  sourceType := .packet
  sourceRef :=
    { sourcePath_portable := noPath_portable
      lineNumber_positive := noLine_positive
      locator_valid := noLocator_valid
      lineNumber_agrees := noLocator_agrees }
  value := value
  confidence := .unknown
  producer := "producer"
  producerVersion := "1.0.0"
  createdAt := ⟨"2026-01-01T00:00:00Z"⟩

/-- A text prints as itself. -/
def textStr : Json → String
  | .str value => value
  | value => String.ofList value.text

theorem textStr_printsKeyOrder : PrintsKeyOrder textStr := by
  intro v w hform h
  cases v <;> cases w <;> simp_all [Json.canonicalData, textStr]
  case arr.arr => exact Json.arr.inj (Json.text_injective (String.ofList_injective h))
  case obj.obj => exact Json.obj.inj (Json.text_injective (String.ofList_injective h))

theorem run_exact_orderFree_iff_texts :
    (Exact textCodec textStr
        [nameRecord "evidence:1" (.str "alpha"), nameRecord "evidence:2" (.str "beta")] ∧
      OrderFree textCodec textStr
        [nameRecord "evidence:1" (.str "alpha"), nameRecord "evidence:2" (.str "beta")]) ↔
      OneKeyReports
        [nameRecord "evidence:1" (.str "alpha"), nameRecord "evidence:2" (.str "beta")] :=
  run_exact_orderFree_iff textCodec_faithful textStr_printsKeyOrder (by decide)

/-- `str` of a flat mapping of numbers, and of a text. -/
def mappingStr : Json → String
  | .str value => value
  | .obj fields => "\x7b" ++ ", ".intercalate (fields.map fun field =>
      match field.2 with
      | .int value => "'" ++ field.1 ++ "': " ++ toString value
      | _ => "'" ++ field.1 ++ "': ...") ++ "\x7d"
  | _ => "..."

/-- The same mapping in two orders of its keys. -/
def oneOrder : Json := .obj [("a", .int 1), ("b", .int 2)]

def otherOrder : Json := .obj [("b", .int 2), ("a", .int 1)]

/-- A mapping and a text: the mapping under another order of its keys is printed otherwise. -/
theorem run_shows_key_order :
    ([nameRecord "evidence:1" oneOrder, nameRecord "evidence:2" (.str "alpha")].map
        EvidenceRecord.evidenceId).Nodup ∧
      ¬ OrderFree textCodec mappingStr
        [nameRecord "evidence:1" oneOrder, nameRecord "evidence:2" (.str "alpha")] := by
  refine ⟨by decide, fun hfree => ?_⟩
  have h : Rearranged (fun r => if r.evidenceId = "evidence:1" then otherOrder else r.value)
      [nameRecord "evidence:1" oneOrder, nameRecord "evidence:2" (.str "alpha")]
      [nameRecord "evidence:1" otherOrder, nameRecord "evidence:2" (.str "alpha")] := by
    refine ⟨?_, List.Perm.refl _⟩
    intro record hrecord
    simp only [List.mem_cons, List.not_mem_nil, or_false] at hrecord
    rcases hrecord with rfl | rfl
    · exact congrArg Json.obj (Json.sortFields_swap (show "b" ≠ "a" by decide) [] [])
    · rfl
  have hvalues := congrArg (fun output => output.conflicts.map ConflictRecord.values)
    (hfree _ _ h)
  exact absurd hvalues (by decide +kernel)

end ReconcileEvidence

end ConstellationTopology
