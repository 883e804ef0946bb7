import ConstellationTopology.Run.SemanticFields
import ConstellationTopology.Stages.EvidenceOrder

set_option autoImplicit false

/-! # What an evidence id tells apart

The id of an evidence record is a digest of its identity, from which the volatile keys are removed
at every depth: those of the record itself, but also the keys of its value, which is free data. Two
records that differ in such a key of the value alone share an id, and reconciliation drops one of
them. -/

namespace ConstellationTopology

theorem natJson_semantic_inj (a b : ℕ)
    (h : (SourceLocator.natJson a).semantic = (SourceLocator.natJson b).semantic) : a = b :=
  Int.ofNat.inj (Json.int.inj h)

/-! ## Locators and source references -/

namespace SourceLocator

theorem semantic_inj (l l' : SourceLocator) (h : l.toJson.semantic = l'.toJson.semantic) :
    l = l' := by
  have hnat : ∀ (key : String) (x y : Option ℕ), key ∉ volatileFields →
      l.toJson.get? key = x.map natJson → l'.toJson.get? key = y.map natJson → x = y :=
    fun _ _ _ hkey => Json.field_inj natJson_semantic_inj h hkey
  have hstr : ∀ (key : String) (x y : Option String), key ∉ volatileFields →
      l.toJson.get? key = x.map .str → l'.toJson.get? key = y.map .str → x = y :=
    fun _ _ _ hkey => Json.field_inj Json.str_semantic_inj h hkey
  -- the kind is a field, so the two locators have one constructor
  have hkind : l.kind = l'.kind :=
    Option.some.inj (hstr "kind" (some l.kind) (some l'.kind) (by decide) rfl rfl)
  cases l with
  | line s e =>
      cases l' with
      | line s' e' =>
          have hs := hnat "start_line" (some s) (some s')
            (by decide) (get?_toJson _ _) (get?_toJson _ _)
          have he := hnat "end_line" (some e) (some e')
            (by decide) (get?_toJson _ _) (get?_toJson _ _)
          rw [Option.some.inj hs, Option.some.inj he]
      | _ => simp [kind] at hkind
  | pdf p b =>
      cases l' with
      | pdf p' b' =>
          have hp := hnat "page_number" (some p) (some p')
            (by decide) (get?_toJson _ _) (get?_toJson _ _)
          have hb := hnat "block_index" (some b) (some b')
            (by decide) (get?_toJson _ _) (get?_toJson _ _)
          rw [Option.some.inj hp, Option.some.inj hb]
      | _ => simp [kind] at hkind
  | docx b k p =>
      cases l' with
      | docx b' k' p' =>
          have hb := hnat "block_index" (some b) (some b')
            (by decide) (get?_toJson _ _) (get?_toJson _ _)
          have hk := hstr "block_kind" (some k) (some k')
            (by decide) (get?_toJson _ _) (get?_toJson _ _)
          have hp := hstr "part" (some p) (some p') (by decide) (get?_toJson _ _) (get?_toJson _ _)
          rw [Option.some.inj hb, Option.some.inj hk, Option.some.inj hp]
      | _ => simp [kind] at hkind
  | pptx s i p =>
      cases l' with
      | pptx s' i' p' =>
          have hs := hnat "slide_number" (some s) (some s')
            (by decide) (get?_toJson _ _) (get?_toJson _ _)
          have hi := hnat "shape_index" (some i) (some i')
            (by decide) (get?_toJson _ _) (get?_toJson _ _)
          have hp := hstr "part" (some p) (some p') (by decide) (get?_toJson _ _) (get?_toJson _ _)
          rw [Option.some.inj hs, Option.some.inj hi, Option.some.inj hp]
      | _ => simp [kind] at hkind
  | spreadsheet s r =>
      cases l' with
      | spreadsheet s' r' =>
          have hs := hstr "sheet" (some s) (some s') (by decide) (get?_toJson _ _) (get?_toJson _ _)
          have hr := hstr "cell_or_range" (some r) (some r')
            (by decide) (get?_toJson _ _) (get?_toJson _ _)
          rw [Option.some.inj hs, Option.some.inj hr]
      | _ => simp [kind] at hkind
  | notebook i t s e =>
      cases l' with
      | notebook i' t' s' e' =>
          have hi := hnat "cell_index" (some i) (some i')
            (by decide) (get?_toJson _ _) (get?_toJson _ _)
          have ht := hstr "cell_type" (some t) (some t')
            (by decide) (get?_toJson _ _) (get?_toJson _ _)
          have hs := hnat "start_line" s s' (by decide) (get?_toJson _ _) (get?_toJson _ _)
          have he := hnat "end_line" e e' (by decide) (get?_toJson _ _) (get?_toJson _ _)
          rw [Option.some.inj hi, Option.some.inj ht, hs, he]
      | _ => simp [kind] at hkind
  | csv r c =>
      cases l' with
      | csv r' c' =>
          have hr := hnat "row" (some r) (some r') (by decide) (get?_toJson _ _) (get?_toJson _ _)
          have hc := hstr "column" c c' (by decide) (get?_toJson _ _) (get?_toJson _ _)
          rw [Option.some.inj hr, hc]
      | _ => simp [kind] at hkind
  | html i p =>
      cases l' with
      | html i' p' =>
          have hi := hnat "stable_node_index" (some i) (some i')
            (by decide) (get?_toJson _ _) (get?_toJson _ _)
          have hp := hstr "node_path" (some p) (some p')
            (by decide) (get?_toJson _ _) (get?_toJson _ _)
          rw [Option.some.inj hi, Option.some.inj hp]
      | _ => simp [kind] at hkind

end SourceLocator

/-- Two references name one place and revision: they differ at most in the packet. -/
structure EvidenceSourceRef.SamePlace (ref ref' : EvidenceSourceRef) : Prop where
  uri : ref.uri = ref'.uri
  sourcePath : ref.sourcePath = ref'.sourcePath
  lineNumber : ref.lineNumber = ref'.lineNumber
  contentHash : ref.contentHash = ref'.contentHash
  sourceRevision : ref.sourceRevision = ref'.sourceRevision
  locator : ref.locator = ref'.locator

namespace EvidenceSourceRef

/-- The fields of a reference as a plain list. -/
def fields (ref : EvidenceSourceRef) : List (String × Option Json) :=
  [("uri", ref.uri.map .str), ("source_path", ref.sourcePath.map .str),
    ("line_number", ref.lineNumber.map SourceLocator.natJson),
    ("content_hash", ref.contentHash.map .str), ("packet_id", ref.packetId.map .str),
    ("source_revision", ref.sourceRevision.map .str),
    ("locator", ref.locator.map SourceLocator.toJson)]

theorem toJson_eq (ref : EvidenceSourceRef) : ref.toJson = .obj (optionalFields ref.fields) := by
  simp [toJson, fields, optionalFields]

theorem get?_toJson (ref : EvidenceSourceRef) (key : String) :
    ref.toJson.get? key = (ref.fields.lookup key).join := by
  rw [toJson_eq, Json.get?_obj]
  refine lookup_optionalFields ?_ key
  simp [fields]

/-- The packet is the one field of a reference that the hash does not see. -/
theorem semantic_iff {ref ref' : EvidenceSourceRef} :
    ref.toJson.semantic = ref'.toJson.semantic ↔ ref.SamePlace ref' := by
  constructor
  · intro h
    have htext : ∀ (key : String) (x y : Option String), key ∉ volatileFields →
        ref.toJson.get? key = x.map .str → ref'.toJson.get? key = y.map .str → x = y :=
      fun _ _ _ hkey => Json.field_inj Json.str_semantic_inj h hkey
    constructor
    · exact htext "uri" _ _ (by decide) (get?_toJson _ _) (get?_toJson _ _)
    · exact htext "source_path" _ _ (by decide) (get?_toJson _ _) (get?_toJson _ _)
    · exact Json.field_inj natJson_semantic_inj h (show "line_number" ∉ volatileFields by decide)
        (get?_toJson _ _) (get?_toJson _ _)
    · exact htext "content_hash" _ _ (by decide) (get?_toJson _ _) (get?_toJson _ _)
    · exact htext "source_revision" _ _ (by decide) (get?_toJson _ _) (get?_toJson _ _)
    · exact Json.field_inj SourceLocator.semantic_inj h (show "locator" ∉ volatileFields by decide)
        (get?_toJson _ _) (get?_toJson _ _)
  · intro h
    -- the packet id is a volatile key: whatever it is, it is dropped
    have hpacket : ∀ value : Option Json,
        ((optionalField "packet_id" value).filter fun field => field.1 ∉ volatileFields) = [] := by
      intro value
      cases value <;> simp [optionalField, volatileFields]
    unfold toJson
    rw [Json.semantic_obj, Json.semantic_obj]
    simp only [List.filter_append, hpacket, h.uri, h.sourcePath, h.lineNumber, h.contentHash,
      h.sourceRevision, h.locator]

end EvidenceSourceRef

/-! ## Identities -/

theorem EvidenceClass.value_injective : Function.Injective EvidenceClass.value := by
  intro a b
  cases a <;> cases b <;> decide

theorem EvidenceSourceType.value_injective : Function.Injective EvidenceSourceType.value := by
  intro a b
  cases a <;> cases b <;> decide

/-- The arguments of `make_evidence_record`. -/
structure EvidenceArguments where
  subjectId : String
  field : Option String
  stage : String
  evidenceClass : EvidenceClass
  sourceType : EvidenceSourceType
  sourceRef : EvidenceSourceRef
  value : Json
  confidence : ConfidenceAssessment
  producer : String
  producerVersion : String
  createdAt : Timestamp

namespace EvidenceArguments

/-- The record that is made of the arguments. -/
def record (c : Codec) (args : EvidenceArguments) : EvidenceRecord :=
  makeEvidenceRecord c args.subjectId args.field args.stage args.evidenceClass args.sourceType
    args.sourceRef args.value args.confidence args.producer args.producerVersion args.createdAt

/-- What the id is a hash of. -/
def identity (args : EvidenceArguments) : Json :=
  evidenceIdentity args.subjectId args.field args.stage args.evidenceClass args.sourceType
    args.sourceRef args.value args.producer args.producerVersion

/-- The identities agree outside the value. -/
structure SameButValue (a b : EvidenceArguments) : Prop where
  subjectId : a.subjectId = b.subjectId
  field : a.field = b.field
  stage : a.stage = b.stage
  evidenceClass : a.evidenceClass = b.evidenceClass
  sourceType : a.sourceType = b.sourceType
  place : a.sourceRef.SamePlace b.sourceRef
  producer : a.producer = b.producer
  producerVersion : a.producerVersion = b.producerVersion

/-- Nothing that tells one piece of evidence from another differs. Values that differ in the order
    of their keys are one value. -/
structure Agree (a b : EvidenceArguments) : Prop where
  subjectId : a.subjectId = b.subjectId
  field : a.field = b.field
  stage : a.stage = b.stage
  evidenceClass : a.evidenceClass = b.evidenceClass
  sourceType : a.sourceType = b.sourceType
  place : a.sourceRef.SamePlace b.sourceRef
  producer : a.producer = b.producer
  value : a.value.canonicalData = b.value.canonicalData

theorem field_eq_of_semantic {x y : Option String}
    (h : ((x.map Json.str).getD .null).semantic = ((y.map Json.str).getD .null).semantic) :
    x = y := by
  cases x with
  | none =>
      cases y with
      | none => rfl
      | some t => cases h
  | some s =>
      cases y with
      | none => cases h
      | some t => rw [Json.str_semantic_inj s t h]

theorem identity_semantic_iff {a b : EvidenceArguments} :
    a.identity.semantic = b.identity.semantic ↔
      a.SameButValue b ∧ a.value.semantic = b.value.semantic := by
  constructor
  · intro h
    have htext : ∀ (key x y : String), key ∉ volatileFields →
        a.identity.get? key = some (.str x) → b.identity.get? key = some (.str y) → x = y := by
      intro key x y hkey hx hy
      have hsame := Json.field_inj (x := some x) (y := some y) Json.str_semantic_inj h hkey hx hy
      exact Option.some.inj hsame
    have hget : ∀ (key : String) (v w : Json), key ∉ volatileFields →
        a.identity.get? key = some v → b.identity.get? key = some w → v.semantic = w.semantic := by
      intro key v w hkey hv hw
      have hsame := Json.get?_of_semantic_eq h hkey
      rw [hv, hw] at hsame
      exact Option.some.inj hsame
    refine ⟨?_, hget "value" _ _ (by decide) rfl rfl⟩
    constructor
    · exact htext "subject_id" _ _ (by decide) rfl rfl
    · exact field_eq_of_semantic (hget "field" _ _ (by decide) rfl rfl)
    · exact htext "stage" _ _ (by decide) rfl rfl
    · exact EvidenceClass.value_injective (htext "evidence_class" _ _ (by decide) rfl rfl)
    · exact EvidenceSourceType.value_injective (htext "source_type" _ _ (by decide) rfl rfl)
    · exact EvidenceSourceRef.semantic_iff.1 (hget "source_ref" _ _ (by decide) rfl rfl)
    · exact htext "producer" _ _ (by decide) rfl rfl
    · exact htext "producer_version" _ _ (by decide) rfl rfl
  · rintro ⟨hsame, hvalue⟩
    have hplace := EvidenceSourceRef.semantic_iff.2 hsame.place
    unfold identity evidenceIdentity
    rw [Json.semantic_obj, Json.semantic_obj]
    simp only [List.filter_cons, hsame.subjectId, hsame.field, hsame.stage,
      hsame.evidenceClass, hsame.sourceType, hsame.producer, hsame.producerVersion]
    simp [volatileFields, hplace, hvalue]

/-- What two equal evidence ids say of the arguments. -/
theorem evidenceId_eq_iff {c : Codec} (h : c.Faithful) {a b : EvidenceArguments} :
    (a.record c).evidenceId = (b.record c).evidenceId ↔
      a.SameButValue b ∧ a.value.semantic = b.value.semantic := by
  rw [← identity_semantic_iff]
  exact h.stableId_inj "evidence"

end EvidenceArguments

/-! ## Reconciliation -/

namespace ReconcileEvidence

/-- Whatever else is in the pool, and in whatever order, both records come out of it. -/
def KeepsBoth (c : Codec) (str : Json → String) (record record' : EvidenceRecord) : Prop :=
  ∀ rest evidence : List EvidenceRecord,
    (∀ other ∈ rest, other.evidenceId ≠ record.evidenceId ∧
      other.evidenceId ≠ record'.evidenceId) →
    evidence.Perm (record :: record' :: rest) →
      record ∈ (run c str evidence).evidence ∧ record' ∈ (run c str evidence).evidence

/-- A record whose id no other one of the pool has is kept. -/
theorem mem_evidence_of_only {c : Codec} {str : Json → String} {record : EvidenceRecord}
    {rest evidence : List EvidenceRecord}
    (hperm : evidence.Perm (record :: rest))
    (hother : ∀ other ∈ rest, other.evidenceId ≠ record.evidenceId) :
    record ∈ (run c str evidence).evidence := by
  have hfilter : (evidence.filter fun r => r.evidenceId = record.evidenceId).Perm [record] := by
    refine (hperm.filter _).trans ?_
    rw [List.filter_cons_of_pos (by simp), List.filter_eq_nil_iff.2 fun other hmem => by
      simpa using hother other hmem]
  show record ∈ sortedBy _ _
  rw [mem_sortedBy, Table.mem_rows_iff, byId, Table.lookup_ofRows, List.perm_singleton.1 hfilter]
  rfl

theorem keepsBoth_of_ne {c : Codec} {str : Json → String} {record record' : EvidenceRecord}
    (hne : record.evidenceId ≠ record'.evidenceId) : KeepsBoth c str record record' := by
  intro rest evidence hrest hperm
  constructor
  · refine mem_evidence_of_only hperm ?_
    intro other hmem
    rcases List.mem_cons.1 hmem with rfl | hmem
    · exact hne.symm
    · exact (hrest other hmem).1
  · refine mem_evidence_of_only (hperm.trans (List.Perm.swap ..)) ?_
    intro other hmem
    rcases List.mem_cons.1 hmem with rfl | hmem
    · exact hne
    · exact (hrest other hmem).2

end ReconcileEvidence

namespace EvidenceArguments

open ReconcileEvidence

/-- **Evidence identity.** Two records that differ in anything but the volatile keys inside their
    values have different ids and are both kept, and those that differ in nothing else never do. -/
theorem evidence_identity_iff {c : Codec} (hc : c.Faithful) (str : Json → String)
    (a b : EvidenceArguments) :
    (¬ a.Agree b → (a.record c).evidenceId ≠ (b.record c).evidenceId ∧
        KeepsBoth c str (a.record c) (b.record c)) ↔
      (a.SameButValue b → a.value.canonicalData = b.value.canonicalData ∨
        a.value.semantic ≠ b.value.semantic) := by
  constructor
  · intro h hsame
    by_cases hvalue : a.value.canonicalData = b.value.canonicalData
    · exact Or.inl hvalue
    · -- values that differ in volatile keys only would share the id
      right
      intro hsemantic
      exact (h fun hagree => hvalue hagree.value).1 ((evidenceId_eq_iff hc).2 ⟨hsame, hsemantic⟩)
  · intro h hdiffer
    have hne : (a.record c).evidenceId ≠ (b.record c).evidenceId := by
      intro heq
      obtain ⟨hsame, hsemantic⟩ := (evidenceId_eq_iff hc).1 heq
      rcases h hsame with hvalue | hvalue
      · exact hdiffer { hsame with value := hvalue }
      · exact hvalue hsemantic
    exact ⟨hne, keepsBoth_of_ne hne⟩

/-- What a document says of a release. -/
def releaseEvidence (value : Json) : EvidenceArguments where
  subjectId := "artifact:release"
  field := some "release"
  stage := "observe"
  evidenceClass := .observed
  sourceType := .file
  sourceRef :=
    { sourcePath_portable := noPath_portable
      lineNumber_positive := noLine_positive
      locator_valid := noLocator_valid
      lineNumber_agrees := noLocator_agrees }
  value := value
  confidence := .deterministic
  producer := "repo-model"
  producerVersion := "1.0.0"
  createdAt := ⟨"2026-01-01T00:00:00Z"⟩

theorem evidence_identity_iff_texts :
    (¬ (releaseEvidence (.str "1.0.0")).Agree (releaseEvidence (.str "1.1.0")) →
        ((releaseEvidence (.str "1.0.0")).record textCodec).evidenceId ≠
          ((releaseEvidence (.str "1.1.0")).record textCodec).evidenceId ∧
        KeepsBoth textCodec textStr ((releaseEvidence (.str "1.0.0")).record textCodec)
          ((releaseEvidence (.str "1.1.0")).record textCodec)) ↔
      ((releaseEvidence (.str "1.0.0")).SameButValue (releaseEvidence (.str "1.1.0")) →
        (Json.str "1.0.0").canonicalData = (Json.str "1.1.0").canonicalData ∨
          (Json.str "1.0.0").semantic ≠ (Json.str "1.1.0").semantic) :=
  evidence_identity_iff textCodec_faithful textStr _ _

/-- A release and the time it was created at. -/
def releasedAt (createdAt : String) : Json :=
  .obj [("version", .str "1.0.0"), ("created_at", .str createdAt)]

/-- Two times of one release share an id. -/
theorem evidence_shadowed :
    ¬ ∀ (c : Codec) (str : Json → String) (a b : EvidenceArguments), c.Faithful →
      ¬ a.Agree b → (a.record c).evidenceId ≠ (b.record c).evidenceId ∧
        KeepsBoth c str (a.record c) (b.record c) := by
  intro h
  have hdiffer : ¬ (releaseEvidence (releasedAt "2025-06-01")).Agree
      (releaseEvidence (releasedAt "2026-06-01")) := by
    intro hagree
    have hcreated := congrArg (Json.fieldText? "created_at") hagree.value
    rw [Json.fieldText?_canonicalData, Json.fieldText?_canonicalData] at hcreated
    exact absurd hcreated (by decide)
  refine (h textCodec textStr _ _ textCodec_faithful hdiffer).1 ?_
  rw [evidenceId_eq_iff textCodec_faithful]
  refine ⟨⟨rfl, rfl, rfl, rfl, rfl, ⟨rfl, rfl, rfl, rfl, rfl, rfl⟩, rfl, rfl⟩, ?_⟩
  show (releasedAt "2025-06-01").semantic = (releasedAt "2026-06-01").semantic
  unfold releasedAt
  rw [Json.semantic_obj, Json.semantic_obj]
  simp [volatileFields]

end EvidenceArguments

end ConstellationTopology
