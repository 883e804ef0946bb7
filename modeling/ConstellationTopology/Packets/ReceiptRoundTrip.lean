import ConstellationTopology.Library.KeyOrder
import ConstellationTopology.Packets.BundleManifest
import ConstellationTopology.Packets.TopologyBundle

set_option autoImplicit false

/-! # A receipt comes back from its file

The canonical text of a receipt is that of its canonical data, so it comes back with the details of
its checks sorted. Its identity does not see the order of keys, and still verifies. -/

namespace ConstellationTopology

/-- The check with its details in canonical form. -/
def ValidationCheck.canonical (check : ValidationCheck) : ValidationCheck :=
  { check with details := canonicalMapping check.details }

/-- The receipt with the details of its checks in canonical form. -/
def ValidationReceipt.canonical (receipt : ValidationReceipt) : ValidationReceipt :=
  { receipt with
    schemaResults := receipt.schemaResults.map ValidationCheck.canonical
    invariantResults := receipt.invariantResults.map ValidationCheck.canonical
    evidenceResults := receipt.evidenceResults.map ValidationCheck.canonical
    crossReferenceResults := receipt.crossReferenceResults.map ValidationCheck.canonical }

/-! ## Reading the texts -/

theorem CheckClass.ofValue?_value (checkClass : CheckClass) :
    CheckClass.ofValue? checkClass.value = some checkClass := by
  cases checkClass <;> rfl

theorem ValidationStatus.ofValue?_value (status : ValidationStatus) :
    ValidationStatus.ofValue? status.value = some status := by
  cases status <;> rfl

theorem Producer.ofJson_toJson (producer : Producer) :
    ofJson producer.toJson.canonicalData = some producer := by
  have hkeys : forbidExtra ["name", "version"] producer.toJson.canonicalData = some () :=
    forbidExtra_canonicalData _ _ (by simp)
  simp only [ofJson, hkeys, Json.fieldText?_canonicalData]
  rfl

/-- A list comes back element by element, each as far as it does. -/
theorem mapM_ofJson_canonical {α : Type} {toJson : α → Json} {ofJson : Json → Option α}
    {canonical : α → α} (h : ∀ item, ofJson (toJson item).canonicalData = some (canonical item))
    (items : List α) :
    (Json.canonicalItems (items.map toJson)).mapM ofJson = some (items.map canonical) := by
  induction items with
  | nil => rfl
  | cons item rest ih =>
      rw [List.map_cons, Json.canonicalItems, List.mapM_cons, h, ih]
      rfl

theorem mapM_readText (texts : List String) :
    (Json.canonicalItems (texts.map Json.str)).mapM readText = some texts :=
  mapM_ofJson_toJson (fun _ => rfl) texts

/-! ## A check -/

theorem ValidationCheck.get?_path (check : ValidationCheck) :
    check.toJson.get? "path" = check.path.map .str := by
  cases hpath : check.path <;> simp [toJson, hpath, optionalField, List.lookup_cons]

theorem ValidationCheck.get?_tail (check : ValidationCheck) {key : String} (hkey : key ≠ "path")
    (hbase : [("check_id", Json.str check.checkId), ("check_class", .str check.checkClass.value),
      ("rule", .str check.rule), ("status", .str check.status.value),
      ("message", .str check.message)].lookup key = none) :
    check.toJson.get? key =
      [("evidence_refs", Json.strings check.evidenceRefs), ("details", .obj check.details)].lookup
        key := by
  have hpath : (optionalField "path" (check.path.map .str)).lookup key = none := by
    refine List.lookup_eq_none_iff.2 fun field hfield => ?_
    rw [fst_of_mem_optionalField hfield]
    simpa using hkey
  rw [toJson, Json.get?_obj, List.lookup_append, List.lookup_append, hbase, hpath]
  rfl

theorem ValidationCheck.ofJson_toJson (check : ValidationCheck) :
    ofJson check.toJson.canonicalData = some check.canonical := by
  have hkeys : forbidExtra ["check_id", "check_class", "rule", "status", "message", "path",
      "evidence_refs", "details"] check.toJson.canonicalData = some () := by
    refine forbidExtra_canonicalData _ _ fun field hfield => ?_
    rcases List.mem_append.1 hfield with hfront | htail
    · rcases List.mem_append.1 hfront with hbase | hpath
      · simp only [List.mem_cons, List.not_mem_nil, or_false] at hbase
        rcases hbase with rfl | rfl | rfl | rfl | rfl <;> simp
      · rw [fst_of_mem_optionalField hpath]
        simp
    · simp only [List.mem_cons, List.not_mem_nil, or_false] at htail
      rcases htail with rfl | rfl <;> simp
  have hclass : (check.toJson.fieldText? "check_class").bind CheckClass.ofValue? =
      some check.checkClass := check.checkClass.ofValue?_value
  have hstatus : (check.toJson.fieldText? "status").bind ValidationStatus.ofValue? =
      some check.status := check.status.ofValue?_value
  have hpath : nullableField readText "path" check.toJson.canonicalData = some check.path :=
    nullableField_toJson .str check.get?_path (fun _ => rfl) fun _ => Json.noConfusion
  have hrefs : tupleField readText "evidence_refs" check.toJson.canonicalData =
      some check.evidenceRefs := by
    rw [tupleField, Json.get?_canonicalData, check.get?_tail (by decide) rfl]
    exact mapM_readText check.evidenceRefs
  have hdetails : mappingField "details" check.toJson.canonicalData =
      some (canonicalMapping check.details) := by
    rw [mappingField, Json.get?_canonicalData, check.get?_tail (by decide) rfl]
    rfl
  simp only [ofJson, hkeys, Json.fieldText?_canonicalData, hclass, hstatus, hpath, hrefs, hdetails]
  rfl

/-! ## The receipt -/

variable (pydantic : Pydantic) (now : Timestamp)

/-- The checks of one kind come back. -/
theorem tupleField_checks {key : String} {value : Json} {checks : List ValidationCheck}
    (h : value.get? key = some (.arr (checks.map ValidationCheck.toJson))) :
    tupleField ValidationCheck.ofJson key value.canonicalData =
      some (checks.map ValidationCheck.canonical) := by
  rw [tupleField, Json.get?_canonicalData, h]
  exact mapM_ofJson_canonical ValidationCheck.ofJson_toJson checks

/-- **A receipt comes back** with the details of its checks sorted. -/
theorem ValidationReceipt.ofJson_toJson (receipt : ValidationReceipt) :
    ofJson pydantic now receipt.toJson.canonicalData = some receipt.canonical := by
  have hkeys : forbidExtra ["packet_type", "packet_version", "receipt_id", "subject_packet_id",
      "subject_semantic_hash", "validator", "status", "schema_results", "invariant_results",
      "evidence_results", "cross_reference_results", "created_at", "semantic_hash"]
      receipt.toJson.canonicalData = some () := forbidExtra_canonicalData _ _ (by simp)
  have htype : defaultedText "packet_type" "l9.validation-receipt" receipt.toJson.canonicalData =
      some "l9.validation-receipt" := by
    rw [defaultedText, Json.get?_canonicalData]
    rfl
  have hversion : defaultedText "packet_version" "1.0.0" receipt.toJson.canonicalData =
      some receipt.packetVersion := by
    rw [defaultedText, Json.get?_canonicalData]
    rfl
  have hvalidator : (receipt.toJson.canonicalData.get? "validator").bind Producer.ofJson =
      some receipt.validator := by
    rw [Json.get?_canonicalData]
    exact receipt.validator.ofJson_toJson
  have hstatus : (receipt.toJson.fieldText? "status").bind ValidationStatus.ofValue? =
      some receipt.status := receipt.status.ofValue?_value
  have htime : defaultedTime pydantic now "created_at" receipt.toJson.canonicalData =
      some receipt.createdAt := by
    rw [defaultedTime, Json.get?_canonicalData]
    exact pydantic.datetime_isoformat _
  have hschema : tupleField ValidationCheck.ofJson "schema_results" receipt.toJson.canonicalData =
      some (receipt.schemaResults.map ValidationCheck.canonical) := tupleField_checks rfl
  have hinvariant : tupleField ValidationCheck.ofJson "invariant_results"
      receipt.toJson.canonicalData =
        some (receipt.invariantResults.map ValidationCheck.canonical) := tupleField_checks rfl
  have hevidence : tupleField ValidationCheck.ofJson "evidence_results"
      receipt.toJson.canonicalData =
        some (receipt.evidenceResults.map ValidationCheck.canonical) := tupleField_checks rfl
  have hcross : tupleField ValidationCheck.ofJson "cross_reference_results"
      receipt.toJson.canonicalData =
        some (receipt.crossReferenceResults.map ValidationCheck.canonical) := tupleField_checks rfl
  simp only [ofJson, hkeys, htype, hversion, Json.fieldText?_canonicalData, hvalidator, hstatus,
    hschema, hinvariant, hevidence, hcross, htime]
  rfl

/-! ## Its identity -/

/-- The canonical form of an object is that of its fields. -/
theorem canonicalData_obj_congr {fields fields' : List (String × Json)}
    (h : Json.canonicalFields fields = Json.canonicalFields fields') :
    (Json.obj fields).canonicalData = (Json.obj fields').canonicalData := by
  rw [Json.canonicalData, Json.canonicalData, h]

theorem ValidationCheck.canonicalData_canonical (check : ValidationCheck) :
    check.canonical.toJson.canonicalData = check.toJson.canonicalData := by
  have hdetails : (Json.obj (canonicalMapping check.details)).canonicalData =
      (Json.obj check.details).canonicalData := Json.canonicalData_idem (.obj check.details)
  refine canonicalData_obj_congr ?_
  simp only [Json.canonicalFields_eq_map, List.map_append, canonical, List.map_cons, List.map_nil,
    hdetails]

theorem canonicalData_checks (checks : List ValidationCheck) :
    (Json.arr ((checks.map ValidationCheck.canonical).map ValidationCheck.toJson)).canonicalData =
      (Json.arr (checks.map ValidationCheck.toJson)).canonicalData := by
  rw [Json.canonicalData, Json.canonicalData, Json.canonicalItems_eq_map,
    Json.canonicalItems_eq_map]
  simp only [List.map_map, Function.comp_def, ValidationCheck.canonicalData_canonical]

theorem canonicalData_receiptView (receipt : ValidationReceipt) :
    (validationReceiptSemanticView receipt.canonical).canonicalData =
      (validationReceiptSemanticView receipt).canonicalData := by
  refine canonicalData_obj_congr ?_
  simp only [Json.canonicalFields_eq_map, List.map_cons, List.map_nil,
    ValidationReceipt.canonical, canonicalData_checks]

/-- The semantic hash does not see the order of keys. -/
theorem semanticHash_congr (c : Codec) {value value' : Json}
    (h : value.canonicalData = value'.canonicalData) :
    c.semanticHash value = c.semanticHash value' := by
  rw [Codec.semanticHash, Codec.canonicalBytes, Codec.canonicalJson,
    Json.canonicalData_dropKeys_congr volatileFields h]
  rfl

/-- A receipt that verifies still does when it comes back. -/
theorem validateValidationReceipt_canonical (c : Codec) (receipt : ValidationReceipt) :
    validateValidationReceipt c receipt.canonical = validateValidationReceipt c receipt := by
  rw [validateValidationReceipt, validateValidationReceipt,
    semanticHash_congr c (canonicalData_receiptView receipt)]
  rfl

end ConstellationTopology
