import ConstellationTopology.Domain.Confidence
import ConstellationTopology.Run.Hashing
import ConstellationTopology.Run.SourcePath

set_option autoImplicit false

/-! # Evidence records

`run/evidence.py`: where a piece of evidence was read, the record of it, and the identity that
`make_evidence_record` gives the record. -/

namespace ConstellationTopology

/-! ## Locators -/

/-- The coordinate of a piece of evidence in the system its format has. -/
inductive SourceLocator
  | line (startLine endLine : ℕ)
  | pdf (pageNumber blockIndex : ℕ)
  | docx (blockIndex : ℕ) (blockKind part : String)
  | pptx (slideNumber shapeIndex : ℕ) (part : String)
  | spreadsheet (sheet cellOrRange : String)
  | notebook (cellIndex : ℕ) (cellType : String) (startLine endLine : Option ℕ)
  | csv (row : ℕ) (column : Option String)
  | html (stableNodeIndex : ℕ) (nodePath : String)
  deriving DecidableEq, Repr

namespace SourceLocator

/-- The lower bounds of the numbers that count from one. -/
def Valid : SourceLocator → Prop
  | line startLine endLine => 1 ≤ startLine ∧ 1 ≤ endLine
  | pdf pageNumber _ => 1 ≤ pageNumber
  | pptx slideNumber _ _ => 1 ≤ slideNumber
  | notebook _ _ startLine endLine => (∀ n ∈ startLine, 1 ≤ n) ∧ ∀ n ∈ endLine, 1 ≤ n
  | csv row _ => 1 ≤ row
  | _ => True

/-- The tag of a locator. -/
def kind : SourceLocator → String
  | line .. => "line"
  | pdf .. => "pdf"
  | docx .. => "docx"
  | pptx .. => "pptx"
  | spreadsheet .. => "spreadsheet"
  | notebook .. => "notebook"
  | csv .. => "csv"
  | html .. => "html"

/-- A count as a number. -/
def natJson (n : ℕ) : Json := .int n

def toJson (locator : SourceLocator) : Json :=
  .obj (("kind", .str locator.kind) ::
    match locator with
    | line startLine endLine => [("start_line", natJson startLine), ("end_line", natJson endLine)]
    | pdf pageNumber blockIndex =>
        [("page_number", natJson pageNumber), ("block_index", natJson blockIndex)]
    | docx blockIndex blockKind part =>
        [("block_index", natJson blockIndex), ("block_kind", .str blockKind), ("part", .str part)]
    | pptx slideNumber shapeIndex part =>
        [("slide_number", natJson slideNumber), ("shape_index", natJson shapeIndex),
          ("part", .str part)]
    | spreadsheet sheet cellOrRange =>
        [("sheet", .str sheet), ("cell_or_range", .str cellOrRange)]
    | notebook cellIndex cellType startLine endLine =>
        [("cell_index", natJson cellIndex), ("cell_type", .str cellType)]
          ++ optionalField "start_line" (startLine.map natJson)
          ++ optionalField "end_line" (endLine.map natJson)
    | csv row column => ("row", natJson row) :: optionalField "column" (column.map .str)
    | html stableNodeIndex nodePath =>
        [("stable_node_index", natJson stableNodeIndex), ("node_path", .str nodePath)])

end SourceLocator

/-! ## Source references -/

/-- Where a piece of evidence was read. A path is portable, and a line number stands only beside no
    locator or a line locator that starts there. -/
structure EvidenceSourceRef where
  uri : Option String := none
  sourcePath : Option String := none
  lineNumber : Option ℕ := none
  contentHash : Option String := none
  packetId : Option String := none
  sourceRevision : Option String := none
  locator : Option SourceLocator := none
  sourcePath_portable : ∀ path ∈ sourcePath, ∃ raw, normalizeSourcePath raw = .ok path
  lineNumber_positive : ∀ n ∈ lineNumber, 1 ≤ n
  locator_valid : ∀ l ∈ locator, l.Valid
  lineNumber_agrees : ∀ l ∈ locator, ∀ n ∈ lineNumber, ∃ endLine, l = .line n endLine
  deriving DecidableEq

/-! What a reference leaves out meets its conditions. -/

theorem noPath_portable : ∀ path ∈ (none : Option String), ∃ raw,
    normalizeSourcePath raw = .ok path := by
  simp

theorem noLine_positive : ∀ n ∈ (none : Option ℕ), 1 ≤ n := by
  simp

theorem noLocator_valid : ∀ l ∈ (none : Option SourceLocator), l.Valid := by
  simp

theorem noLocator_agrees : ∀ l ∈ (none : Option SourceLocator), ∀ n ∈ (none : Option ℕ),
    ∃ endLine, l = .line n endLine := by
  simp

/-- `model_dump(mode="json", exclude_none=True)` of a reference. -/
def EvidenceSourceRef.toJson (ref : EvidenceSourceRef) : Json :=
  .obj (optionalField "uri" (ref.uri.map .str)
    ++ optionalField "source_path" (ref.sourcePath.map .str)
    ++ optionalField "line_number" (ref.lineNumber.map SourceLocator.natJson)
    ++ optionalField "content_hash" (ref.contentHash.map .str)
    ++ optionalField "packet_id" (ref.packetId.map .str)
    ++ optionalField "source_revision" (ref.sourceRevision.map .str)
    ++ optionalField "locator" (ref.locator.map SourceLocator.toJson))

theorem lookup_optionalField_append {key k : String} {value : Option Json}
    {rest : List (String × Json)} (hne : k ≠ key) :
    (optionalField key value ++ rest).lookup k = rest.lookup k := by
  cases value with
  | none => rfl
  | some v => simp [optionalField, List.lookup_cons, beq_false_of_ne hne]

/-- A list of optional fields. -/
def optionalFields (fields : List (String × Option Json)) : List (String × Json) :=
  fields.flatMap fun field => optionalField field.1 field.2

theorem lookup_optionalFields {fields : List (String × Option Json)}
    (hnodup : (fields.map Prod.fst).Nodup) (key : String) :
    (optionalFields fields).lookup key = (fields.lookup key).join := by
  induction fields with
  | nil => rfl
  | cons field rest ih =>
      obtain ⟨name, value⟩ := field
      rw [List.map_cons, List.nodup_cons] at hnodup
      have ih := ih hnodup.2
      show (optionalField name value ++ optionalFields rest).lookup key = _
      by_cases hkey : key = name
      · subst hkey
        cases value with
        | some v => simp [optionalField]
        | none =>
            -- the key is in no later field either
            have hrest : rest.lookup key = none :=
              List.lookup_eq_none_iff.2 fun field hfield =>
                bne_iff_ne.2 fun heq => hnodup.1 (List.mem_map.2 ⟨field, hfield, heq.symm⟩)
            simp [optionalField, ih, hrest]
      · rw [lookup_optionalField_append hkey, ih, List.lookup_cons, beq_false_of_ne hkey]

namespace SourceLocator

/-- The fields beside the kind. -/
def fields : SourceLocator → List (String × Option Json)
  | line startLine endLine =>
      [("start_line", some (natJson startLine)), ("end_line", some (natJson endLine))]
  | pdf pageNumber blockIndex =>
      [("page_number", some (natJson pageNumber)), ("block_index", some (natJson blockIndex))]
  | docx blockIndex blockKind part =>
      [("block_index", some (natJson blockIndex)), ("block_kind", some (.str blockKind)),
        ("part", some (.str part))]
  | pptx slideNumber shapeIndex part =>
      [("slide_number", some (natJson slideNumber)), ("shape_index", some (natJson shapeIndex)),
        ("part", some (.str part))]
  | spreadsheet sheet cellOrRange =>
      [("sheet", some (.str sheet)), ("cell_or_range", some (.str cellOrRange))]
  | notebook cellIndex cellType startLine endLine =>
      [("cell_index", some (natJson cellIndex)), ("cell_type", some (.str cellType)),
        ("start_line", startLine.map natJson), ("end_line", endLine.map natJson)]
  | csv row column => [("row", some (natJson row)), ("column", column.map .str)]
  | html stableNodeIndex nodePath =>
      [("stable_node_index", some (natJson stableNodeIndex)), ("node_path", some (.str nodePath))]

theorem toJson_eq (locator : SourceLocator) :
    locator.toJson =
      .obj (optionalFields (("kind", some (.str locator.kind)) :: locator.fields)) := by
  cases locator <;> simp [toJson, fields, optionalFields, optionalField]

theorem get?_toJson (locator : SourceLocator) (key : String) :
    locator.toJson.get? key =
      ((("kind", some (.str locator.kind)) :: locator.fields).lookup key).join := by
  rw [toJson_eq, Json.get?_obj]
  refine lookup_optionalFields ?_ key
  cases locator <;> simp [fields]

end SourceLocator

/-- The revision is found where the reference put it. -/
theorem EvidenceSourceRef.get?_sourceRevision (ref : EvidenceSourceRef) :
    ref.toJson.get? "source_revision" = ref.sourceRevision.map .str := by
  unfold toJson
  simp only [Json.get?_obj, List.append_assoc]
  rw [lookup_optionalField_append (show "source_revision" ≠ "uri" by decide),
    lookup_optionalField_append (show "source_revision" ≠ "source_path" by decide),
    lookup_optionalField_append (show "source_revision" ≠ "line_number" by decide),
    lookup_optionalField_append (show "source_revision" ≠ "content_hash" by decide),
    lookup_optionalField_append (show "source_revision" ≠ "packet_id" by decide)]
  cases hrevision : ref.sourceRevision with
  | none =>
      rw [← List.append_nil (optionalField "locator" _)]
      exact lookup_optionalField_append (show "source_revision" ≠ "locator" by decide)
  | some revision => rfl

/-! ## Records -/

/-- How a fact came to be known. -/
inductive EvidenceClass
  | observed
  | declared
  | derived
  | assisted
  | projected
  | validated
  | committed
  deriving DecidableEq, Repr

/-- The class of evidence as it is serialized. -/
def EvidenceClass.value : EvidenceClass → String
  | observed => "observed"
  | declared => "declared"
  | derived => "derived"
  | assisted => "assisted"
  | projected => "projected"
  | validated => "validated"
  | committed => "committed"

/-- What a fact was read from. -/
inductive EvidenceSourceType
  | file
  | packet
  | inference
  | validation
  | unknown
  deriving DecidableEq, Repr

/-- The source type as it is serialized. -/
def EvidenceSourceType.value : EvidenceSourceType → String
  | file => "file"
  | packet => "packet"
  | inference => "inference"
  | validation => "validation"
  | unknown => "unknown"

/-- One observation about one subject. -/
structure EvidenceRecord where
  evidenceId : String
  subjectId : String
  field : Option String
  stage : String
  evidenceClass : EvidenceClass
  sourceType : EvidenceSourceType
  sourceRef : EvidenceSourceRef
  value : Json
  confidence : ConfidenceAssessment
  producer : String
  producerVersion : String
  createdAt : Timestamp

/-- The record as it is dumped: a `value` that is `None` is left out like any other field. -/
def EvidenceRecord.toJson (record : EvidenceRecord) : Json :=
  .obj ([("evidence_id", .str record.evidenceId), ("subject_id", .str record.subjectId)]
    ++ optionalField "field" (record.field.map .str)
    ++ [("stage", .str record.stage),
      ("evidence_class", .str record.evidenceClass.value),
      ("source_type", .str record.sourceType.value),
      ("source_ref", record.sourceRef.toJson)]
    ++ optionalField "value" record.value.present
    ++ [("confidence", record.confidence.toJson),
      ("producer", .str record.producer),
      ("producer_version", .str record.producerVersion),
      ("created_at", .str record.createdAt.isoformat)])

/-- The identity of an evidence record; a field that is `None` stays in a plain dictionary. -/
def evidenceIdentity (subjectId : String) (field : Option String) (stage : String)
    (evidenceClass : EvidenceClass) (sourceType : EvidenceSourceType)
    (sourceRef : EvidenceSourceRef) (value : Json) (producer producerVersion : String) : Json :=
  .obj [("subject_id", .str subjectId),
    ("field", (field.map .str).getD .null),
    ("stage", .str stage),
    ("evidence_class", .str evidenceClass.value),
    ("source_type", .str sourceType.value),
    ("source_ref", sourceRef.toJson),
    ("value", value),
    ("producer", .str producer),
    ("producer_version", .str producerVersion)]

/-- `make_evidence_record`. -/
def makeEvidenceRecord (c : Codec) (subjectId : String) (field : Option String) (stage : String)
    (evidenceClass : EvidenceClass) (sourceType : EvidenceSourceType)
    (sourceRef : EvidenceSourceRef) (value : Json) (confidence : ConfidenceAssessment)
    (producer producerVersion : String) (createdAt : Timestamp) : EvidenceRecord where
  evidenceId := c.stableId "evidence" (evidenceIdentity subjectId field stage evidenceClass
    sourceType sourceRef value producer producerVersion)
  subjectId := subjectId
  field := field
  stage := stage
  evidenceClass := evidenceClass
  sourceType := sourceType
  sourceRef := sourceRef
  value := value
  confidence := confidence
  producer := producer
  producerVersion := producerVersion
  createdAt := createdAt

end ConstellationTopology
