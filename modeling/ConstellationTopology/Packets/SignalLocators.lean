import ConstellationTopology.Packets.PayloadFraming
import ConstellationTopology.Run.Evidence

set_option autoImplicit false

/-! # Locators of work signals

`translate_locator` of `packets/adapters/meta_work_signals.py`: the coordinate of a record, read in
the vocabulary of the producer and written in the compiler's. Both name the same eight coordinate
systems, one builder each.

`SameCoordinate` says when a locator denotes the coordinate that a record states. A translation that
succeeds gives such a locator unless it dropped a column or a block kind that is no text
(`sameCoordinate_iff_of_translate`). -/

namespace ConstellationTopology

open Json (fieldText?_eq_some)

/-- `LOCATOR_KIND_BY_PRODUCER_KIND`. -/
def locatorKindByProducerKind : List (String × String) :=
  [("line_span", "line"), ("notebook_cell", "notebook"), ("pdf_page_block", "pdf"),
    ("docx_block", "docx"), ("pptx_shape", "pptx"), ("spreadsheet_cell", "spreadsheet"),
    ("csv_row", "csv"), ("html_node", "html")]

/-- `LINE_BEARING_FORMATS`. -/
def lineBearingFormats : List String := ["text", "markdown", "csv", "html", "ipynb"]

/-- A locator whose numbers are in their ranges. -/
abbrev CheckedLocator := { locator : SourceLocator // locator.Valid }

/-- `_require_int` of a minimum that is not negative. -/
def requireOrdinal (container : Json) (key : String) (minimum : ℕ) (context : String) :
    Except PayloadError { n : ℕ // minimum ≤ n } :=
  match h : requireInt container key minimum context with
  | .error error => .error error
  | .ok value => .ok ⟨value.toNat, by
      have := (requireInt_eq_ok.1 h).2
      omega⟩

/-- A number that may be absent. -/
def optionalOrdinal (container : Json) (key : String) (minimum : ℕ) (context : String) :
    Except PayloadError (Option { n : ℕ // minimum ≤ n }) :=
  match container.get? key with
  | none | some .null => .ok none
  | some _ => (requireOrdinal container key minimum context).map some

/-! ## The builders -/

/-- What builds a locator from a coordinate, the context of its errors and the kind of the block. -/
abbrev LocatorBuilder := Json → String → String → Except PayloadError CheckedLocator

/-- `_line_locator`. -/
def lineLocator : LocatorBuilder := fun raw context _ => do
  let startLine ← requireOrdinal raw "line_start" 1 context
  let endLine ← requireOrdinal raw "line_end" 1 context
  return ⟨.line startLine endLine, startLine.2, endLine.2⟩

theorem forall_mem_map_val {minimum : ℕ} (found : Option { n : ℕ // minimum ≤ n }) :
    ∀ n ∈ found.map Subtype.val, minimum ≤ n := by
  cases found with
  | none => exact fun n h => nomatch h
  | some n => simpa using n.2

/-- `_notebook_locator`. -/
def notebookLocator : LocatorBuilder := fun raw context _ => do
  let cellIndex ← requireOrdinal raw "cell_index" 0 context
  let cellType ← requireText raw "cell_type" context
  let startLine ← optionalOrdinal raw "line_start" 1 context
  let endLine ← optionalOrdinal raw "line_end" 1 context
  return ⟨.notebook cellIndex cellType (startLine.map Subtype.val) (endLine.map Subtype.val),
    forall_mem_map_val startLine, forall_mem_map_val endLine⟩

/-- `_pdf_locator`. -/
def pdfLocator : LocatorBuilder := fun raw context _ => do
  let pageNumber ← requireOrdinal raw "page_number" 1 context
  let blockIndex ← requireOrdinal raw "block_index" 0 context
  return ⟨.pdf pageNumber blockIndex, pageNumber.2⟩

/-- `_docx_locator`. -/
def docxLocator : LocatorBuilder := fun raw context blockKind => do
  let blockIndex ← requireOrdinal raw "block_index" 0 context
  let part ← requireText raw "part" context
  return ⟨.docx blockIndex blockKind part, trivial⟩

/-- `_pptx_locator`. -/
def pptxLocator : LocatorBuilder := fun raw context _ => do
  let slideNumber ← requireOrdinal raw "slide_number" 1 context
  let shapeIndex ← requireOrdinal raw "shape_index" 0 context
  let part ← requireText raw "part" context
  return ⟨.pptx slideNumber shapeIndex part, slideNumber.2⟩

/-- `_spreadsheet_locator`. -/
def spreadsheetLocator : LocatorBuilder := fun raw context _ => do
  let sheet ← requireText raw "sheet" context
  let cellOrRange ← requireText raw "cell_or_range" context
  return ⟨.spreadsheet sheet cellOrRange, trivial⟩

/-- `_optional_text`. -/
def nonemptyText (container : Json) (key : String) : Option String :=
  (container.fieldText? key).filter (· ≠ "")

/-- `_csv_locator`. -/
def csvLocator : LocatorBuilder := fun raw context _ => do
  let row ← requireOrdinal raw "row_number" 1 context
  return ⟨.csv row (nonemptyText raw "column"), row.2⟩

/-- `_html_locator`. -/
def htmlLocator : LocatorBuilder := fun raw context _ => do
  let stableNodeIndex ← requireOrdinal raw "node_index" 0 context
  let nodePath ← requireText raw "node_path" context
  return ⟨.html stableNodeIndex nodePath, trivial⟩

/-- `_LOCATOR_BUILDERS`. -/
def locatorBuilders : List (String × LocatorBuilder) :=
  [("line", lineLocator), ("notebook", notebookLocator), ("pdf", pdfLocator),
    ("docx", docxLocator), ("pptx", pptxLocator), ("spreadsheet", spreadsheetLocator),
    ("csv", csvLocator), ("html", htmlLocator)]

/-- `translate_locator`. -/
def translateLocator (python : PythonReader) (raw : Json)
    (documentFormat blockKind context : String) : Except PayloadError CheckedLocator := do
  require raw.isObject (.generation (context ++ ": structured_locator is not an object"))
  let producerKind := (raw.get? "kind").getD .null
  match (raw.fieldText? "kind").bind fun kind => locatorKindByProducerKind.lookup kind with
  | none => .error (.generation (context ++ ": unknown locator kind " ++ python.repr producerKind))
  | some kind =>
      require (kind = "line" → documentFormat ∈ lineBearingFormats)
        (.generation (context ++ ": a " ++ documentFormat ++ " document carries a line locator; "
          ++ "that format has no lines, so the coordinate names nothing openable"))
      match locatorBuilders.lookup kind with
      | some build => build raw context blockKind
      | none => .error (.uncaught "KeyError" (python.repr (.str kind)))

/-! ## What a locator denotes -/

/-- A number under a key, or neither. -/
def StatesNumber (container : Json) (key : String) : Option ℕ → Prop
  | some n => container.get? key = some (.int n)
  | none => container.get? key = none ∨ container.get? key = some .null

/-- A text under a key; the empty text says as much as no text. -/
def StatesText (container : Json) (key text : String) : Prop :=
  container.get? key = some (.str text) ∨
    text = "" ∧ (container.get? key = none ∨ container.get? key = some .null)

/-- What is under a key is a text, if anything is. -/
def TextIfStated (container : Json) (key : String) : Prop :=
  ∀ value, container.get? key = some value → value = .null ∨ ∃ text, value = .str text

/-- The coordinate `raw` of a record is the one that the locator names. -/
def DenotesCoordinate (record raw : Json) : SourceLocator → Prop
  | .line startLine endLine =>
      raw.get? "kind" = some (.str "line_span") ∧ raw.get? "line_start" = some (.int startLine) ∧
        raw.get? "line_end" = some (.int endLine)
  | .notebook cellIndex cellType startLine endLine =>
      raw.get? "kind" = some (.str "notebook_cell") ∧
        raw.get? "cell_index" = some (.int cellIndex) ∧
        raw.get? "cell_type" = some (.str cellType) ∧
        StatesNumber raw "line_start" startLine ∧ StatesNumber raw "line_end" endLine
  | .pdf pageNumber blockIndex =>
      raw.get? "kind" = some (.str "pdf_page_block") ∧
        raw.get? "page_number" = some (.int pageNumber) ∧
        raw.get? "block_index" = some (.int blockIndex)
  | .docx blockIndex blockKind part =>
      raw.get? "kind" = some (.str "docx_block") ∧
        raw.get? "block_index" = some (.int blockIndex) ∧
        raw.get? "part" = some (.str part) ∧ StatesText record "block_kind" blockKind
  | .pptx slideNumber shapeIndex part =>
      raw.get? "kind" = some (.str "pptx_shape") ∧
        raw.get? "slide_number" = some (.int slideNumber) ∧
        raw.get? "shape_index" = some (.int shapeIndex) ∧ raw.get? "part" = some (.str part)
  | .spreadsheet sheet cellOrRange =>
      raw.get? "kind" = some (.str "spreadsheet_cell") ∧ raw.get? "sheet" = some (.str sheet) ∧
        raw.get? "cell_or_range" = some (.str cellOrRange)
  | .csv row column =>
      raw.get? "kind" = some (.str "csv_row") ∧ raw.get? "row_number" = some (.int row) ∧
        StatesText raw "column" (column.getD "")
  | .html stableNodeIndex nodePath =>
      raw.get? "kind" = some (.str "html_node") ∧
        raw.get? "node_index" = some (.int stableNodeIndex) ∧
        raw.get? "node_path" = some (.str nodePath)

/-- The locator denotes the coordinate that the record states. -/
def SameCoordinate (record : Json) (locator : SourceLocator) : Prop :=
  ∃ raw, record.get? "structured_locator" = some raw ∧ DenotesCoordinate record raw locator

/-- The parts of a coordinate that are copied only when they are texts are texts. -/
structure TextualCoordinate (record : Json) : Prop where
  column : ∀ raw, record.get? "structured_locator" = some raw →
    raw.get? "kind" = some (.str "csv_row") → TextIfStated raw "column"
  block_kind : ∀ raw, record.get? "structured_locator" = some raw →
    raw.get? "kind" = some (.str "docx_block") → TextIfStated record "block_kind"

/-! ## When a step succeeds -/

theorem requireOrdinal_eq_ok {container : Json} {key context : String} {minimum : ℕ}
    {n : { n : ℕ // minimum ≤ n }} (h : requireOrdinal container key minimum context = .ok n) :
    container.get? key = some (.int (n : ℕ)) := by
  unfold requireOrdinal at h
  split at h
  · cases h
  · next value hvalue =>
      obtain ⟨hget, hle⟩ := requireInt_eq_ok.1 hvalue
      have hn : (n : ℕ) = value.toNat := congrArg Subtype.val (Except.ok.inj h).symm
      have hcast : ((n : ℕ) : ℤ) = value := by omega
      rw [hget, hcast]

theorem optionalOrdinal_eq_ok {container : Json} {key context : String} {minimum : ℕ}
    {found : Option { n : ℕ // minimum ≤ n }}
    (h : optionalOrdinal container key minimum context = .ok found) :
    StatesNumber container key (found.map Subtype.val) := by
  unfold optionalOrdinal at h
  split at h
  · next hget =>
      cases h
      exact Or.inl hget
  · next hget =>
      cases h
      exact Or.inr hget
  · obtain ⟨n, hn, rfl⟩ := map_eq_ok.1 h
    exact requireOrdinal_eq_ok hn

theorem requireText_get {container : Json} {key context text : String}
    (h : requireText container key context = .ok text) :
    container.get? key = some (.str text) :=
  (requireText_eq_ok.1 h).1

/-- What is read of a text is stated exactly when nothing but a text is there. -/
theorem statesText_fieldText_iff {container : Json} {key : String} :
    StatesText container key ((container.fieldText? key).getD "") ↔
      TextIfStated container key := by
  unfold StatesText TextIfStated Json.fieldText?
  cases container.get? key with
  | none => simp
  | some value => cases value <;> simp

theorem getD_nonemptyText (container : Json) (key : String) :
    (nonemptyText container key).getD "" = (container.fieldText? key).getD "" := by
  unfold nonemptyText
  cases container.fieldText? key with
  | none => rfl
  | some text => by_cases h : text = "" <;> simp [Option.filter, h]

/-! ## Translation -/

/-- A builder copies the coordinates of its kind, and of the block kind what it is given. -/
def Copies (kind : String) (build : LocatorBuilder) : Prop :=
  ∀ (record raw : Json) (context : String) (located : CheckedLocator),
    raw.get? "kind" = some (.str kind) →
    build raw context ((record.fieldText? "block_kind").getD "") = .ok located →
    (DenotesCoordinate record raw located.1 ↔
      (kind = "csv_row" → TextIfStated raw "column") ∧
        (kind = "docx_block" → TextIfStated record "block_kind"))

/-- Nothing of the other kinds depends on what is a text. -/
theorem copies_of_denotes {kind : String} {build : LocatorBuilder} (hcsv : kind ≠ "csv_row")
    (hdocx : kind ≠ "docx_block")
    (h : ∀ record raw context blockKind located, raw.get? "kind" = some (.str kind) →
      build raw context blockKind = .ok located → DenotesCoordinate record raw located.1) :
    Copies kind build := by
  intro record raw context located hkind hbuild
  constructor
  · exact fun _ => ⟨fun heq => absurd heq hcsv, fun heq => absurd heq hdocx⟩
  · exact fun _ => h record raw context _ located hkind hbuild

theorem copies_lineLocator : Copies "line_span" lineLocator := by
  refine copies_of_denotes (by decide) (by decide) ?_
  intro record raw context blockKind located hkind h
  obtain ⟨startLine, hstart, h⟩ := bind_eq_ok.1 h
  obtain ⟨endLine, hend, h⟩ := bind_eq_ok.1 h
  cases h
  exact ⟨hkind, requireOrdinal_eq_ok hstart, requireOrdinal_eq_ok hend⟩

theorem copies_notebookLocator : Copies "notebook_cell" notebookLocator := by
  refine copies_of_denotes (by decide) (by decide) ?_
  intro record raw context blockKind located hkind h
  obtain ⟨cellIndex, hindex, h⟩ := bind_eq_ok.1 h
  obtain ⟨cellType, htype, h⟩ := bind_eq_ok.1 h
  obtain ⟨startLine, hstart, h⟩ := bind_eq_ok.1 h
  obtain ⟨endLine, hend, h⟩ := bind_eq_ok.1 h
  cases h
  exact ⟨hkind, requireOrdinal_eq_ok hindex, requireText_get htype, optionalOrdinal_eq_ok hstart,
    optionalOrdinal_eq_ok hend⟩

theorem copies_pdfLocator : Copies "pdf_page_block" pdfLocator := by
  refine copies_of_denotes (by decide) (by decide) ?_
  intro record raw context blockKind located hkind h
  obtain ⟨pageNumber, hpage, h⟩ := bind_eq_ok.1 h
  obtain ⟨blockIndex, hblock, h⟩ := bind_eq_ok.1 h
  cases h
  exact ⟨hkind, requireOrdinal_eq_ok hpage, requireOrdinal_eq_ok hblock⟩

theorem copies_docxLocator : Copies "docx_block" docxLocator := by
  intro record raw context located hkind h
  obtain ⟨blockIndex, hblock, h⟩ := bind_eq_ok.1 h
  obtain ⟨part, hpart, h⟩ := bind_eq_ok.1 h
  cases h
  have hindex := requireOrdinal_eq_ok hblock
  have hpart := requireText_get hpart
  simp [DenotesCoordinate, hkind, hindex, hpart, statesText_fieldText_iff]

theorem copies_pptxLocator : Copies "pptx_shape" pptxLocator := by
  refine copies_of_denotes (by decide) (by decide) ?_
  intro record raw context blockKind located hkind h
  obtain ⟨slideNumber, hslide, h⟩ := bind_eq_ok.1 h
  obtain ⟨shapeIndex, hshape, h⟩ := bind_eq_ok.1 h
  obtain ⟨part, hpart, h⟩ := bind_eq_ok.1 h
  cases h
  exact ⟨hkind, requireOrdinal_eq_ok hslide, requireOrdinal_eq_ok hshape, requireText_get hpart⟩

theorem copies_spreadsheetLocator : Copies "spreadsheet_cell" spreadsheetLocator := by
  refine copies_of_denotes (by decide) (by decide) ?_
  intro record raw context blockKind located hkind h
  obtain ⟨sheet, hsheet, h⟩ := bind_eq_ok.1 h
  obtain ⟨cellOrRange, hcell, h⟩ := bind_eq_ok.1 h
  cases h
  exact ⟨hkind, requireText_get hsheet, requireText_get hcell⟩

theorem copies_csvLocator : Copies "csv_row" csvLocator := by
  intro record raw context located hkind h
  obtain ⟨row, hrow, h⟩ := bind_eq_ok.1 h
  cases h
  have hrow := requireOrdinal_eq_ok hrow
  simp [DenotesCoordinate, hkind, hrow, getD_nonemptyText, statesText_fieldText_iff]

theorem copies_htmlLocator : Copies "html_node" htmlLocator := by
  refine copies_of_denotes (by decide) (by decide) ?_
  intro record raw context blockKind located hkind h
  obtain ⟨stableNodeIndex, hnode, h⟩ := bind_eq_ok.1 h
  obtain ⟨nodePath, hpath, h⟩ := bind_eq_ok.1 h
  cases h
  exact ⟨hkind, requireOrdinal_eq_ok hnode, requireText_get hpath⟩

/-- Each kind of the producer has the builder that copies its coordinates. -/
theorem copies_of_lookup {producerKind kind : String} {build : LocatorBuilder}
    (hkind : locatorKindByProducerKind.lookup producerKind = some kind)
    (hbuild : locatorBuilders.lookup kind = some build) : Copies producerKind build := by
  have hmem := mem_of_lookup hkind
  simp only [locatorKindByProducerKind, List.mem_cons, Prod.mk.injEq, List.not_mem_nil,
    or_false] at hmem
  rcases hmem with ⟨rfl, rfl⟩ | ⟨rfl, rfl⟩ | ⟨rfl, rfl⟩ | ⟨rfl, rfl⟩ | ⟨rfl, rfl⟩ | ⟨rfl, rfl⟩ |
    ⟨rfl, rfl⟩ | ⟨rfl, rfl⟩
  · cases hbuild
    exact copies_lineLocator
  · cases hbuild
    exact copies_notebookLocator
  · cases hbuild
    exact copies_pdfLocator
  · cases hbuild
    exact copies_docxLocator
  · cases hbuild
    exact copies_pptxLocator
  · cases hbuild
    exact copies_spreadsheetLocator
  · cases hbuild
    exact copies_csvLocator
  · cases hbuild
    exact copies_htmlLocator

/-- **Translation keeps textual coordinates.** A locator that was translated from a record denotes
    the coordinate of the record exactly when the column and the block kind are texts if stated. -/
theorem sameCoordinate_iff_of_translate {python : PythonReader} {record raw : Json}
    {documentFormat context : String} {located : CheckedLocator}
    (hraw : record.get? "structured_locator" = some raw)
    (h : translateLocator python raw documentFormat ((record.fieldText? "block_kind").getD "")
      context = .ok located) :
    SameCoordinate record located.1 ↔ TextualCoordinate record := by
  obtain ⟨_, -, h⟩ := bind_eq_ok.1 h
  dsimp only at h
  split at h
  · cases h
  · next kind hkind =>
      obtain ⟨producerKind, hproducer, hkind⟩ := Option.bind_eq_some_iff.1 hkind
      rw [fieldText?_eq_some] at hproducer
      obtain ⟨_, -, h⟩ := bind_eq_ok.1 h
      split at h
      · next build hbuild =>
          have hcopies := copies_of_lookup hkind hbuild record raw context located hproducer h
          constructor
          · rintro ⟨raw', hraw', hdenotes⟩
            cases hraw.symm.trans hraw'
            obtain ⟨hcolumn, hblock⟩ := hcopies.1 hdenotes
            refine ⟨?_, ?_⟩
            · intro raw' hraw' hcsv
              cases hraw.symm.trans hraw'
              exact hcolumn (by simpa using hproducer.symm.trans hcsv)
            · intro raw' hraw' hdocx
              cases hraw.symm.trans hraw'
              exact hblock (by simpa using hproducer.symm.trans hdocx)
          · intro htextual
            refine ⟨raw, hraw, hcopies.2 ⟨?_, ?_⟩⟩
            · exact fun heq => htextual.column raw hraw (heq ▸ hproducer)
            · exact fun heq => htextual.block_kind raw hraw (heq ▸ hproducer)
      · cases h

end ConstellationTopology
