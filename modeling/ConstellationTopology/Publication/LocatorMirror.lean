import ConstellationTopology.Library.JsonText
import ConstellationTopology.Publication.Lowering
import ConstellationTopology.Publication.PlanView

set_option autoImplicit false

/-! # Mirrored locators

The locator union of the topology and its mirror in `publication/contracts.py` have the same kinds
and fields, and the same bounds on numbers. The mirror also bounds the texts, so a locator is
mirrored exactly when its texts are within these bounds (`mirrored_iff`); one that is not aborts
the lowering of every fact that cites it. -/

namespace ConstellationTopology

/-- The value of the `kind` field. -/
def MemorySourceLocator.kind : MemorySourceLocator → String
  | line .. => "line"
  | pdf .. => "pdf"
  | docx .. => "docx"
  | pptx .. => "pptx"
  | spreadsheet .. => "spreadsheet"
  | notebook .. => "notebook"
  | csv .. => "csv"
  | html .. => "html"

/-- The texts of a locator are as long as the mirror allows: no text that must be there is empty,
    and none is too long. -/
def SourceLocator.WithinMirror : SourceLocator → Prop
  | docx _ blockKind part => LengthIn 1 100 blockKind ∧ LengthIn 0 300 part
  | pptx _ _ part => LengthIn 0 300 part
  | spreadsheet sheet cellOrRange => LengthIn 1 300 sheet ∧ LengthIn 1 100 cellOrRange
  | notebook _ cellType _ _ => LengthIn 1 100 cellType
  | csv _ column => ∀ name ∈ column, LengthIn 0 300 name
  | html _ nodePath => LengthIn 0 1000 nodePath
  | _ => True

/-- The mirror has the kind of the locator. -/
theorem mirrorLocator_kind (locator : SourceLocator) :
    (mirrorLocator locator).kind = locator.kind := by
  cases locator <;> rfl

/-- The mirror has the fields of the locator and their values. -/
theorem mirrorLocator_toJson (locator : SourceLocator) :
    (mirrorLocator locator).toJson = locator.toJson := by
  cases locator <;> rfl

/-- On a locator of the topology the mirror checks the texts and nothing else. -/
theorem mirrorLocator_valid_iff {locator : SourceLocator} (h : locator.Valid) :
    (mirrorLocator locator).Valid ↔ locator.WithinMirror := by
  cases locator with
  | line startLine endLine =>
      have hbounds : 1 ≤ startLine ∧ 1 ≤ endLine := h
      simpa [mirrorLocator, MemorySourceLocator.Valid, SourceLocator.WithinMirror] using hbounds
  | pdf pageNumber blockIndex => exact iff_of_true h trivial
  | docx blockIndex blockKind part => exact Iff.rfl
  | pptx slideNumber shapeIndex part => exact and_iff_right h
  | spreadsheet sheet cellOrRange => exact Iff.rfl
  | notebook cellIndex cellType startLine endLine => exact and_iff_left h
  | csv row column => exact and_iff_right h
  | html stableNodeIndex nodePath => exact Iff.rfl

/-- The lowering of the locator of a record succeeds, with a mirror of its kind and its fields. -/
def Mirrored (record : EvidenceRecord) (locator : SourceLocator) : Prop :=
  ∃ mirror, (lowerLocator record).map Subtype.val = .ok (some mirror) ∧
    mirror.kind = locator.kind ∧ mirror.toJson = locator.toJson

theorem lowerLocator_of_within {record : EvidenceRecord} {locator : SourceLocator}
    (hlocator : record.sourceRef.locator = some locator) (h : locator.WithinMirror) :
    (lowerLocator record).map Subtype.val = .ok (some (mirrorLocator locator)) := by
  have hvalid := (mirrorLocator_valid_iff (record.sourceRef.locator_valid locator hlocator)).2 h
  unfold lowerLocator
  split
  · next hnone =>
      rw [hlocator] at hnone
      cases hnone
  · next other hother =>
      rw [hlocator, Option.some.injEq] at hother
      subst hother
      rw [dif_pos hvalid]
      rfl

theorem lowerLocator_of_beyond {record : EvidenceRecord} {locator : SourceLocator}
    (hlocator : record.sourceRef.locator = some locator) (h : ¬ locator.WithinMirror) :
    lowerLocator record = .error (.validation "source_locator") := by
  have hvalid : ¬ (mirrorLocator locator).Valid := fun hvalid =>
    h ((mirrorLocator_valid_iff (record.sourceRef.locator_valid locator hlocator)).1 hvalid)
  unfold lowerLocator
  split
  · next hnone =>
      rw [hlocator] at hnone
      cases hnone
  · next other hother =>
      rw [hlocator, Option.some.injEq] at hother
      subst hother
      rw [dif_neg hvalid]

/-- **Mirroring.** A locator is mirrored exactly when its texts are within the bounds of the
    mirror. -/
theorem mirrored_iff {record : EvidenceRecord} {locator : SourceLocator}
    (hlocator : record.sourceRef.locator = some locator) :
    Mirrored record locator ↔ locator.WithinMirror := by
  constructor
  · rintro ⟨mirror, hlower, _⟩
    by_contra hbeyond
    rw [lowerLocator_of_beyond hlocator hbeyond] at hlower
    cases hlower
  · intro hwithin
    exact ⟨_, lowerLocator_of_within hlocator hwithin, mirrorLocator_kind locator,
      mirrorLocator_toJson locator⟩

/-- One record beyond the bounds aborts the lowering of the evidence it is kept in. -/
theorem within_of_lowerEvidence {policy : PublicationPolicy} {index : TopologyIndex}
    {evidenceRefs : List String} {publishedAt : Timestamp} {method : ConfidenceMethodName}
    {subjectId : String} {lowered : LoweredEvidence}
    (h : lowerEvidence policy index evidenceRefs publishedAt method subjectId = .ok lowered) :
    ∀ record ∈ keptEvidence policy index evidenceRefs, ∀ locator ∈ record.sourceRef.locator,
      locator.WithinMirror := by
  intro record hrecord locator hlocator
  obtain ⟨refs, hrefs, _⟩ := bind_eq_ok.1 h
  obtain ⟨ref, href⟩ := exists_of_mem_mapM hrefs hrecord
  obtain ⟨kind, _, hrest⟩ := bind_eq_ok.1 href
  obtain ⟨mirror, hmirror, _⟩ := bind_eq_ok.1 hrest
  by_contra hbeyond
  rw [lowerLocator_of_beyond hlocator hbeyond] at hmirror
  cases hmirror

/-! ## A block without a kind -/

/-- Evidence read at a place. -/
def locatedEvidence (locator : SourceLocator) (hvalid : locator.Valid) : EvidenceRecord where
  evidenceId := "evidence:block"
  subjectId := "repo:alpha"
  field := some "work.status"
  stage := "compile_work_signals"
  evidenceClass := .observed
  sourceType := .packet
  sourceRef :=
    { locator := some locator
      sourcePath_portable := noPath_portable
      lineNumber_positive := noLine_positive
      locator_valid := fun l hl => Option.some.inj hl ▸ hvalid
      lineNumber_agrees := by simp }
  value := .null
  confidence := .unknown
  producer := "meta"
  producerVersion := "1.0.0"
  createdAt := ⟨"2026-01-01T00:00:00Z"⟩

theorem mirrored_iff_paragraph :
    Mirrored (locatedEvidence (.docx 3 "paragraph" "word/document.xml") trivial)
        (.docx 3 "paragraph" "word/document.xml") ↔
      (SourceLocator.docx 3 "paragraph" "word/document.xml").WithinMirror :=
  mirrored_iff rfl

/-- The topology accepts a block without a kind, and the lowering fails on it. -/
theorem unmirrored_block :
    lowerLocator (locatedEvidence (.docx 3 "" "word/document.xml") trivial) =
        .error (.validation "source_locator") ∧
      ¬ Mirrored (locatedEvidence (.docx 3 "" "word/document.xml") trivial)
        (.docx 3 "" "word/document.xml") := by
  have hbeyond : ¬ (SourceLocator.docx 3 "" "word/document.xml").WithinMirror := by
    unfold SourceLocator.WithinMirror
    decide
  have hlower : lowerLocator (locatedEvidence (.docx 3 "" "word/document.xml") trivial) =
      .error (.validation "source_locator") := lowerLocator_of_beyond rfl hbeyond
  refine ⟨hlower, ?_⟩
  rintro ⟨mirror, hmirror, _⟩
  rw [hlower] at hmirror
  cases hmirror

end ConstellationTopology
