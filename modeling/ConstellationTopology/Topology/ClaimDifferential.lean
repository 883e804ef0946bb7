import ConstellationTopology.Library.JsonText
import ConstellationTopology.Topology.ClaimQuery
import Mathlib.Data.Finset.Dedup

set_option autoImplicit false

/-! # Two snapshots compared

`differential` of `topology/claim_view.py`. A claim is one claim in both snapshots, however it is
read; but a query sees readings, so a claim can be in its scope in one snapshot only. It is then
reported as added or removed, and the comparison is sound exactly where that does not happen
(`differential_sound_iff`). -/

namespace ConstellationTopology

/-! ## What is compared -/

/-- What became of a claim between two snapshots. -/
inductive ChangeCategory
  | evidence
  | policyInterpretation
  | reconciliation
  | projection
  deriving DecidableEq, Repr

/-- A place that support was read at, independent of the packet that carried it. -/
structure SupportPlace where
  sourcePath : Option String
  lineNumber : Option ℕ
  locatorKey : Option String
  contentHash : Option String
  sourceRevision : Option String
  deriving DecidableEq

def SourceLocation.supportPlace (c : Codec) (location : SourceLocation) : SupportPlace where
  sourcePath := location.sourcePath
  lineNumber := location.lineNumber
  locatorKey := location.locatorKey c
  contentHash := location.contentHash
  sourceRevision := location.sourceRevision

/-- `_support_signature`: the source sorts the set, which makes its tuples comparable. -/
def SemanticClaimView.supportSignature (c : Codec) (view : SemanticClaimView) :
    Finset SupportPlace :=
  (view.sourceLocations.map fun location => location.supportPlace c).toFinset

/-- The name of a field that differs. -/
def moved {α : Type} [DecidableEq α] (name : String) (old new : α) : List String :=
  if old = new then [] else [name]

theorem moved_eq_nil {α : Type} [DecidableEq α] {name : String} {old new : α} :
    moved name old new = [] ↔ old = new := by
  simp [moved]

/-- The fields of a category that differ, as `_FIELDS_BY_CATEGORY` groups them. -/
def movedFields (c : Codec) (old new : SemanticClaimView) : ChangeCategory → List String
  | .evidence => moved "source_locations" (old.supportSignature c) (new.supportSignature c)
  | .policyInterpretation =>
      moved "support" old.support new.support ++ moved "cardinality" old.cardinality new.cardinality
  | .reconciliation =>
      moved "authority" old.authority new.authority ++
        moved "confidence" old.confidence new.confidence ++
        moved "conflict_status" old.conflictStatus new.conflictStatus ++
        moved "conflict_ids" old.conflictIds new.conflictIds
  | .projection =>
      moved "projection_status" old.projectionStatus new.projectionStatus ++
        moved "projection_withheld_reason" old.projectionWithheldReason
          new.projectionWithheldReason ++
        moved "projected_entity_ids" old.projectedEntityIds new.projectedEntityIds

/-- The categories in the order they are reported in. -/
def changeCategories : List ChangeCategory :=
  [.evidence, .policyInterpretation, .reconciliation, .projection]

/-- `ClaimChange`. -/
structure ClaimChange where
  claimId : String
  before : SemanticClaimView
  after : SemanticClaimView
  changedFields : List String
  categories : List ChangeCategory
  causedByPolicyChange : Bool := false

/-- The change of one claim, if a compared field differs. -/
def claimChange (c : Codec) (changedPolicy : Bool) (old new : SemanticClaimView) :
    Option ClaimChange :=
  let fields := changeCategories.flatMap (movedFields c old new)
  let categories := changeCategories.filter fun category => movedFields c old new category ≠ []
  if fields = [] then none
  else
    some { claimId := old.claimId
           before := old
           after := new
           changedFields := fields
           categories
           causedByPolicyChange := changedPolicy && .policyInterpretation ∈ categories }

/-- Two views read the claim alike: no compared field differs, nor where the support was read. -/
structure SameReading (c : Codec) (old new : SemanticClaimView) : Prop where
  supportSignature : old.supportSignature c = new.supportSignature c
  support : old.support = new.support
  cardinality : old.cardinality = new.cardinality
  authority : old.authority = new.authority
  confidence : old.confidence = new.confidence
  conflictStatus : old.conflictStatus = new.conflictStatus
  conflictIds : old.conflictIds = new.conflictIds
  projectionStatus : old.projectionStatus = new.projectionStatus
  projectionWithheldReason : old.projectionWithheldReason = new.projectionWithheldReason
  projectedEntityIds : old.projectedEntityIds = new.projectedEntityIds

theorem claimChange_eq_none {c : Codec} {changedPolicy : Bool} {old new : SemanticClaimView} :
    claimChange c changedPolicy old new = none ↔ SameReading c old new := by
  unfold claimChange
  simp only [ite_eq_left_iff, reduceCtorEq, imp_false, not_not, changeCategories,
    List.flatMap_cons, List.flatMap_nil, List.append_eq_nil_iff, movedFields, moved_eq_nil]
  constructor
  · intro h
    obtain ⟨hsignature, ⟨hsupport, hcardinality⟩, ⟨⟨⟨hauthority, hconfidence⟩, hstatus⟩, hids⟩,
      ⟨⟨hprojection, hreason⟩, hentities⟩, _⟩ := h
    exact ⟨hsignature, hsupport, hcardinality, hauthority, hconfidence, hstatus, hids, hprojection,
      hreason, hentities⟩
  · intro h
    exact ⟨h.1, ⟨h.2, h.3⟩, ⟨⟨⟨h.4, h.5⟩, h.6⟩, h.7⟩, ⟨⟨h.8, h.9⟩, h.10⟩, trivial⟩

theorem claimChange_claimId {c : Codec} {changedPolicy : Bool} {old new : SemanticClaimView}
    {change : ClaimChange} (h : claimChange c changedPolicy old new = some change) :
    change.claimId = old.claimId := by
  dsimp only [claimChange] at h
  split at h
  · cases h
  · cases h
    rfl

/-! ## The differential -/

/-- `ClaimDifferential`. -/
structure ClaimDifferential where
  added : List SemanticClaimView
  removed : List SemanticClaimView
  changed : List ClaimChange
  beforePredicatePolicyHash : Option String := none
  afterPredicatePolicyHash : Option String := none
  predicatePolicyChanged : Bool := false

/-- A view is in the scope of a query, or there is none. -/
def inScope (c : Codec) (query : Option ClaimQuery) (view : SemanticClaimView) : Bool :=
  match query with
  | none => true
  | some query => query.matchesView c view

/-- The policy of two packets changed if both are known and differ. -/
def policyChanged (before after : Option String) : Bool :=
  before.isSome && after.isSome && before ≠ after

namespace SemanticClaimIndex

variable (c : Codec)

/-- `scoped`, the views in scope by their claims, in the order of the index. -/
def scopedViews (index : SemanticClaimIndex) (query : Option ClaimQuery) :
    Table SemanticClaimView.claimId where
  rows := index.views.filter (inScope c query)
  keys_nodup := index.ids_nodup.sublist (List.filter_sublist.map _)

/-- `differential`. -/
def differential (earlier later : SemanticClaimIndex) (query : Option ClaimQuery := none) :
    ClaimDifferential :=
  let before := earlier.scopedViews c query
  let after := later.scopedViews c query
  let changedPolicy :=
    policyChanged earlier.packetPredicatePolicyHash later.packetPredicatePolicyHash
  { added := after.rows.filter fun view => (before.lookup view.claimId).isNone
    removed := before.rows.filter fun view => (after.lookup view.claimId).isNone
    changed := before.rows.filterMap fun old =>
      (after.lookup old.claimId).bind (claimChange c changedPolicy old)
    beforePredicatePolicyHash := earlier.packetPredicatePolicyHash
    afterPredicatePolicyHash := later.packetPredicatePolicyHash
    predicatePolicyChanged := changedPolicy }

/-! ## What it reports -/

variable {c} {earlier later : SemanticClaimIndex} {query : Option ClaimQuery}

theorem lookup_scopedViews {index : SemanticClaimIndex} {claimId : String}
    {view : SemanticClaimView} :
    (index.scopedViews c query).lookup claimId = some view ↔
      (view ∈ index.views ∧ inScope c query view) ∧ view.claimId = claimId := by
  rw [Table.lookup_eq_some_iff]
  exact and_congr_left fun _ => List.mem_filter

/-- A claim is reported added if it is in scope later and no reading of it is before. -/
theorem mem_added {view : SemanticClaimView} :
    view ∈ (earlier.differential c later query).added ↔
      (view ∈ later.views ∧ inScope c query view) ∧
        ∀ old ∈ earlier.views, old.claimId = view.claimId → ¬ inScope c query old := by
  refine List.mem_filter.trans (and_congr List.mem_filter ?_)
  rw [Option.isNone_iff_eq_none, Table.lookup_eq_none_iff]
  constructor
  · intro h old hold hid hscope
    exact h old (List.mem_filter.2 ⟨hold, hscope⟩) hid
  · intro h old hold hid
    exact h old (List.mem_of_mem_filter hold) hid (List.mem_filter.1 hold).2

/-- A claim is reported changed if it is in scope on both sides and is not read alike. -/
theorem mem_changed_ids {claimId : String} :
    (∃ change ∈ (earlier.differential c later query).changed, change.claimId = claimId) ↔
      ∃ old ∈ earlier.views, ∃ new ∈ later.views, old.claimId = claimId ∧ new.claimId = claimId ∧
        inScope c query old ∧ inScope c query new ∧ ¬ SameReading c old new := by
  constructor
  · intro h
    obtain ⟨change, hchange, hid⟩ := h
    obtain ⟨old, hold, hchange⟩ := List.mem_filterMap.1 hchange
    obtain ⟨new, hnew, hchange⟩ := Option.bind_eq_some_iff.1 hchange
    obtain ⟨hold, holdScope⟩ := List.mem_filter.1 hold
    obtain ⟨⟨hnew, hnewScope⟩, hsame⟩ := lookup_scopedViews.1 hnew
    have holdId : old.claimId = claimId := (claimChange_claimId hchange).symm.trans hid
    refine ⟨old, hold, new, hnew, holdId, hsame.trans holdId, holdScope, hnewScope, ?_⟩
    intro halike
    rw [claimChange_eq_none.2 halike] at hchange
    cases hchange
  · intro h
    obtain ⟨old, hold, new, hnew, holdId, hnewId, holdScope, hnewScope, hdiffers⟩ := h
    have hsome : claimChange c (policyChanged earlier.packetPredicatePolicyHash
        later.packetPredicatePolicyHash) old new ≠ none := mt claimChange_eq_none.1 hdiffers
    obtain ⟨change, hchange⟩ := Option.ne_none_iff_exists'.1 hsome
    refine ⟨change, List.mem_filterMap.2 ⟨old, List.mem_filter.2 ⟨hold, holdScope⟩, ?_⟩,
      (claimChange_claimId hchange).trans holdId⟩
    rw [lookup_scopedViews.2 ⟨⟨hnew, hnewScope⟩, hnewId.trans holdId.symm⟩]
    exact hchange

/-- What comparing two snapshots within a query is to say. -/
structure SoundDifferential (c : Codec) (earlier later : SemanticClaimIndex)
    (query : Option ClaimQuery) : Prop where
  added_absent : ∀ view ∈ (earlier.differential c later query).added,
    view.claimId ∉ earlier.views.map SemanticClaimView.claimId
  removed_absent : ∀ view ∈ (earlier.differential c later query).removed,
    view.claimId ∉ later.views.map SemanticClaimView.claimId
  swap_added : (later.differential c earlier query).added =
    (earlier.differential c later query).removed
  swap_removed : (later.differential c earlier query).removed =
    (earlier.differential c later query).added
  changed_iff : ∀ old ∈ earlier.views, ∀ new ∈ later.views, old.claimId = new.claimId →
    inScope c query old ∨ inScope c query new →
    ((∃ change ∈ (earlier.differential c later query).changed, change.claimId = old.claimId) ↔
      ¬ SameReading c old new)
  self_added : (earlier.differential c earlier query).added = []
  self_removed : (earlier.differential c earlier query).removed = []
  self_changed : (earlier.differential c earlier query).changed = []

theorem mem_removed {view : SemanticClaimView} :
    view ∈ (earlier.differential c later query).removed ↔
      (view ∈ earlier.views ∧ inScope c query view) ∧
        ∀ new ∈ later.views, new.claimId = view.claimId → ¬ inScope c query new := by
  show view ∈ (later.differential c earlier query).added ↔ _
  exact mem_added

theorem self_added_eq_nil : (earlier.differential c earlier query).added = [] := by
  refine List.eq_nil_iff_forall_not_mem.2 fun view hview => ?_
  obtain ⟨⟨hmem, hscope⟩, hnone⟩ := mem_added.1 hview
  exact hnone view hmem rfl hscope

theorem self_changed_eq_nil : (earlier.differential c earlier query).changed = [] := by
  refine List.eq_nil_iff_forall_not_mem.2 fun change hchange => ?_
  obtain ⟨old, hold, new, hnew, holdId, hnewId, -, -, hdiffers⟩ :=
    mem_changed_ids.1 ⟨change, hchange, rfl⟩
  rw [earlier.eq_of_claimId hold hnew (holdId.trans hnewId.symm)] at hdiffers
  exact hdiffers ⟨rfl, rfl, rfl, rfl, rfl, rfl, rfl, rfl, rfl, rfl⟩

/-- **A differential is sound where the scope is.** Comparing two snapshots within a query says what
it is to say exactly if every claim of both snapshots is in scope in both or in neither. -/
theorem differential_sound_iff (c : Codec) (earlier later : SemanticClaimIndex)
    (query : Option ClaimQuery) :
    SoundDifferential c earlier later query ↔
      ∀ old ∈ earlier.views, ∀ new ∈ later.views, old.claimId = new.claimId →
        (inScope c query old ↔ inScope c query new) := by
  constructor
  · intro hsound old hold new hnew hid
    have honlyNew : ∀ new' ∈ later.views, new'.claimId = old.claimId → new' = new :=
      fun _ hnew' hid' => later.eq_of_claimId hnew' hnew (hid'.trans hid)
    have honlyOld : ∀ old' ∈ earlier.views, old'.claimId = new.claimId → old' = old :=
      fun _ hold' hid' => earlier.eq_of_claimId hold' hold (hid'.trans hid.symm)
    -- in scope on one side only, the claim is reported as removed or added, though both hold it
    constructor
    · intro hin
      by_contra hout
      have hremoved : old ∈ (earlier.differential c later query).removed :=
        mem_removed.2 ⟨⟨hold, hin⟩, fun new' hnew' hid' => honlyNew new' hnew' hid' ▸ hout⟩
      exact hsound.removed_absent old hremoved (List.mem_map.2 ⟨new, hnew, hid.symm⟩)
    · intro hin
      by_contra hout
      have hadded : new ∈ (earlier.differential c later query).added :=
        mem_added.2 ⟨⟨hnew, hin⟩, fun old' hold' hid' => honlyOld old' hold' hid' ▸ hout⟩
      exact hsound.added_absent new hadded (List.mem_map.2 ⟨old, hold, hid⟩)
  · intro hscope
    refine ⟨?_, ?_, rfl, rfl, ?_, self_added_eq_nil, self_added_eq_nil, self_changed_eq_nil⟩
    · intro view hview hmem
      obtain ⟨⟨hnew, hin⟩, hnone⟩ := mem_added.1 hview
      obtain ⟨old, hold, hid⟩ := List.mem_map.1 hmem
      exact hnone old hold hid ((hscope old hold view hnew hid).2 hin)
    · intro view hview hmem
      obtain ⟨⟨hold, hin⟩, hnone⟩ := mem_removed.1 hview
      obtain ⟨new, hnew, hid⟩ := List.mem_map.1 hmem
      exact hnone new hnew hid ((hscope view hold new hnew hid.symm).1 hin)
    · intro old hold new hnew hid hin
      have hiff := hscope old hold new hnew hid
      have hboth : inScope c query old ∧ inScope c query new := by
        rcases hin with hin | hin
        · exact ⟨hin, hiff.1 hin⟩
        · exact ⟨hiff.2 hin, hin⟩
      rw [mem_changed_ids]
      constructor
      · intro h
        obtain ⟨old', hold', new', hnew', holdId, hnewId, -, -, hdiffers⟩ := h
        rw [earlier.eq_of_claimId hold' hold holdId,
          later.eq_of_claimId hnew' hnew (hnewId.trans hid)] at hdiffers
        exact hdiffers
      · intro hdiffers
        exact ⟨old, hold, new, hnew, rfl, hid.symm, hboth.1, hboth.2, hdiffers⟩

/-- An index of one claim. -/
def single (view : SemanticClaimView) : SemanticClaimIndex where
  views := [view]
  sorted := List.pairwise_singleton _ _

/-- The view of an ownership claim under a conflict status. -/
def ownerView (conflictStatus : ConflictStatus) : SemanticClaimView where
  claimId := "claim:owner"
  subjectId := "repo:l9"
  subjectKind := "repository"
  predicate := "meta.managed.governance.owner"
  rawValue := "platform"
  interpretation := .declaration
  support := .single
  cardinality := .single
  authority := .source
  confidence := .deterministic
  conflictStatus
  conflictIds := if conflictStatus = .confirmed then ["conflict:owner"] else []
  sourceAssertionIds := ["assertion:owner"]
  evidenceRefs := []
  sourceLocations := []
  missingEvidenceRefs := []
  projectionStatus := .notProjectable
  projectedEntityIds := []
  interpretationPolicyRef := "l9-topology-assertion-predicates@1.4.0"

/-- A claim that came into a conflict is reported as added to the conflicted claims, though the
earlier snapshot holds it. -/
theorem conflict_reported_added :
    ¬ ∀ (c : Codec) (earlier later : SemanticClaimIndex) (query : Option ClaimQuery),
      SoundDifferential c earlier later query := by
  intro h
  have hsound := h textCodec (single (ownerView .none)) (single (ownerView .confirmed))
    (some { conflict := .conflicted })
  have hadded : ownerView .confirmed ∈ ((single (ownerView .none)).differential textCodec
      (single (ownerView .confirmed)) (some { conflict := .conflicted })).added := by
    refine mem_added.2 ⟨⟨List.mem_singleton_self _, rfl⟩, ?_⟩
    intro old hold _
    rw [List.mem_singleton.1 hold]
    exact Bool.false_ne_true
  exact hsound.added_absent _ hadded (List.mem_singleton_self _)

end SemanticClaimIndex

end ConstellationTopology
