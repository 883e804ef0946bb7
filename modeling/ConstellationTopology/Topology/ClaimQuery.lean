import ConstellationTopology.Library.Keyset
import ConstellationTopology.Topology.ClaimView
import Mathlib.Data.List.DropRight
import Mathlib.Data.List.Dedup

set_option autoImplicit false

/-! # Queries over the claim views

`ClaimQuery` of `topology/claim_view.py`: every field that is set is one more test, and `after` is
no test but the place where the page begins. An index serves the views a query matches page by page
(`query_serves`), so what holds of keyset pagination holds of its pages (`pages_exact`). -/

namespace ConstellationTopology

/-! ## The filter -/

/-- The filter on the conflict status. -/
inductive ConflictFilter
  | any
  | none
  | conflicted
  deriving DecidableEq, Repr

/-- The filter on the projection status. -/
inductive ProjectionFilter
  | any
  | projected
  | unprojected
  deriving DecidableEq, Repr

/-- `MAXIMUM_QUERY_LIMIT`. -/
def maximumQueryLimit : ℕ := 10000

/-- `DEFAULT_QUERY_LIMIT`. -/
def defaultQueryLimit : ℕ := 500

/-- `ClaimQuery`, as `__post_init__` accepts it. -/
structure ClaimQuery where
  subjectId : Option String := none
  subjectKind : Option String := none
  predicate : Option String := none
  predicatePrefix : Option String := none
  value : Option String := none
  interpretation : Option PredicateInterpretation := none
  conflict : ConflictFilter := .any
  projection : ProjectionFilter := .any
  sourcePath : Option String := none
  minimumLocations : ℕ := 0
  limit : ℕ := defaultQueryLimit
  after : Option String := none
  one_le_limit : 1 ≤ limit := by decide
  limit_le : limit ≤ maximumQueryLimit := by decide
  segment_of_prefix : ∀ front ∈ predicatePrefix, ∃ ch ∈ front.toList, ch ≠ '.' := by simp

/-- `_locator_key`. -/
def SourceLocation.locatorKey (c : Codec) (location : SourceLocation) : Option String :=
  location.locator.map c.canonicalJson

/-- `_distinct_locations`. -/
def SemanticClaimView.distinctLocations (c : Codec) (view : SemanticClaimView) : ℕ :=
  (view.sourceLocations.map fun location =>
    (location.sourcePath, location.lineNumber, location.locatorKey c)).dedup.length

/-- The predicate is the one named, or one below it at a dot. -/
def belowPredicate (front predicate : String) : Bool :=
  let front := front.toList.rdropWhile fun ch => ch = '.'
  predicate.toList = front || (front ++ ['.']) <+: predicate.toList

def ConflictFilter.checks : ConflictFilter → List (SemanticClaimView → Bool)
  | .any => []
  | .none => [fun view => view.conflictStatus = .none]
  | .conflicted => [fun view => view.conflictStatus ≠ .none]

def ProjectionFilter.checks : ProjectionFilter → List (SemanticClaimView → Bool)
  | .any => []
  | .projected => [fun view => view.projectionStatus = .projected]
  | .unprojected => [fun view => view.projectionStatus ≠ .projected]

namespace ClaimQuery

variable (c : Codec) (query : ClaimQuery)

/-- The test of a field, if the field is set. -/
def test {α : Type} (field : Option α) (holds : α → SemanticClaimView → Bool) :
    List (SemanticClaimView → Bool) :=
  field.toList.map holds

/-- `_checks`. -/
def checks : List (SemanticClaimView → Bool) :=
  test query.subjectId (fun wanted view => view.subjectId = wanted) ++
    test query.subjectKind (fun wanted view => view.subjectKind = wanted) ++
    test query.predicate (fun wanted view => view.predicate = wanted) ++
    test query.predicatePrefix (fun front view => belowPredicate front view.predicate) ++
    test query.value (fun wanted view => view.rawValue = wanted) ++
    test query.interpretation (fun wanted view => view.interpretation = wanted) ++
    query.conflict.checks ++
    query.projection.checks ++
    test query.sourcePath (fun wanted view =>
      view.sourceLocations.any fun location => location.sourcePath = some wanted) ++
    test (some query.minimumLocations |>.filter (· ≠ 0))
      (fun least view => least ≤ view.distinctLocations c)

/-- `matches`. -/
def matchesView (view : SemanticClaimView) : Bool := (query.checks c).all fun check => check view

/-- The query for the page behind a cursor. -/
def pageAfter (cursor : Option String) : ClaimQuery := { query with after := cursor }

@[simp] theorem matchesView_pageAfter (cursor : Option String) (view : SemanticClaimView) :
    (query.pageAfter cursor).matchesView c view = query.matchesView c view := rfl

end ClaimQuery

/-! ## A page -/

/-- One page of what a query matched. -/
structure ClaimQueryResult where
  totalMatched : ℕ
  returned : ℕ
  truncated : Bool
  nextAfter : Option String := none
  claims : List SemanticClaimView

namespace SemanticClaimIndex

variable (c : Codec) (index : SemanticClaimIndex)

/-- The views that a query matches, in the order of their claims. -/
def matched (query : ClaimQuery) : List SemanticClaimView :=
  index.views.filter (query.matchesView c)

/-- The matches behind the cursor of a query. -/
def remaining (query : ClaimQuery) : List SemanticClaimView :=
  match query.after with
  | none => index.matched c query
  | some cursor => (index.matched c query).filter fun view => cursor < view.claimId

/-- `query`. -/
def query (query : ClaimQuery) : ClaimQueryResult :=
  let remaining := index.remaining c query
  let returned := remaining.take query.limit
  let truncated := returned.length < remaining.length
  { totalMatched := (index.matched c query).length
    returned := returned.length
    truncated
    nextAfter := if truncated then returned.getLast?.map SemanticClaimView.claimId else none
    claims := returned }

/-- The pages of a query, each asked for with the cursor of the one before it. -/
def Pages (query : ClaimQuery) : List ClaimQueryResult → Prop :=
  Keyset.Follows (fun cursor => index.query c (query.pageAfter cursor))
    ClaimQueryResult.nextAfter none

theorem remaining_pageAfter (query : ClaimQuery) (cursor : Option String) :
    index.remaining c (query.pageAfter cursor) =
      Keyset.after SemanticClaimView.claimId cursor (index.matched c query) := by
  cases cursor <;> rfl

theorem left_over_iff (query : ClaimQuery) :
    ((index.remaining c query).take query.limit).length < (index.remaining c query).length ↔
      query.limit < (index.remaining c query).length := by
  rw [List.length_take]
  omega

theorem nextAfter_eq (query : ClaimQuery) : (index.query c query).nextAfter =
    if query.limit < (index.remaining c query).length then
      ((index.remaining c query).take query.limit).getLast?.map SemanticClaimView.claimId
    else none :=
  if_congr (index.left_over_iff c query) rfl rfl

/-- The index serves what a query matches by the ids of the claims. -/
theorem query_serves (query : ClaimQuery) :
    Keyset.Serves SemanticClaimView.claimId (index.matched c query) query.limit
      (fun cursor => index.query c (query.pageAfter cursor)) ClaimQueryResult.claims
      ClaimQueryResult.nextAfter where
  limit_pos := query.one_le_limit
  sorted := index.sorted.filter _
  rows_eq cursor := by
    rw [← remaining_pageAfter]
    rfl
  next_eq cursor := by
    rw [← remaining_pageAfter]
    exact index.nextAfter_eq c (query.pageAfter cursor)

theorem truncated_pageAfter (query : ClaimQuery) (cursor : Option String) :
    (index.query c (query.pageAfter cursor)).truncated ↔
      query.limit <
        (Keyset.after SemanticClaimView.claimId cursor (index.matched c query)).length := by
  rw [← remaining_pageAfter]
  exact decide_eq_true_iff.trans (index.left_over_iff c (query.pageAfter cursor))

/-- A page behind any cursor is marked truncated exactly if a match behind it is not on it. -/
theorem truncated_iff (query : ClaimQuery) (cursor : Option String) :
    (index.query c (query.pageAfter cursor)).truncated ↔
      ∃ view ∈ index.views.filter (query.matchesView c), (∀ k ∈ cursor, k < view.claimId) ∧
        view ∉ (index.query c (query.pageAfter cursor)).claims := by
  rw [truncated_pageAfter]
  refine ((index.query_serves c query).limit_lt_iff cursor).trans (exists_congr fun view => ?_)
  rw [Keyset.mem_after, and_assoc]
  rfl

/-- **Pagination loses nothing.** Following the cursors from the first page ends, in one way. The
pages put together are the matching views in the order of their claims, each once; every page counts
them all, and it is marked truncated exactly if the pages behind it hold further matches. So is a
page asked for with any other cursor: a match behind it is then not on the page. -/
theorem pages_exact (query : ClaimQuery) : ∃ pages, index.Pages c query pages ∧
    (∀ pages', index.Pages c query pages' → pages' = pages) ∧
    pages.flatMap ClaimQueryResult.claims = index.views.filter (query.matchesView c) ∧
    (pages.flatMap ClaimQueryResult.claims).Pairwise (fun a b => a.claimId < b.claimId) ∧
    (∀ page ∈ pages, page.totalMatched = (index.views.filter (query.matchesView c)).length) ∧
    (∀ before page rest, pages = before ++ page :: rest →
      (page.truncated ↔ rest.flatMap ClaimQueryResult.claims ≠ [])) ∧
    ∀ cursor, (index.query c (query.pageAfter cursor)).truncated ↔
      ∃ view ∈ index.views.filter (query.matchesView c), (∀ k ∈ cursor, k < view.claimId) ∧
        view ∉ (index.query c (query.pageAfter cursor)).claims := by
  have hserves := index.query_serves c query
  obtain ⟨pages, hpages⟩ := hserves.exists_follows none
  have hrows : pages.flatMap ClaimQueryResult.claims = index.matched c query :=
    hserves.flatMap_rows hpages
  refine ⟨pages, hpages, fun pages' h => h.unique hpages, hrows, ?_, ?_, ?_,
    index.truncated_iff c query⟩
  · rw [hrows]
    exact index.sorted.filter _
  · intro page hpage
    obtain ⟨cursor, rfl⟩ := hpages.fetched page hpage
    rfl
  · intro before page rest hsplit
    have hmem : page ∈ pages := by rw [hsplit]; simp
    obtain ⟨cursor, hpage⟩ := hpages.fetched page hmem
    rw [← hserves.next_isSome_iff hpages hsplit, hpage, truncated_pageAfter,
      hserves.next_isSome cursor]

end SemanticClaimIndex

end ConstellationTopology
