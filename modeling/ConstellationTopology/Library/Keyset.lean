import Mathlib.Data.List.Sort
import Mathlib.Order.Basic

set_option autoImplicit false

/-! # Keyset pagination

A list in the strict order of its keys is served in pages: a page holds the first rows behind a
cursor, and the cursor to the next page is the key of its last row. Following the cursors comes to
an end, and the pages put together are the list. -/

namespace ConstellationTopology

namespace Keyset

variable {α κ P : Type*}

/-! ## Following a cursor -/

/-- The pages from a cursor on: each is fetched with the cursor of the one before it. -/
inductive Follows (fetch : Option κ → P) (next : P → Option κ) : Option κ → List P → Prop
  | last {cursor : Option κ} (h : next (fetch cursor) = none) :
      Follows fetch next cursor [fetch cursor]
  | more {cursor : Option κ} {k : κ} {pages : List P} (h : next (fetch cursor) = some k)
      (rest : Follows fetch next (some k) pages) :
      Follows fetch next cursor (fetch cursor :: pages)

variable {fetch : Option κ → P} {next : P → Option κ}

/-- There is one way to follow the cursors. -/
theorem Follows.unique {cursor : Option κ} {pages pages' : List P}
    (h : Follows fetch next cursor pages) (h' : Follows fetch next cursor pages') :
    pages = pages' := by
  induction h generalizing pages' with
  | last hlast =>
      cases h' with
      | last => rfl
      | more hmore => rw [hlast] at hmore; cases hmore
  | more hmore _ ih =>
      cases h' with
      | last hlast => rw [hlast] at hmore; cases hmore
      | more hmore' rest' =>
          have hk := Option.some.inj (hmore.symm.trans hmore')
          subst hk
          rw [ih rest']

theorem Follows.fetched {cursor : Option κ} {pages : List P}
    (h : Follows fetch next cursor pages) : ∀ page ∈ pages, ∃ cursor, page = fetch cursor := by
  induction h with
  | last => simp
  | more _ _ ih =>
      intro page hpage
      rcases List.mem_cons.1 hpage with rfl | hpage
      · exact ⟨_, rfl⟩
      · exact ih page hpage

/-! ## Pages of a sorted list -/

variable [LinearOrder κ]

/-- The rows behind a cursor. -/
def after (key : α → κ) (cursor : Option κ) (rows : List α) : List α :=
  match cursor with
  | none => rows
  | some k => rows.filter fun row => k < key row

theorem mem_after {key : α → κ} {rows : List α} {cursor : Option κ} {row : α} :
    row ∈ after key cursor rows ↔ row ∈ rows ∧ ∀ k ∈ cursor, k < key row := by
  cases cursor with
  | none => simp [after]
  | some k => simp [after]

/-- `fetch` serves the rows in pages of at most `limit`. -/
structure Serves (key : α → κ) (all : List α) (limit : ℕ) (fetch : Option κ → P)
    (rows : P → List α) (next : P → Option κ) : Prop where
  limit_pos : 0 < limit
  sorted : all.Pairwise fun a b => key a < key b
  rows_eq : ∀ cursor, rows (fetch cursor) = (after key cursor all).take limit
  next_eq : ∀ cursor, next (fetch cursor) =
    if limit < (after key cursor all).length then
      ((after key cursor all).take limit).getLast?.map key
    else none

variable {key : α → κ} {all : List α} {limit : ℕ}

theorem after_sorted (h : all.Pairwise fun a b => key a < key b) (cursor : Option κ) :
    (after key cursor all).Pairwise fun a b => key a < key b := by
  cases cursor with
  | none => exact h
  | some k => exact h.filter _

/-- Behind the last row of a page are the rows that the page left over. -/
theorem after_getLast (h : all.Pairwise fun a b => key a < key b) {cursor : Option κ} {last : α}
    (hlast : ((after key cursor all).take limit).getLast? = some last) :
    after key (some (key last)) all = (after key cursor all).drop limit := by
  have hmem : last ∈ after key cursor all :=
    List.mem_of_mem_take (List.mem_of_getLast? hlast)
  have hbehind : after key (some (key last)) all =
      (after key cursor all).filter fun row => key last < key row := by
    cases cursor with
    | none => rfl
    | some k =>
        have hk : k < key last := by simpa [after] using (List.mem_filter.1 hmem).2
        show all.filter _ = (all.filter _).filter _
        rw [List.filter_filter]
        refine List.filter_congr fun row _ => ?_
        by_cases hrow : key last < key row
        · simp [hrow, hk.trans hrow]
        · simp [hrow]
  have hsplit := List.take_append_drop limit (after key cursor all)
  have hsorted := after_sorted h cursor
  rw [← hsplit, List.pairwise_append] at hsorted
  obtain ⟨init, hinit⟩ := List.getLast?_eq_some_iff.1 hlast
  -- the page ends with the row, so nothing of it is behind it
  have hpage : ((after key cursor all).take limit).filter (fun row => key last < key row) = [] := by
    rw [List.filter_eq_nil_iff]
    intro row hrow
    rw [hinit] at hrow
    have hpairs := hsorted.1
    rw [hinit, List.pairwise_append] at hpairs
    rcases List.mem_append.1 hrow with hrow | hrow
    · simpa using (hpairs.2.2 row hrow last (List.mem_singleton_self _)).le
    · simp [List.mem_singleton.1 hrow]
  have hleft : ((after key cursor all).drop limit).filter (fun row => key last < key row) =
      (after key cursor all).drop limit := by
    rw [List.filter_eq_self]
    intro row hrow
    simpa using hsorted.2.2 last (List.mem_of_getLast? hlast) row hrow
  rw [hbehind]
  conv_lhs => rw [← hsplit]
  rw [List.filter_append, hpage, hleft, List.nil_append]

namespace Serves

variable {rows : P → List α}

/-- A page is the last one, or it leads to the rows it left over. -/
theorem next_cases (h : Serves key all limit fetch rows next) (cursor : Option κ) :
    ((after key cursor all).length ≤ limit ∧ next (fetch cursor) = none) ∨
      (limit < (after key cursor all).length ∧ ∃ k, next (fetch cursor) = some k ∧
        after key (some k) all = (after key cursor all).drop limit) := by
  rcases Nat.lt_or_ge limit (after key cursor all).length with hlt | hle
  · right
    have hne : (after key cursor all).take limit ≠ [] := by
      intro hnil
      have hlength := congrArg List.length hnil
      simp only [List.length_take, List.length_nil] at hlength
      have := h.limit_pos
      omega
    have hlast := List.getLast?_eq_some_getLast hne
    refine ⟨hlt, _, ?_, after_getLast h.sorted hlast⟩
    rw [h.next_eq, if_pos hlt, hlast]
    rfl
  · left
    refine ⟨hle, ?_⟩
    rw [h.next_eq, if_neg (Nat.not_lt.2 hle)]

theorem next_isSome (h : Serves key all limit fetch rows next) (cursor : Option κ) :
    (next (fetch cursor)).isSome ↔ limit < (after key cursor all).length := by
  rcases h.next_cases cursor with ⟨hle, hnone⟩ | ⟨hlt, k, hk, -⟩
  · rw [hnone]
    exact iff_of_false (by simp) (Nat.not_lt.2 hle)
  · rw [hk]
    exact iff_of_true rfl hlt

/-- Rows are left over exactly if one behind the cursor is not on the page. -/
theorem limit_lt_iff (h : Serves key all limit fetch rows next) (cursor : Option κ) :
    limit < (after key cursor all).length ↔
      ∃ row, row ∈ after key cursor all ∧ row ∉ rows (fetch cursor) := by
  rw [h.rows_eq]
  constructor
  · intro hlt
    have hrow := List.getElem_mem hlt
    refine ⟨_, hrow, fun hpage => ?_⟩
    -- the row at the limit is behind every row of the page
    have hsorted := after_sorted h.sorted cursor
    obtain ⟨i, hi, heq⟩ := List.getElem_of_mem hpage
    have hi' : i < limit := by
      rw [List.length_take] at hi
      omega
    rw [List.getElem_take] at heq
    have hless := List.pairwise_iff_getElem.1 hsorted i limit (by omega) hlt hi'
    rw [heq] at hless
    exact lt_irrefl _ hless
  · intro hrow
    obtain ⟨row, hrow, hpage⟩ := hrow
    by_contra hle
    rw [List.take_of_length_le (Nat.not_lt.1 hle)] at hpage
    exact hpage hrow

/-- Following the cursors comes to an end: each page but the last leaves fewer rows. -/
theorem exists_follows (h : Serves key all limit fetch rows next) (cursor : Option κ) :
    ∃ pages, Follows fetch next cursor pages := by
  induction hn : (after key cursor all).length using Nat.strong_induction_on
    generalizing cursor with
  | _ n ih =>
      rcases h.next_cases cursor with ⟨-, hnone⟩ | ⟨hlt, k, hk, hrest⟩
      · exact ⟨_, .last hnone⟩
      · have hfewer : (after key (some k) all).length < n := by
          rw [hrest, List.length_drop]
          have := h.limit_pos
          omega
        obtain ⟨pages, hpages⟩ := ih _ hfewer (some k) rfl
        exact ⟨_, .more hk hpages⟩

/-- **No loss, no repetition.** The pages from a cursor on are the rows behind it. -/
theorem flatMap_rows (h : Serves key all limit fetch rows next) {cursor : Option κ}
    {pages : List P} (hpages : Follows fetch next cursor pages) :
    pages.flatMap rows = after key cursor all := by
  induction hpages with
  | @last cursor hnone =>
      rcases h.next_cases cursor with ⟨hle, -⟩ | ⟨-, k, hk, -⟩
      · rw [List.flatMap_cons, List.flatMap_nil, List.append_nil, h.rows_eq,
          List.take_of_length_le hle]
      · rw [hk] at hnone
        cases hnone
  | @more cursor k pages hk _ ih =>
      rcases h.next_cases cursor with ⟨-, hnone⟩ | ⟨-, k', hk', hrest⟩
      · rw [hnone] at hk
        cases hk
      · rw [hk'] at hk
        cases hk
        rw [List.flatMap_cons, ih, hrest, h.rows_eq, List.take_append_drop]

/-- A page has a cursor if and only if the pages behind it have rows. -/
theorem next_isSome_iff (h : Serves key all limit fetch rows next) {cursor : Option κ}
    {pages : List P} (hpages : Follows fetch next cursor pages) {before rest : List P} {page : P}
    (hsplit : pages = before ++ page :: rest) :
    (next page).isSome ↔ rest.flatMap rows ≠ [] := by
  induction hpages generalizing before with
  | last hnone =>
      cases before with
      | nil =>
          cases hsplit
          simp [hnone]
      | cons first before => simp at hsplit
  | @more cursor k pages hk hrest ih =>
      cases before with
      | cons first before =>
          cases hsplit
          exact ih rfl
      | nil =>
          cases hsplit
          rw [hk, h.flatMap_rows hrest]
          rcases h.next_cases cursor with ⟨-, hnone⟩ | ⟨hlt, k', hk', hleft⟩
          · rw [hnone] at hk
            cases hk
          · rw [hk'] at hk
            cases hk
            refine iff_of_true rfl fun hnil => ?_
            rw [hleft, List.drop_eq_nil_iff] at hnil
            omega

end Serves

end Keyset

end ConstellationTopology
