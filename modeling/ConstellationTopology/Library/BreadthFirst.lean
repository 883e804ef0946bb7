import Mathlib.Data.List.Chain
import Mathlib.Data.List.Nodup
import Mathlib.Data.List.Perm.Subperm
import Mathlib.Data.Nat.Find
import Mathlib.Logic.Function.Iterate
import Mathlib.Order.Basic

set_option autoImplicit false

/-! # Bounded breadth-first search

A queue of visits, each with the path that led to it, over a graph given by its successors. A visit
at the limit is not expanded. The visits expanded are shortest paths to the nodes at a smaller
distance than the limit (`mem_expanded_iff`, `expanded_shortest`), and the queue runs empty
(`queue_search`). -/

namespace ConstellationTopology

namespace BreadthFirst

variable {α : Type*}

/-! ## Walks -/

/-- A walk of so many steps along the relation. -/
inductive Reaches (R : α → α → Prop) : ℕ → α → α → Prop
  | refl (a : α) : Reaches R 0 a a
  | snoc {n : ℕ} {a b c : α} : Reaches R n a b → R b c → Reaches R (n + 1) a c

theorem reaches_succ_iff {R : α → α → Prop} {n : ℕ} {a c : α} :
    Reaches R (n + 1) a c ↔ ∃ b, Reaches R n a b ∧ R b c := by
  constructor
  · intro h
    cases h with
    | snoc hwalk hstep => exact ⟨_, hwalk, hstep⟩
  · rintro ⟨b, hwalk, hstep⟩
    exact hwalk.snoc hstep

theorem Reaches.mono {R S : α → α → Prop} (hle : ∀ a b, R a b → S a b) {n : ℕ} {a b : α}
    (h : Reaches R n a b) : Reaches S n a b := by
  induction h with
  | refl a => exact .refl a
  | snoc _ hstep ih => exact ih.snoc (hle _ _ hstep)

/-- A node with the path that led to it, and the number of its steps. -/
structure Visit (α : Type*) where
  node : α
  path : List α
  depth : ℕ

/-- The path is a walk from the start to the node. -/
structure Visit.Walks (R : α → α → Prop) (start : α) (visit : Visit α) : Prop where
  head : visit.path.head? = some start
  chain : visit.path.IsChain R
  last : visit.path.getLast? = some visit.node
  length : visit.path.length = visit.depth + 1
  reaches : Reaches R visit.depth start visit.node

theorem Visit.Walks.snoc {R : α → α → Prop} {start target : α} {visit : Visit α}
    (h : visit.Walks R start) (hstep : R visit.node target) :
    (Visit.mk target (visit.path ++ [target]) (visit.depth + 1)).Walks R start where
  head := by
    rw [List.head?_append, h.head]
    rfl
  chain := by
    refine h.chain.append (List.isChain_singleton target) ?_
    intro last hlast first hfirst
    rw [h.last, Option.mem_some_iff] at hlast
    rw [List.head?_cons, Option.mem_some_iff] at hfirst
    rw [← hlast, ← hfirst]
    exact hstep
  last := by simp
  length := by simp [h.length]
  reaches := h.reaches.snoc hstep

/-- The visit came by a shortest walk. -/
structure Visit.Shortest (R : α → α → Prop) (start : α) (visit : Visit α) : Prop
    extends visit.Walks R start where
  least : ∀ n, Reaches R n start visit.node → visit.depth ≤ n

/-! ## The search -/

/-- What was discovered, and what is still to be expanded. -/
structure Search (α : Type*) where
  queue : List (Visit α)
  visited : List α
  expanded : List (Visit α) := []

namespace Search

/-- Only the start is discovered. -/
def start (a : α) : Search α where
  queue := [⟨a, [a], 0⟩]
  visited := [a]

variable [DecidableEq α]

/-- A successor that was not seen before is queued. -/
def discover (visit : Visit α) (s : Search α) (target : α) : Search α :=
  if target ∈ s.visited then s
  else { s with
    queue := s.queue ++ [⟨target, visit.path ++ [target], visit.depth + 1⟩]
    visited := s.visited ++ [target] }

variable (next : α → List α) (limit : ℕ)

/-- The first visit of the queue is dropped at the limit and expanded before it. -/
def step (s : Search α) : Search α :=
  match s.queue with
  | [] => s
  | visit :: rest =>
    if limit ≤ visit.depth then { s with queue := rest }
    else (next visit.node).foldl (discover visit)
      { s with queue := rest, expanded := s.expanded ++ [visit] }

end Search

/-! ## One expansion -/

section Expansion

/-- The visits that an expansion adds to the queue. -/
structure Added (visit : Visit α) (visited targets : List α) (added : List (Visit α)) : Prop where
  fresh : ∀ entry ∈ added, entry.node ∈ targets ∧ entry.node ∉ visited
  eq : ∀ entry ∈ added, entry = ⟨entry.node, visit.path ++ [entry.node], visit.depth + 1⟩
  covers : ∀ target ∈ targets, target ∈ visited ∨ ∃ entry ∈ added, entry.node = target
  nodup : (added.map Visit.node).Nodup

theorem exists_added [DecidableEq α] (visit : Visit α) (targets : List α) (s : Search α) :
    ∃ added, Added visit s.visited targets added ∧
      targets.foldl (Search.discover visit) s =
        { s with
          queue := s.queue ++ added
          visited := s.visited ++ added.map Visit.node } := by
  induction targets generalizing s with
  | nil =>
      refine ⟨[], ⟨by simp, by simp, by simp, by simp⟩, ?_⟩
      simp
  | cons target rest ih =>
      rw [List.foldl_cons]
      by_cases hseen : target ∈ s.visited
      · obtain ⟨added, hadded, heq⟩ := ih s
        rw [Search.discover, if_pos hseen]
        refine ⟨added, { hadded with fresh := ?_, covers := ?_ }, heq⟩
        · intro entry hentry
          obtain ⟨hin, hnew⟩ := hadded.fresh entry hentry
          exact ⟨List.mem_cons_of_mem _ hin, hnew⟩
        · intro other hother
          rcases List.mem_cons.1 hother with rfl | hother
          · exact Or.inl hseen
          · exact hadded.covers other hother
      · rw [Search.discover, if_neg hseen]
        obtain ⟨added, hadded, heq⟩ := ih { s with
          queue := s.queue ++ [⟨target, visit.path ++ [target], visit.depth + 1⟩]
          visited := s.visited ++ [target] }
        refine ⟨⟨target, visit.path ++ [target], visit.depth + 1⟩ :: added, ?_, ?_⟩
        · refine ⟨?_, ?_, ?_, ?_⟩
          · intro entry hentry
            rcases List.mem_cons.1 hentry with rfl | hentry
            · exact ⟨List.mem_cons_self, hseen⟩
            · obtain ⟨hin, hnew⟩ := hadded.fresh entry hentry
              exact ⟨List.mem_cons_of_mem _ hin, fun h => hnew (List.mem_append_left _ h)⟩
          · intro entry hentry
            rcases List.mem_cons.1 hentry with rfl | hentry
            · rfl
            · exact hadded.eq entry hentry
          · intro other hother
            rcases List.mem_cons.1 hother with rfl | hother
            · exact Or.inr ⟨_, List.mem_cons_self, rfl⟩
            · rcases hadded.covers other hother with hin | ⟨entry, hentry, hnode⟩
              · rcases List.mem_append.1 hin with hin | hin
                · exact Or.inl hin
                · exact Or.inr ⟨_, List.mem_cons_self, (List.mem_singleton.1 hin).symm⟩
              · exact Or.inr ⟨entry, List.mem_cons_of_mem _ hentry, hnode⟩
          · rw [List.map_cons, List.nodup_cons]
            refine ⟨fun hin => ?_, hadded.nodup⟩
            obtain ⟨entry, hentry, hnode⟩ := List.mem_map.1 hin
            refine (hadded.fresh entry hentry).2 (List.mem_append_right _ ?_)
            exact List.mem_singleton.2 hnode
        · rw [heq]
          simp

end Expansion

/-! ## The queue runs empty -/

section Termination

variable {next : α → List α} {limit : ℕ} {a : α}

/-- The nodes seen are distinct, and among those that can be seen. -/
structure Bounded (a : α) (nodes : List α) (s : Search α) : Prop where
  nodup : s.visited.Nodup
  among : ∀ x ∈ s.visited, x ∈ a :: nodes

theorem Bounded.length_le {nodes : List α} {s : Search α} (h : Bounded a nodes s) :
    s.visited.length ≤ nodes.length + 1 :=
  (List.subperm_of_subset h.nodup h.among).length_le

/-- A step takes one visit from the queue, and adds as many as it marks nodes. -/
theorem Bounded.step [DecidableEq α] {nodes : List α}
    (hnodes : ∀ x, ∀ y ∈ next x, y ∈ nodes) {s : Search α}
    (h : Bounded a nodes s) : Bounded a nodes (s.step next limit) ∧
      (s.queue ≠ [] → (s.step next limit).queue.length + s.visited.length + 1 =
        s.queue.length + (s.step next limit).visited.length) := by
  unfold Search.step
  cases hqueue : s.queue with
  | nil => exact ⟨h, fun hne => absurd rfl hne⟩
  | cons visit rest =>
      dsimp only
      by_cases hlimit : limit ≤ visit.depth
      · rw [if_pos hlimit]
        refine ⟨⟨h.nodup, h.among⟩, fun _ => ?_⟩
        simp only [List.length_cons]
        omega
      · rw [if_neg hlimit]
        obtain ⟨added, hadded, heq⟩ := exists_added visit (next visit.node)
          { s with queue := rest, expanded := s.expanded ++ [visit] }
        rw [heq]
        refine ⟨⟨?_, ?_⟩, fun _ => ?_⟩
        · refine List.Nodup.append h.nodup hadded.nodup ?_
          intro x hx hnew
          obtain ⟨entry, hentry, rfl⟩ := List.mem_map.1 hnew
          exact (hadded.fresh entry hentry).2 hx
        · intro x hx
          rcases List.mem_append.1 hx with hx | hnew
          · exact h.among x hx
          · obtain ⟨entry, hentry, rfl⟩ := List.mem_map.1 hnew
            exact List.mem_cons_of_mem _ (hnodes _ _ (hadded.fresh entry hentry).1)
        · simp only [List.length_append, List.length_cons, List.length_map]
          omega

theorem step_of_queue_eq_nil [DecidableEq α] {s : Search α} (h : s.queue = []) :
    s.step next limit = s := by
  rw [Search.step, h]

/-- After as many steps as visits are queued and nodes are left to mark the queue is empty. -/
theorem Bounded.queue_iterate [DecidableEq α] {nodes : List α}
    (hnodes : ∀ x, ∀ y ∈ next x, y ∈ nodes) (n : ℕ)
    {s : Search α} (h : Bounded a nodes s)
    (hn : s.queue.length + (nodes.length + 1 - s.visited.length) ≤ n) :
    ((Search.step next limit)^[n] s).queue = [] := by
  induction n generalizing s with
  | zero =>
      have hlength : s.queue.length = 0 := by omega
      exact List.length_eq_zero_iff.1 hlength
  | succ n ih =>
      by_cases hqueue : s.queue = []
      · rw [Function.iterate_fixed (step_of_queue_eq_nil hqueue)]
        exact hqueue
      · have hstep : Bounded a nodes (s.step next limit) ∧ _ := h.step hnodes
        have hle := hstep.1.length_le
        have hlength := hstep.2 hqueue
        rw [Function.iterate_succ_apply]
        exact ih hstep.1 (by omega)

end Termination

/-! ## Levels -/

section Levels

variable {next : α → List α} {limit : ℕ} {a : α}

/-- The search is at a level: the visits in front of the queue are at that distance, those behind
    at the next one, and the nodes seen are those within the level and those behind. -/
structure Level (next : α → List α) (limit : ℕ) (a : α) (k : ℕ) (front back : List (Visit α))
    (s : Search α) : Prop where
  queue : s.queue = front ++ back
  le_limit : k ≤ limit
  front_at : ∀ visit ∈ front, visit.depth = k ∧ visit.Shortest (fun x y => y ∈ next x) a
  back_at : ∀ visit ∈ back, k < limit ∧ visit.depth = k + 1 ∧
    visit.Shortest (fun x y => y ∈ next x) a
  visited_iff : ∀ x, x ∈ s.visited ↔
    (∃ n ≤ k, Reaches (fun x y => y ∈ next x) n a x) ∨ ∃ visit ∈ back, visit.node = x
  expanded_at : ∀ visit ∈ s.expanded, visit.depth < limit ∧ visit.depth ≤ k ∧
    visit.Shortest (fun x y => y ∈ next x) a
  closed : ∀ visit ∈ s.expanded, ∀ x ∈ next visit.node, x ∈ s.visited
  covered : ∀ n ≤ k, n < limit → ∀ x, Reaches (fun x y => y ∈ next x) n a x →
    (∃ visit ∈ s.expanded, visit.node = x) ∨ ∃ visit ∈ front, visit.node = x

theorem level_start : Level next limit a 0 [⟨a, [a], 0⟩] [] (Search.start a) where
  queue := rfl
  le_limit := Nat.zero_le _
  front_at := by
    intro visit hvisit
    rw [List.mem_singleton.1 hvisit]
    exact ⟨rfl, ⟨⟨rfl, List.isChain_singleton a, rfl, rfl, .refl a⟩, fun n _ => Nat.zero_le n⟩⟩
  back_at := by simp
  visited_iff := by
    intro x
    constructor
    · intro hx
      rw [List.mem_singleton.1 hx]
      exact Or.inl ⟨0, le_rfl, .refl a⟩
    · intro hx
      rcases hx with ⟨n, hn, hreach⟩ | ⟨visit, hvisit, -⟩
      · obtain rfl := Nat.le_zero.1 hn
        cases hreach
        exact List.mem_cons_self
      · cases hvisit
  expanded_at := by simp [Search.start]
  closed := by simp [Search.start]
  covered := by
    intro n hn _ x hreach
    obtain rfl := Nat.le_zero.1 hn
    cases hreach
    exact Or.inr ⟨_, List.mem_cons_self, rfl⟩

/-- When the front is empty the visits behind are the next level. -/
theorem Level.shift {k : ℕ} {back : List (Visit α)} {s : Search α}
    (h : Level next limit a k [] back s) (hk : k < limit) :
    Level next limit a (k + 1) back [] s := by
  have hvisited : ∀ x, Reaches (fun x y => y ∈ next x) (k + 1) a x → x ∈ s.visited := by
    intro x hreach
    obtain ⟨b, hwalk, hstep⟩ := reaches_succ_iff.1 hreach
    rcases h.covered k le_rfl hk b hwalk with ⟨visit, hvisit, rfl⟩ | ⟨visit, hvisit, -⟩
    · exact h.closed visit hvisit x hstep
    · cases hvisit
  refine ⟨?_, hk, fun visit hvisit => (h.back_at visit hvisit).2, by simp, ?_, ?_, h.closed, ?_⟩
  · rw [h.queue, List.nil_append, List.append_nil]
  · intro x
    constructor
    · intro hx
      rcases (h.visited_iff x).1 hx with ⟨n, hn, hreach⟩ | ⟨visit, hvisit, rfl⟩
      · exact Or.inl ⟨n, by omega, hreach⟩
      · obtain ⟨-, hdepth, hshortest⟩ := h.back_at visit hvisit
        exact Or.inl ⟨k + 1, le_rfl, hdepth ▸ hshortest.reaches⟩
    · intro hx
      rcases hx with ⟨n, hn, hreach⟩ | ⟨visit, hvisit, -⟩
      · rcases Nat.lt_or_eq_of_le hn with hn | rfl
        · exact (h.visited_iff x).2 (Or.inl ⟨n, by omega, hreach⟩)
        · exact hvisited x hreach
      · cases hvisit
  · intro visit hvisit
    obtain ⟨hlimit, hdepth, hshortest⟩ := h.expanded_at visit hvisit
    exact ⟨hlimit, by omega, hshortest⟩
  · intro n hn hlimit x hreach
    have hseen : x ∈ s.visited := by
      rcases Nat.lt_or_eq_of_le hn with hn | rfl
      · exact (h.visited_iff x).2 (Or.inl ⟨n, by omega, hreach⟩)
      · exact hvisited x hreach
    rcases (h.visited_iff x).1 hseen with ⟨m, hm, hreach'⟩ | hback
    · rcases h.covered m hm (by omega) x hreach' with hexpanded | ⟨visit, hvisit, -⟩
      · exact Or.inl hexpanded
      · cases hvisit
    · exact Or.inr hback

/-- At the limit a visit is dropped. -/
theorem Level.drop {k : ℕ} {visit : Visit α} {front back : List (Visit α)} {s : Search α}
    (h : Level next limit a k (visit :: front) back s) (hlimit : limit ≤ visit.depth) :
    Level next limit a k front back { s with queue := front ++ back } := by
  obtain ⟨hdepth, hshortest⟩ := h.front_at visit List.mem_cons_self
  refine ⟨rfl, h.le_limit, fun entry hentry => h.front_at entry (List.mem_cons_of_mem _ hentry),
    h.back_at, h.visited_iff, h.expanded_at, h.closed, ?_⟩
  intro n hn hlt x hreach
  rcases h.covered n hn hlt x hreach with hexpanded | ⟨entry, hentry, rfl⟩
  · exact Or.inl hexpanded
  · rcases List.mem_cons.1 hentry with rfl | hentry
    · have hleast := hshortest.least n hreach
      omega
    · exact Or.inr ⟨entry, hentry, rfl⟩

/-- Before the limit a visit is expanded, and its new successors are behind. -/
theorem Level.expand {k : ℕ} {visit : Visit α} {front back added : List (Visit α)} {s : Search α}
    (h : Level next limit a k (visit :: front) back s) (hlimit : ¬ limit ≤ visit.depth)
    (hadded : Added visit s.visited (next visit.node) added) :
    Level next limit a k front (back ++ added)
      { queue := front ++ back ++ added
        visited := s.visited ++ added.map Visit.node
        expanded := s.expanded ++ [visit] } := by
  obtain ⟨hdepth, hshortest⟩ := h.front_at visit List.mem_cons_self
  have hback : ∀ entry ∈ added, k < limit ∧ entry.depth = k + 1 ∧
      entry.Shortest (fun x y => y ∈ next x) a := by
    intro entry hentry
    obtain ⟨hin, hnew⟩ := hadded.fresh entry hentry
    have heq := hadded.eq entry hentry
    have hentryDepth : entry.depth = k + 1 := by rw [heq, hdepth]
    refine ⟨by omega, hentryDepth, ?_, ?_⟩
    · rw [heq]
      exact hshortest.toWalks.snoc hin
    · -- a shorter walk would have marked the node
      intro n hreach
      by_contra hlt
      exact hnew ((h.visited_iff _).2 (Or.inl ⟨n, by omega, hreach⟩))
  refine ⟨List.append_assoc _ _ _, h.le_limit,
    fun entry hentry => h.front_at entry (List.mem_cons_of_mem _ hentry), ?_, ?_, ?_, ?_, ?_⟩
  · intro entry hentry
    rcases List.mem_append.1 hentry with hentry | hentry
    · exact h.back_at entry hentry
    · exact hback entry hentry
  · intro x
    simp only [List.mem_append, h.visited_iff x, List.mem_map, or_and_right, exists_or, or_assoc]
  · intro entry hentry
    rcases List.mem_append.1 hentry with hentry | hentry
    · exact h.expanded_at entry hentry
    · rw [List.mem_singleton.1 hentry]
      exact ⟨by omega, by omega, hshortest⟩
  · intro entry hentry x hx
    rcases List.mem_append.1 hentry with hentry | hentry
    · exact List.mem_append_left _ (h.closed entry hentry x hx)
    · rw [List.mem_singleton.1 hentry] at hx
      rcases hadded.covers x hx with hseen | ⟨found, hfound, rfl⟩
      · exact List.mem_append_left _ hseen
      · exact List.mem_append_right _ (List.mem_map_of_mem hfound)
  · intro n hn hlt x hreach
    rcases h.covered n hn hlt x hreach with ⟨entry, hentry, rfl⟩ | ⟨entry, hentry, rfl⟩
    · exact Or.inl ⟨entry, List.mem_append_left _ hentry, rfl⟩
    · rcases List.mem_cons.1 hentry with rfl | hentry
      · exact Or.inl ⟨entry, List.mem_append_right _ List.mem_cons_self, rfl⟩
      · exact Or.inr ⟨entry, hentry, rfl⟩

/-- A step takes the first visit of the front. -/
theorem Level.step_cons [DecidableEq α] {k : ℕ} {visit : Visit α}
    {front back : List (Visit α)} {s : Search α}
    (h : Level next limit a k (visit :: front) back s) :
    ∃ back', Level next limit a k front back' (s.step next limit) := by
  have hqueue : s.queue = visit :: (front ++ back) := h.queue
  rw [Search.step, hqueue]
  dsimp only
  by_cases hlimit : limit ≤ visit.depth
  · rw [if_pos hlimit]
    exact ⟨back, h.drop hlimit⟩
  · rw [if_neg hlimit]
    obtain ⟨added, hadded, heq⟩ := exists_added visit (next visit.node)
      { s with queue := front ++ back, expanded := s.expanded ++ [visit] }
    rw [heq]
    exact ⟨back ++ added, h.expand hlimit hadded⟩

/-- A step keeps the search at a level, the same or the next one. -/
theorem Level.step [DecidableEq α] {k : ℕ} {front back : List (Visit α)} {s : Search α}
    (h : Level next limit a k front back s) :
    ∃ k' front' back', Level next limit a k' front' back' (s.step next limit) := by
  cases front with
  | nil =>
      cases back with
      | nil =>
          rw [step_of_queue_eq_nil h.queue]
          exact ⟨k, [], [], h⟩
      | cons visit rest =>
          have hk := (h.back_at visit List.mem_cons_self).1
          obtain ⟨back', hnext⟩ := (h.shift hk).step_cons
          exact ⟨k + 1, rest, back', hnext⟩
  | cons visit rest =>
      obtain ⟨back', hnext⟩ := h.step_cons
      exact ⟨k, rest, back', hnext⟩

theorem exists_level_iterate [DecidableEq α] (n : ℕ) : ∃ k front back,
    Level next limit a k front back ((Search.step next limit)^[n] (Search.start a)) := by
  induction n with
  | zero => exact ⟨0, _, _, level_start⟩
  | succ n ih =>
      obtain ⟨k, front, back, hlevel⟩ := ih
      rw [Function.iterate_succ_apply']
      exact hlevel.step

/-- A search with an empty queue is at the last level. -/
theorem Level.finish {k : ℕ} {front back : List (Visit α)} {s : Search α}
    (h : Level next limit a k front back s) (hempty : s.queue = []) :
    Level next limit a limit [] [] s := by
  have hqueue := h.queue
  rw [hempty, eq_comm, List.append_eq_nil_iff] at hqueue
  obtain ⟨rfl, rfl⟩ := hqueue
  have hlast : ∀ m, k + m ≤ limit → Level next limit a (k + m) [] [] s := by
    intro m
    induction m with
    | zero => exact fun _ => h
    | succ m ih =>
        intro hm
        exact (ih (by omega)).shift (by omega)
  have hle := h.le_limit
  have heq : k + (limit - k) = limit := by omega
  have hlevel := hlast (limit - k) (by omega)
  rwa [heq] at hlevel

end Levels

/-! ## The search as a whole -/

section Results

variable [DecidableEq α] (next : α → List α) (limit : ℕ) (a : α)

/-- The search, with one step for the start and for each node that can be seen. -/
def search (nodes : List α) : Search α :=
  (Search.step next limit)^[nodes.length + 1] (Search.start a)

variable {next limit a} {nodes : List α} (hnodes : ∀ x, ∀ y ∈ next x, y ∈ nodes)

include hnodes

/-- **The search ends.** -/
theorem queue_search : (search next limit a nodes).queue = [] := by
  have hbounded : Bounded a nodes (Search.start a) :=
    ⟨List.nodup_singleton a, fun x hx => List.mem_cons.2 (Or.inl (List.mem_singleton.1 hx))⟩
  refine hbounded.queue_iterate hnodes _ ?_
  simp [Search.start, Nat.add_comm]

/-- More rounds find nothing more. -/
theorem search_eq_search {nodes' : List α} (hnodes' : ∀ x, ∀ y ∈ next x, y ∈ nodes') :
    search next limit a nodes = search next limit a nodes' := by
  have hfixed : ∀ nodes, (search next limit a nodes).queue = [] → ∀ rounds,
      (Search.step next limit)^[rounds + (nodes.length + 1)] (Search.start a) =
        search next limit a nodes := by
    intro nodes hempty rounds
    rw [Function.iterate_add_apply]
    exact Function.iterate_fixed (step_of_queue_eq_nil hempty) rounds
  rw [← hfixed nodes (queue_search hnodes) (nodes'.length + 1),
    ← hfixed nodes' (queue_search hnodes') (nodes.length + 1), Nat.add_comm]

theorem level_search :
    Level next limit a limit [] [] (search next limit a nodes) := by
  have hexists : ∃ k front back, Level next limit a k front back (search next limit a nodes) :=
    exists_level_iterate _
  obtain ⟨k, front, back, hlevel⟩ := hexists
  exact hlevel.finish (queue_search hnodes)

theorem expanded_shortest {visit : Visit α} (h : visit ∈ (search next limit a nodes).expanded) :
    visit.depth < limit ∧ visit.Shortest (fun x y => y ∈ next x) a := by
  obtain ⟨hlimit, -, hshortest⟩ := (level_search hnodes).expanded_at visit h
  exact ⟨hlimit, hshortest⟩

/-- **What is expanded.** The nodes at a smaller distance than the limit. -/
theorem mem_expanded_iff {x : α} :
    (∃ visit ∈ (search next limit a nodes).expanded, visit.node = x) ↔
      ∃ n < limit, Reaches (fun x y => y ∈ next x) n a x := by
  constructor
  · rintro ⟨visit, hvisit, hnode⟩
    obtain ⟨hlimit, hshortest⟩ := expanded_shortest hnodes hvisit
    exact ⟨visit.depth, hlimit, hnode ▸ hshortest.reaches⟩
  · rintro ⟨n, hn, hreach⟩
    rcases (level_search hnodes).covered n hn.le hn x hreach with hexpanded | ⟨visit, hvisit, -⟩
    · exact hexpanded
    · cases hvisit

/-- A successor of an expanded visit is reached in one step and up to the limit. -/
theorem exists_expanded_next_iff {y : α} :
    (∃ visit ∈ (search next limit a nodes).expanded, y ∈ next visit.node) ↔
      ∃ n, 1 ≤ n ∧ n ≤ limit ∧ Reaches (fun x y => y ∈ next x) n a y := by
  constructor
  · rintro ⟨visit, hvisit, hnext⟩
    obtain ⟨hlimit, hshortest⟩ := expanded_shortest hnodes hvisit
    exact ⟨visit.depth + 1, by omega, hlimit, hshortest.reaches.snoc hnext⟩
  · rintro ⟨n, hn, hlimit, hreach⟩
    obtain ⟨m, rfl⟩ : ∃ m, n = m + 1 := ⟨n - 1, by omega⟩
    obtain ⟨x, hwalk, hnext⟩ := reaches_succ_iff.1 hreach
    obtain ⟨visit, hvisit, rfl⟩ := (mem_expanded_iff hnodes).2 ⟨m, hlimit, hwalk⟩
    exact ⟨visit, hvisit, hnext⟩

/-- One of the visits that a node succeeds is on a shortest walk of at least one step to it. -/
theorem exists_expanded_least {y : α} {n : ℕ} (hn : 1 ≤ n) (hlimit : n ≤ limit)
    (hreach : Reaches (fun x y => y ∈ next x) n a y) :
    ∃ visit ∈ (search next limit a nodes).expanded, y ∈ next visit.node ∧
      ∀ m, 1 ≤ m → Reaches (fun x y => y ∈ next x) m a y → visit.depth + 1 ≤ m := by
  classical
  have hexists : ∃ m, 1 ≤ m ∧ Reaches (fun x y => y ∈ next x) m a y := ⟨n, hn, hreach⟩
  obtain ⟨hpos, hleast⟩ := Nat.find_spec hexists
  have hfind : Nat.find hexists ≤ n := Nat.find_min' hexists ⟨hn, hreach⟩
  obtain ⟨m, hm⟩ : ∃ m, Nat.find hexists = m + 1 := ⟨Nat.find hexists - 1, by omega⟩
  have hlt : m < limit := by omega
  rw [hm] at hleast
  obtain ⟨x, hwalk, hnext⟩ := reaches_succ_iff.1 hleast
  obtain ⟨visit, hvisit, rfl⟩ := (mem_expanded_iff hnodes).2 ⟨m, hlt, hwalk⟩
  have hdepth := (expanded_shortest hnodes hvisit).2.least m hwalk
  refine ⟨visit, hvisit, hnext, fun m' hm' hreach' => ?_⟩
  have hmin := Nat.find_min' hexists ⟨hm', hreach'⟩
  omega

end Results

end BreadthFirst

end ConstellationTopology
