import Mathlib.Data.List.Cycle

set_option autoImplicit false

/-! # Elementary cycles of a finite graph

A cycle is written as the list of its nodes from one of them on, and two lists write one cycle when
they are rotations of each other. A walk that is continued until it meets itself finds every
elementary cycle (`visit_complete`) and nothing else (`visit_sound`). -/

namespace ConstellationTopology

namespace ElementaryCycle

variable {α : Type*}

/-- The nodes of a cycle, with the first one again at the end. -/
def closed (nodes : List α) : List α := nodes ++ nodes.head?.toList

/-- The nodes of a cycle are distinct and each leads to the one after it. -/
structure Elementary (R : α → α → Prop) (nodes : List α) : Prop where
  ne_nil : nodes ≠ []
  nodup : nodes.Nodup
  chain : (closed nodes).IsChain R

/-- No node of an elementary cycle comes twice. -/
theorem Elementary.notMem_front {R : α → α → Prop} {front back : List α} {node : α}
    (h : Elementary R (front ++ node :: back)) : node ∉ front := by
  have hnodup := h.nodup
  rw [List.nodup_append] at hnodup
  exact fun hin => hnodup.2.2 node hin node List.mem_cons_self rfl

theorem chain_coe_iff {R : α → α → Prop} {nodes : List α} :
    Cycle.Chain R (nodes : Cycle α) ↔ (closed nodes).IsChain R := by
  cases nodes with
  | nil => simp [closed]
  | cons a rest => exact Cycle.chain_coe_cons R a rest

/-- The elementary cycles of a graph, as cycles. -/
theorem elementary_iff {R : α → α → Prop} {nodes : List α} :
    Elementary R nodes ↔ (nodes : Cycle α) ≠ Cycle.nil ∧ (nodes : Cycle α).Nodup ∧
      (nodes : Cycle α).Chain R := by
  rw [Ne, Cycle.coe_eq_nil, Cycle.nodup_coe_iff, chain_coe_iff]
  constructor
  · intro h
    exact ⟨h.ne_nil, h.nodup, h.chain⟩
  · rintro ⟨hne, hnodup, hchain⟩
    exact ⟨hne, hnodup, hchain⟩

theorem closed_dropLast {nodes : List α} (h : nodes ≠ []) : (closed nodes).dropLast = nodes := by
  cases nodes with
  | nil => exact absurd rfl h
  | cons a rest => rw [closed, List.head?_cons, Option.toList_some, List.dropLast_concat]

/-! ## The walk -/

variable [DecidableEq α] (next : α → List α)

/-- The cycles that the walk to a node along a path closes, or that it closes when it goes on. -/
def visit : ℕ → α → List α → List (List α)
  | fuel, node, path =>
      if node ∈ path then [path.drop (path.idxOf node)]
      else
        match fuel with
        | 0 => []
        | fuel + 1 => (next node).flatMap fun target => visit fuel target (path ++ [node])

variable {next}

theorem visit_of_mem {fuel : ℕ} {node : α} {path : List α} (h : node ∈ path) :
    visit next fuel node path = [path.drop (path.idxOf node)] := by
  cases fuel with
  | zero => rw [visit, if_pos h]
  | succ fuel => rw [visit, if_pos h]

theorem visit_succ {fuel : ℕ} {node : α} {path : List α} (h : node ∉ path) :
    visit next (fuel + 1) node path =
      (next node).flatMap fun target => visit next fuel target (path ++ [node]) := by
  rw [visit, if_neg h]

/-- The part of a path from a node on is a cycle when the path leads back to it. -/
theorem elementary_drop {R : α → α → Prop} {node : α} {path : List α} (hnode : node ∈ path)
    (hnodup : path.Nodup) (hchain : (path ++ [node]).IsChain R) :
    Elementary R (path.drop (path.idxOf node)) := by
  have hlt : path.idxOf node < path.length := List.idxOf_lt_length_of_mem hnode
  have hhead : (path.drop (path.idxOf node)).head? = some node := by
    rw [List.head?_drop, List.getElem?_eq_getElem hlt, List.getElem_idxOf]
  refine ⟨?_, ?_, ?_⟩
  · exact List.ne_nil_of_length_pos (by rw [List.length_drop]; omega)
  · exact hnodup.sublist (List.drop_sublist _ _)
  · rw [closed, hhead]
    have hdrop : path.drop (path.idxOf node) ++ [node] =
        (path ++ [node]).drop (path.idxOf node) := by
      rw [List.drop_append_of_le_length hlt.le]
    exact hdrop ▸ hchain.drop _

/-- **Nothing else is found.** -/
theorem visit_sound {fuel : ℕ} {node : α} {path : List α} (hnodup : path.Nodup)
    (hchain : (path ++ [node]).IsChain fun a b => b ∈ next a) :
    ∀ nodes ∈ visit next fuel node path, Elementary (fun a b => b ∈ next a) nodes := by
  induction fuel generalizing node path with
  | zero =>
      intro nodes hnodes
      by_cases hmem : node ∈ path
      · rw [visit_of_mem hmem] at hnodes
        rw [List.mem_singleton.1 hnodes]
        exact elementary_drop hmem hnodup hchain
      · rw [visit, if_neg hmem] at hnodes
        cases hnodes
  | succ fuel ih =>
      intro nodes hnodes
      by_cases hmem : node ∈ path
      · rw [visit_of_mem hmem] at hnodes
        rw [List.mem_singleton.1 hnodes]
        exact elementary_drop hmem hnodup hchain
      · rw [visit_succ hmem] at hnodes
        obtain ⟨target, htarget, hnodes⟩ := List.mem_flatMap.1 hnodes
        refine ih ?_ ?_ nodes hnodes
        · exact List.nodup_append.2 ⟨hnodup, List.nodup_singleton _, by
            intro a ha b hb hab
            rw [List.mem_singleton.1 hb] at hab
            exact hmem (hab ▸ ha)⟩
        · refine hchain.append (List.isChain_singleton target) ?_
          intro last hlast first hfirst
          rw [List.getLast?_concat, Option.mem_some_iff] at hlast
          rw [List.head?_cons, Option.mem_some_iff] at hfirst
          rw [← hlast, ← hfirst]
          exact htarget

/-- A walk that has come around a part of a cycle closes it when it has steps for the rest. -/
theorem visit_of_split {front back : List α} {node : α}
    (h : Elementary (fun a b => b ∈ next a) (front ++ node :: back)) {fuel : ℕ}
    (hfuel : back.length + 1 ≤ fuel) :
    front ++ node :: back ∈ visit next fuel node front := by
  induction back generalizing front node fuel with
  | nil =>
      obtain ⟨fuel, rfl⟩ : ∃ f, fuel = f + 1 := ⟨fuel - 1, by omega⟩
      have hmem := h.notMem_front
      obtain ⟨first, hfirst⟩ : ∃ first, (front ++ [node]).head? = some first := by
        cases front with
        | nil => exact ⟨node, rfl⟩
        | cons a rest => exact ⟨a, rfl⟩
      have hnext : first ∈ next node := by
        have hchain := h.chain
        rw [closed, hfirst, Option.toList_some, List.append_assoc, List.singleton_append,
          List.isChain_append_cons_cons] at hchain
        exact hchain.2.1
      rw [visit_succ hmem]
      refine List.mem_flatMap.2 ⟨first, hnext, ?_⟩
      rw [visit_of_mem (List.mem_of_mem_head? hfirst)]
      have hidx : (front ++ [node]).idxOf first = 0 := by
        cases hlist : front ++ [node] with
        | nil => simp at hlist
        | cons a rest =>
            rw [hlist, List.head?_cons, Option.some.injEq] at hfirst
            rw [hfirst, List.idxOf_cons_self]
      rw [hidx, List.drop_zero]
      exact List.mem_singleton_self _
  | cons following back ih =>
      obtain ⟨fuel, rfl⟩ : ∃ f, fuel = f + 1 := ⟨fuel - 1, by omega⟩
      have hmem := h.notMem_front
      have hnext : following ∈ next node := by
        have hchain := h.chain
        rw [closed, List.append_assoc, List.cons_append, List.cons_append,
          List.isChain_append_cons_cons] at hchain
        exact hchain.2.1
      have hsplit : front ++ node :: following :: back = front ++ [node] ++ following :: back := by
        simp
      rw [visit_succ hmem]
      refine List.mem_flatMap.2 ⟨following, hnext, ?_⟩
      rw [hsplit] at h ⊢
      refine ih h ?_
      rw [List.length_cons] at hfuel
      omega

/-- **Every cycle is found.** From its first node on, with one step for each node. -/
theorem visit_complete {node : α} {rest : List α}
    (h : Elementary (fun a b => b ∈ next a) (node :: rest)) {fuel : ℕ}
    (hfuel : (node :: rest).length ≤ fuel) : node :: rest ∈ visit next fuel node [] := by
  have hsplit : [] ++ node :: rest ∈ visit next fuel node [] := visit_of_split h hfuel
  exact hsplit

end ElementaryCycle

end ConstellationTopology
