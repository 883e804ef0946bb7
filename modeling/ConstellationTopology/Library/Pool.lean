import ConstellationTopology.Library.Transition

set_option autoImplicit false

/-! # Pools of workers over shared state

Any number of workers share one state. A worker moves by `advance`, which reads the environment's
answer and may change the shared state; a worker may crash between any two of its steps, after which
it never moves again, and new workers may start at any time.

Two rules reduce an invariant over all interleavings to facts about one step of one worker:
`Pool.forall_workers` for what holds of every worker, and `Pool.witness_or` for a shared fact that is
either discharged or still owed by some worker, crashed or not. -/

namespace ConstellationTopology

/-- A worker and whether it has crashed. -/
structure Slot (ω : Type*) where
  worker : ω
  crashed : Bool := false

/-- The shared store, and the workers by their keys. -/
structure Pool (σ ω : Type*) where
  shared : σ
  slots : List (Slot ω)

/-- `δ` describes a new worker, `ε` is an answer of the environment. -/
inductive PoolLabel (δ ε : Type*)
  | spawn (description : δ)
  | advance (slot : Nat) (env : ε)
  | crash (slot : Nat)

namespace Pool

variable {σ ω δ ε : Type*}

/-- The interleavings of all workers. -/
def system (init : σ) (start : δ → ω) (advance : ε → σ → ω → Option (σ × ω)) :
    TransitionSystem (Pool σ ω) (PoolLabel δ ε) where
  init := ⟨init, []⟩
  step pool
    | .spawn description => some { pool with slots := pool.slots ++ [⟨start description, false⟩] }
    | .advance i env =>
        match pool.slots[i]? with
        | none => none
        | some slot =>
            if slot.crashed then none
            else (advance env pool.shared slot.worker).map fun (shared, worker) =>
              { shared, slots := pool.slots.set i { slot with worker } }
    | .crash i =>
        match pool.slots[i]? with
        | none => none
        | some slot => some { pool with slots := pool.slots.set i { slot with crashed := true } }

section

variable {init : σ} {start : δ → ω} {advance : ε → σ → ω → Option (σ × ω)}
  {pool pool' : Pool σ ω}

/-- **Step lemma.** A worker starts, moves or crashes. -/
theorem step_cases {label : PoolLabel δ ε}
    (h : (system init start advance).step pool label = some pool') :
    (∃ description, pool' =
        { pool with slots := pool.slots ++ [⟨start description, false⟩] }) ∨
      (∃ i env slot shared worker, pool.slots[i]? = some slot ∧ slot.crashed = false ∧
        advance env pool.shared slot.worker = some (shared, worker) ∧
        pool' = ⟨shared, pool.slots.set i { slot with worker }⟩) ∨
      (∃ i slot, pool.slots[i]? = some slot ∧
        pool' = { pool with slots := pool.slots.set i { slot with crashed := true } }) := by
  cases label with
  | spawn description =>
      left
      exact ⟨description, (Option.some.inj h).symm⟩
  | advance i env =>
      right
      left
      simp only [system] at h
      split at h
      · cases h
      · next slot hslot =>
          split at h
          · cases h
          · next hcrashed =>
              obtain ⟨⟨shared, worker⟩, hadvance, rfl⟩ := Option.map_eq_some_iff.1 h
              exact ⟨i, env, slot, shared, worker, hslot, by simpa using hcrashed, hadvance, rfl⟩
  | crash i =>
      right
      right
      simp only [system] at h
      split at h
      · cases h
      · next slot hslot => exact ⟨i, slot, hslot, (Option.some.inj h).symm⟩

theorem exists_mem_set {slots : List (Slot ω)} {i : Nat} {old : Slot ω} (new : Slot ω)
    {W : Slot ω → Prop} {Q : Prop} (hold : slots[i]? = some old) (hW : W old → W new ∨ Q)
    (h : ∃ slot ∈ slots, W slot) : (∃ slot ∈ slots.set i new, W slot) ∨ Q := by
  obtain ⟨slot, hslot, hw⟩ := h
  obtain ⟨j, hj⟩ := List.mem_iff_getElem?.1 hslot
  have hi : i < slots.length := (List.getElem?_eq_some_iff.1 hold).1
  by_cases hij : i = j
  · subst hij
    rw [hold] at hj
    cases hj
    rcases hW hw with hnew | hq
    · exact Or.inl ⟨new, List.mem_set hi new, hnew⟩
    · exact Or.inr hq
  · refine Or.inl ⟨slot, List.mem_iff_getElem?.2 ⟨j, ?_⟩, hw⟩
    rw [List.getElem?_set_ne hij, hj]

/-- **Rule for every worker.** `I` holds of a new worker in any shared state, is kept by the
    worker's own step, and by the steps of the others. -/
theorem forall_workers {I : σ → ω → Prop} (hreach : (system init start advance).Reachable pool)
    (hstart : ∀ s description, I s (start description))
    (hown : ∀ env s w s' w', I s w → advance env s w = some (s', w') → I s' w')
    (hother : ∀ env s w s' w' v, I s w → advance env s w = some (s', w') → I s v → I s' v) :
    ∀ slot ∈ pool.slots, I pool.shared slot.worker := by
  refine hreach.invariant (I := fun pool => ∀ slot ∈ pool.slots, I pool.shared slot.worker) ?_ ?_
  · intro slot hslot
    cases hslot
  · intro pool label pool' ih hstep
    rcases step_cases hstep with
      ⟨description, rfl⟩ | ⟨i, env, old, shared, worker, hold, -, hadvance, rfl⟩ |
        ⟨i, old, hold, rfl⟩
    · intro slot hslot
      rcases List.mem_append.1 hslot with hslot | hslot
      · exact ih slot hslot
      · rw [List.mem_singleton] at hslot
        subst hslot
        exact hstart _ _
    · have hworker := ih old (List.mem_iff_getElem?.2 ⟨i, hold⟩)
      intro slot hslot
      rcases List.mem_or_eq_of_mem_set hslot with hslot | rfl
      · exact hother env _ _ _ _ _ hworker hadvance (ih slot hslot)
      · exact hown env _ _ _ _ hworker hadvance
    · intro slot hslot
      rcases List.mem_or_eq_of_mem_set hslot with hslot | rfl
      · exact ih slot hslot
      · exact ih old (List.mem_iff_getElem?.2 ⟨i, hold⟩)

/-- **Rule for debts.** A shared fact `P` that holds is either discharged (`Q`) or some worker still
    owes it (`W`): a step that makes `P` true leaves its worker owing, and a worker that stops owing
    has discharged. `I` is a worker invariant the step facts may use. -/
theorem witness_or {P Q : σ → Prop} {W : ω → Prop} {I : σ → ω → Prop}
    (hreach : (system init start advance).Reachable pool)
    (hI : ∀ pool, (system init start advance).Reachable pool →
      ∀ slot ∈ pool.slots, I pool.shared slot.worker)
    (hinit : ¬ P init)
    (hmake : ∀ env s w s' w', I s w → advance env s w = some (s', w') → P s' → P s ∨ W w')
    (hkeep : ∀ env s w s' w', I s w → advance env s w = some (s', w') → Q s → Q s')
    (hpay : ∀ env s w s' w', I s w → advance env s w = some (s', w') → W w → W w' ∨ Q s')
    (hP : P pool.shared) : Q pool.shared ∨ ∃ slot ∈ pool.slots, W slot.worker := by
  have hinv := hreach.invariant
    (I := fun pool => (system init start advance).Reachable pool ∧
      (P pool.shared → Q pool.shared ∨ ∃ slot ∈ pool.slots, W slot.worker))
    ⟨TransitionSystem.Reachable.init, fun h => absurd h hinit⟩ ?_
  · exact hinv.2 hP
  · rintro pool label pool' ⟨hpool, ih⟩ hstep
    refine ⟨hpool.step hstep, ?_⟩
    intro hP'
    rcases step_cases hstep with
      ⟨description, rfl⟩ | ⟨i, env, old, shared, worker, hold, -, hadvance, rfl⟩ |
        ⟨i, old, hold, rfl⟩
    · rcases ih hP' with hQ | ⟨slot, hslot, hW⟩
      · exact Or.inl hQ
      · exact Or.inr ⟨slot, List.mem_append_left _ hslot, hW⟩
    · have hworker := hI pool hpool old (List.mem_iff_getElem?.2 ⟨i, hold⟩)
      rcases hmake env _ _ _ _ hworker hadvance hP' with hP | hW
      · rcases ih hP with hQ | hsome
        · exact Or.inl (hkeep env _ _ _ _ hworker hadvance hQ)
        · exact (exists_mem_set { old with worker } hold
            (hpay env _ _ _ _ hworker hadvance) hsome).symm
      · have hi : i < pool.slots.length := (List.getElem?_eq_some_iff.1 hold).1
        exact Or.inr ⟨_, List.mem_set hi _, hW⟩
    · rcases ih hP' with hQ | hsome
      · exact Or.inl hQ
      · exact (exists_mem_set (W := fun slot => W slot.worker) (Q := Q pool.shared)
          { old with crashed := true } hold (fun hW => Or.inl hW) hsome).symm

end

end Pool

end ConstellationTopology
