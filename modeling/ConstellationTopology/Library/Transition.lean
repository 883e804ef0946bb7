import Mathlib.Data.List.Basic
import Mathlib.Logic.Basic

set_option autoImplicit false

/-! # Labelled transition systems

A system is an initial state and a partial step function: `step s a = none` when the label `a` is
not enabled in `s`. Labels carry every choice of the environment (who moves, which external call
fails, which fresh value is drawn), so a run is a list of labels and is executable.

The two rules below are what the safety proofs use: `Reachable.invariant` for a predicate kept by
every step, and `run_guarded` for a predicate kept only by the steps that meet a guard. -/

namespace ConstellationTopology

/-- An initial state together with a deterministic, partial labelled step. -/
structure TransitionSystem (σ α : Type*) where
  init : σ
  step : σ → α → Option σ

namespace TransitionSystem

variable {σ α : Type*} (T : TransitionSystem σ α)

/-! ## Runs -/

/-- Take the labels in order; `none` as soon as one is not enabled. -/
def runFrom : σ → List α → Option σ
  | s, [] => some s
  | s, a :: rest => (T.step s a).bind fun s' => runFrom s' rest

/-- A run from the initial state. -/
def run (as : List α) : Option σ := T.runFrom T.init as

/-- `s` is the last state of some run. -/
def Reachable (s : σ) : Prop := ∃ as, T.run as = some s

@[simp] theorem runFrom_nil (s : σ) : T.runFrom s [] = some s := rfl

@[simp] theorem runFrom_cons (s : σ) (a : α) (rest : List α) :
    T.runFrom s (a :: rest) = (T.step s a).bind fun s' => T.runFrom s' rest := rfl

theorem runFrom_append (s : σ) (as bs : List α) :
    T.runFrom s (as ++ bs) = (T.runFrom s as).bind fun s' => T.runFrom s' bs := by
  induction as generalizing s with
  | nil => rfl
  | cons a rest ih =>
      simp only [List.cons_append, runFrom_cons, ih]
      cases T.step s a <;> rfl

variable {T}

theorem Reachable.init : T.Reachable T.init := ⟨[], rfl⟩

theorem Reachable.step {s s' : σ} {a : α} (h : T.Reachable s) (hs : T.step s a = some s') :
    T.Reachable s' := by
  obtain ⟨as, has⟩ := h
  refine ⟨as ++ [a], ?_⟩
  unfold run at has ⊢
  rw [runFrom_append, has]
  simp [hs]

/-! ## Invariant rules -/

/-- A predicate kept by every step is kept by a run. -/
theorem runFrom_invariant {I : σ → Prop} {s s' : σ} {as : List α} (h0 : I s)
    (hstep : ∀ s a s', I s → T.step s a = some s' → I s') (h : T.runFrom s as = some s') :
    I s' := by
  induction as generalizing s with
  | nil =>
      cases h
      exact h0
  | cons a rest ih =>
      obtain ⟨mid, hmid, hrest⟩ := Option.bind_eq_some_iff.1 h
      exact ih (hstep s a mid h0 hmid) hrest

/-- **Invariant rule.** What holds initially and is kept by every step holds of every reachable
    state. -/
theorem Reachable.invariant {I : σ → Prop} {s : σ} (h : T.Reachable s) (h0 : I T.init)
    (hstep : ∀ s a s', I s → T.step s a = some s' → I s') : I s := by
  obtain ⟨as, has⟩ := h
  exact runFrom_invariant h0 hstep has

variable (T)

/-- Every label of the run meets the guard `G` in the state it is taken from. -/
def Guarded (G : σ → α → Prop) : σ → List α → Prop
  | _, [] => True
  | s, a :: rest => G s a ∧ ∀ s', T.step s a = some s' → Guarded G s' rest

variable {T}

/-- The guard holds of a run if and only if it holds of every label where the run takes it. -/
theorem guarded_iff_forall {G : σ → α → Prop} {s : σ} {as : List α} :
    T.Guarded G s as ↔
      ∀ before a after mid, as = before ++ a :: after → T.runFrom s before = some mid →
        G mid a := by
  induction as generalizing s with
  | nil => simp [Guarded]
  | cons a rest ih =>
      constructor
      · rintro ⟨hfirst, hrest⟩ before b after mid hsplit hrun
        cases before with
        | nil =>
            cases hsplit
            cases hrun
            exact hfirst
        | cons c before =>
            cases hsplit
            obtain ⟨next, hnext, hrun⟩ := Option.bind_eq_some_iff.1 hrun
            exact ih.1 (hrest next hnext) before b after mid rfl hrun
      · intro h
        refine ⟨h [] a rest s rfl rfl, fun next hnext => ih.2 ?_⟩
        intro before b after mid hsplit hrun
        refine h (a :: before) b after mid (by rw [hsplit]; rfl) ?_
        rw [runFrom_cons, hnext]
        exact hrun

/-- **Guarded invariant rule.** What holds initially and is kept by the steps that meet the guard
    holds after every run whose steps all meet it. -/
theorem runFrom_guarded {G : σ → α → Prop} {I : σ → Prop} {s s' : σ} {as : List α} (h0 : I s)
    (hstep : ∀ s a s', I s → G s a → T.step s a = some s' → I s')
    (hg : T.Guarded G s as) (h : T.runFrom s as = some s') : I s' := by
  induction as generalizing s with
  | nil =>
      cases h
      exact h0
  | cons a rest ih =>
      obtain ⟨mid, hmid, hrest⟩ := Option.bind_eq_some_iff.1 h
      obtain ⟨hga, hgrest⟩ := hg
      exact ih (hstep s a mid h0 hga hmid) (hgrest mid hmid) hrest

/-- The converse, under an invariant `J`: if a step that breaks the guard breaks the predicate, and
    no later step repairs it, then a run that ends inside the predicate met the guard throughout. -/
theorem guarded_of_runFrom {G : σ → α → Prop} {I J : σ → Prop} {s s' : σ} {as : List α}
    (hJ : ∀ s a s', J s → T.step s a = some s' → J s')
    (hstable : ∀ s a s', J s → T.step s a = some s' → I s' → I s)
    (hbreak : ∀ s a s', J s → T.step s a = some s' → I s' → G s a)
    (h0 : J s) (h : T.runFrom s as = some s') (hI : I s') : T.Guarded G s as ∧ I s := by
  induction as generalizing s with
  | nil =>
      cases h
      exact ⟨trivial, hI⟩
  | cons a rest ih =>
      obtain ⟨mid, hmid, hrest⟩ := Option.bind_eq_some_iff.1 h
      obtain ⟨hgrest, hImid⟩ := ih (hJ s a mid h0 hmid) hrest
      refine ⟨⟨hbreak s a mid h0 hmid hImid, ?_⟩, hstable s a mid h0 hmid hImid⟩
      intro s'' hs''
      rw [hmid] at hs''
      cases hs''
      exact hgrest

end TransitionSystem

/-! ## Traces of a system without choices -/

namespace TransitionSystem

variable {σ : Type*} {T : TransitionSystem σ Unit}

/-- Consecutive states of a run. -/
def IsTrace (T : TransitionSystem σ Unit) (trace : List σ) : Prop :=
  trace.head? = some T.init ∧ trace.IsChain fun s s' => T.step s () = some s'

theorem reachable_of_chain {s : σ} {rest : List σ} (hs : T.Reachable s)
    (hchain : (s :: rest).IsChain fun s s' => T.step s () = some s') :
    ∀ t ∈ s :: rest, T.Reachable t := by
  induction rest generalizing s with
  | nil =>
      intro t ht
      rw [List.mem_singleton.1 ht]
      exact hs
  | cons next rest ih =>
      obtain ⟨hstep, hrest⟩ := List.isChain_cons_cons.1 hchain
      intro t ht
      rcases List.mem_cons.1 ht with rfl | ht
      · exact hs
      · exact ih (hs.step hstep) hrest t ht

theorem IsTrace.reachable {trace : List σ} (h : T.IsTrace trace) : ∀ s ∈ trace, T.Reachable s := by
  obtain ⟨hhead, hchain⟩ := h
  cases trace with
  | nil => cases hhead
  | cons first rest =>
      have hfirst : first = T.init := Option.some.inj hhead
      exact reachable_of_chain (hfirst ▸ Reachable.init) hchain

/-- A state of a trace steps to another one of it, unless it is the last. -/
theorem exists_next_of_chain {trace : List σ}
    (hchain : trace.IsChain fun s s' => T.step s () = some s') :
    ∀ s ∈ trace, trace.getLast? = some s ∨ ∃ s' ∈ trace, T.step s () = some s' := by
  induction trace with
  | nil => simp
  | cons first rest ih =>
      cases rest with
      | nil => simp
      | cons next rest =>
          obtain ⟨hstep, hrest⟩ := List.isChain_cons_cons.1 hchain
          intro s hs
          rcases List.mem_cons.1 hs with rfl | hs
          · exact Or.inr ⟨next, by simp, hstep⟩
          · rcases ih hrest s hs with hlast | ⟨s', hs', hnext⟩
            · left
              rw [List.getLast?_cons_cons]
              exact hlast
            · exact Or.inr ⟨s', List.mem_cons_of_mem _ hs', hnext⟩

/-- **Dead ends.** A trace that ends where no step is left holds every reachable state. -/
theorem IsTrace.mem_of_reachable {trace : List σ} (h : T.IsTrace trace)
    (hlast : ∀ s, trace.getLast? = some s → T.step s () = none) {s : σ} (hs : T.Reachable s) :
    s ∈ trace := by
  obtain ⟨hhead, hchain⟩ := h
  refine hs.invariant (I := fun s => s ∈ trace) (List.mem_of_head? hhead) ?_
  intro s a s' hs hstep
  rcases exists_next_of_chain hchain s hs with hend | ⟨next, hnext, hnextStep⟩
  · rw [hlast s hend] at hstep
    cases hstep
  · rw [hnextStep] at hstep
    exact Option.some.inj hstep ▸ hnext

end TransitionSystem

end ConstellationTopology
