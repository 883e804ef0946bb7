import ConstellationTopology.Library.Fallible

set_option autoImplicit false

/-! # The first check that fails

A computation in `Except` that makes its checks in order fails with the kind of the first one that
is not met, and succeeds if all are. The checks of a sequence are those of its steps, one after the
other. -/

namespace ConstellationTopology

universe u v

variable {ε κ : Type u} {α β : Type v}

/-- A check: the kind it fails with, and whether it is met. -/
structure Check (κ : Type u) where
  kind : κ
  met : Bool

/-- The kind of the first check that is not met. -/
def firstUnmet (checks : List (Check κ)) : Option κ :=
  (checks.find? fun check => !check.met).map Check.kind

@[simp] theorem firstUnmet_nil : firstUnmet ([] : List (Check κ)) = none := rfl

theorem firstUnmet_append (checks rest : List (Check κ)) :
    firstUnmet (checks ++ rest) = (firstUnmet checks).or (firstUnmet rest) := by
  unfold firstUnmet
  rw [List.find?_append]
  cases checks.find? fun check => !check.met with
  | none => rfl
  | some check => rfl

theorem firstUnmet_cons (check : Check κ) (rest : List (Check κ)) :
    firstUnmet (check :: rest) = if check.met then firstUnmet rest else some check.kind := by
  unfold firstUnmet
  rw [List.find?_cons]
  cases check.met with
  | false => rfl
  | true => rfl

/-- The checks are all that decides how the computation ends. -/
def Makes (kindOf : ε → κ) (checks : List (Check κ)) (result : Except ε α) : Prop :=
  match result with
  | .ok _ => firstUnmet checks = none
  | .error e => firstUnmet checks = some (kindOf e)

variable {kindOf : ε → κ} {checks rest : List (Check κ)}

theorem Makes.pure (a : α) : Makes kindOf [] (Pure.pure a : Except ε α) := rfl

theorem Makes.error_iff {result : Except ε α} (h : Makes kindOf checks result) (kind : κ) :
    (∃ e, result = .error e ∧ kindOf e = kind) ↔ firstUnmet checks = some kind := by
  cases result with
  | ok a =>
      rw [show firstUnmet checks = none from h]
      simp
  | error e =>
      rw [show firstUnmet checks = some (kindOf e) from h]
      simp

/-- A sequence makes the checks of its first step, and then those of the second. -/
theorem Makes.bind {x : Except ε α} {f : α → Except ε β} (hx : Makes kindOf checks x)
    (hf : ∀ a, x = .ok a → Makes kindOf rest (f a)) : Makes kindOf (checks ++ rest) (x >>= f) := by
  cases x with
  | error e =>
      show firstUnmet (checks ++ rest) = _
      rw [firstUnmet_append, show firstUnmet checks = some (kindOf e) from hx]
      rfl
  | ok a =>
      have hnone : firstUnmet (checks ++ rest) = firstUnmet rest := by
        rw [firstUnmet_append, show firstUnmet checks = none from hx, Option.none_or]
      have hmakes := hf a rfl
      show Makes kindOf (checks ++ rest) (f a)
      unfold Makes at hmakes ⊢
      rw [hnone]
      exact hmakes

/-- What is made of the result asks for nothing more. -/
theorem Makes.bind_pure {x : Except ε α} (hx : Makes kindOf checks x) (g : α → β) :
    Makes kindOf checks (x >>= fun a => Pure.pure (g a)) := by
  have hmakes := hx.bind fun a _ => (Makes.pure (g a) : Makes kindOf [] _)
  rwa [List.append_nil] at hmakes

/-- A check that is met changes nothing. -/
theorem makes_of_holds {p : Prop} [Decidable p] {kind : κ} {result : Except ε α} (hp : p)
    (h : Makes kindOf [] result) : Makes kindOf [⟨kind, p⟩] result := by
  unfold Makes at h ⊢
  rwa [firstUnmet_cons, if_pos (decide_eq_true hp)]

theorem makes_of_fails {p : Prop} [Decidable p] {kind : κ} {e : ε} (hp : ¬ p)
    (he : kindOf e = kind) : Makes kindOf [⟨kind, p⟩] (.error e : Except ε α) := by
  unfold Makes
  rw [firstUnmet_cons, if_neg (by simpa using hp)]
  exact congrArg some he.symm

/-- A branch on a bound makes the check of the bound first. -/
theorem Makes.dite {p : Prop} [Decidable p] {kind : κ} {e : ε} {f : p → Except ε α}
    (he : kindOf e = kind) (hf : ∀ h, Makes kindOf rest (f h)) :
    Makes kindOf (⟨kind, p⟩ :: rest) (if h : p then f h else .error e) := by
  unfold Makes
  by_cases hp : p
  · rw [dif_pos hp, firstUnmet_cons, if_pos (decide_eq_true hp)]
    exact hf hp
  · rw [dif_neg hp, firstUnmet_cons, if_neg (by simpa using hp)]
    exact congrArg some he.symm

/-- A traversal makes the checks of its elements in their order. -/
theorem Makes.mapM {f : α → Except ε β} {checksOf : α → List (Check κ)} (xs : List α)
    (h : ∀ x ∈ xs, Makes kindOf (checksOf x) (f x)) :
    Makes kindOf (xs.flatMap checksOf) (xs.mapM f) := by
  induction xs with
  | nil => exact Makes.pure []
  | cons x xs ih =>
      rw [List.mapM_cons, List.flatMap_cons]
      refine (h x List.mem_cons_self).bind fun y _ => ?_
      exact (ih fun z hz => h z (List.mem_cons_of_mem _ hz)).bind_pure (y :: ·)

end ConstellationTopology
