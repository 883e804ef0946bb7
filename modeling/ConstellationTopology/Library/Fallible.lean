import Mathlib.Data.List.Forall2

set_option autoImplicit false

/-! # Computations that may fail

What a computation in `Except` that has succeeded says about its steps. -/

namespace ConstellationTopology

universe u v

variable {ε : Type u} {α β γ : Type v}

/-- A sequence succeeds when both steps do. -/
theorem bind_eq_ok {x : Except ε α} {f : α → Except ε β} {b : β} :
    (x >>= f) = .ok b ↔ ∃ a, x = .ok a ∧ f a = .ok b := by
  cases x with
  | error e => simp [bind, Except.bind]
  | ok a => simp [bind, Except.bind]

/-- A first step that succeeded leaves the second. -/
theorem bind_of_ok {x : Except ε α} {a : α} (h : x = .ok a) (f : α → Except ε β) :
    (x >>= f) = f a := by
  rw [h]
  rfl

theorem pure_eq_ok {a b : α} : (pure a : Except ε α) = .ok b ↔ a = b := by
  simp [pure, Except.pure]

/-- `if not passed: raise error`. -/
def demand (passed : Prop) [Decidable passed] (error : ε) : Except ε Unit :=
  if passed then .ok () else .error error

/-- The value, or the error for `none`. -/
def expect (found : Option α) (error : ε) : Except ε α :=
  match found with
  | some a => .ok a
  | none => .error error

@[simp] theorem demand_eq_ok {passed : Prop} [Decidable passed] {error : ε} {u : Unit} :
    demand passed error = .ok u ↔ passed := by
  unfold demand
  split <;> simp_all

theorem demand_of {passed : Prop} [Decidable passed] {error : ε} (h : passed) :
    demand passed error = .ok () := if_pos h

@[simp] theorem expect_eq_ok {found : Option α} {error : ε} {a : α} :
    expect found error = .ok a ↔ found = some a := by
  cases found <;> simp [expect]

theorem mapError_eq_ok {ε' : Type u} {f : ε → ε'} {x : Except ε α} {a : α} :
    x.mapError f = .ok a ↔ x = .ok a := by
  cases x <;> simp [Except.mapError]

theorem map_eq_ok {f : α → β} {x : Except ε α} {b : β} :
    x.map f = .ok b ↔ ∃ a, x = .ok a ∧ f a = b := by
  cases x <;> simp [Except.map]

/-- A traversal succeeds when every element does. -/
theorem mapM_eq_ok {f : α → Except ε β} {xs : List α} {ys : List β} :
    xs.mapM f = .ok ys ↔ List.Forall₂ (fun x y => f x = .ok y) xs ys := by
  induction xs generalizing ys with
  | nil => rw [List.mapM_nil, pure_eq_ok, List.forall₂_nil_left_iff, eq_comm]
  | cons x xs ih =>
      rw [List.mapM_cons, bind_eq_ok, List.forall₂_cons_left_iff]
      constructor
      · rintro ⟨y, hy, h⟩
        obtain ⟨rest, hrest, heq⟩ := bind_eq_ok.1 h
        exact ⟨y, rest, hy, ih.1 hrest, (pure_eq_ok.1 heq).symm⟩
      · rintro ⟨y, rest, hy, hrest, rfl⟩
        exact ⟨y, hy, bind_eq_ok.2 ⟨rest, ih.2 hrest, rfl⟩⟩

/-- A traversal succeeds if every element does. -/
theorem exists_mapM_eq_ok {f : α → Except ε β} {xs : List α} (h : ∀ x ∈ xs, ∃ y, f x = .ok y) :
    ∃ ys, xs.mapM f = .ok ys := by
  induction xs with
  | nil => exact ⟨[], rfl⟩
  | cons x xs ih =>
      obtain ⟨y, hy⟩ := h x List.mem_cons_self
      obtain ⟨ys, hys⟩ := ih fun z hz => h z (List.mem_cons_of_mem _ hz)
      rw [mapM_eq_ok] at hys
      exact ⟨y :: ys, mapM_eq_ok.2 (List.Forall₂.cons hy hys)⟩

/-- Two traversals whose steps differ by a change of the results differ by it as a whole. -/
theorem mapM_map_result {f f' : α → Except ε β} {g : β → β} {xs : List α}
    (h : ∀ x ∈ xs, f' x = (f x).map g) : xs.mapM f' = (xs.mapM f).map (List.map g) := by
  induction xs with
  | nil => rfl
  | cons x xs ih =>
      rw [List.mapM_cons, List.mapM_cons, h x List.mem_cons_self,
        ih fun y hy => h y (List.mem_cons_of_mem _ hy)]
      cases f x with
      | error e => rfl
      | ok y => cases xs.mapM f <;> rfl

/-- What a traversal returns comes from an element. -/
theorem exists_of_mem_forall₂ {R : α → β → Prop} {xs : List α} {ys : List β}
    (h : List.Forall₂ R xs ys) {y : β} (hy : y ∈ ys) : ∃ x ∈ xs, R x y := by
  induction h with
  | nil => cases hy
  | cons hR _ ih =>
      rcases List.mem_cons.1 hy with rfl | hy
      · exact ⟨_, List.mem_cons_self, hR⟩
      · obtain ⟨x, hx, hxy⟩ := ih hy
        exact ⟨x, List.mem_cons_of_mem _ hx, hxy⟩

/-- What is read off related entries is read off the list. -/
theorem flatMap_of_forall₂ {γ : Type*} {R : α → β → Prop} {xs : List α} {ys : List β} {f : α → List γ}
    {g : β → List γ} (h : List.Forall₂ R xs ys) (hread : ∀ x y, R x y → g y = f x) :
    ys.flatMap g = xs.flatMap f := by
  induction h with
  | nil => rfl
  | cons hxy _ ih => rw [List.flatMap_cons, List.flatMap_cons, hread _ _ hxy, ih]

/-- What an element is related to is among the results. -/
theorem exists_related_of_mem {R : α → β → Prop} {xs : List α} {ys : List β}
    (h : List.Forall₂ R xs ys) {x : α} (hx : x ∈ xs) : ∃ y ∈ ys, R x y := by
  induction h with
  | nil => cases hx
  | cons hR _ ih =>
      rcases List.mem_cons.1 hx with rfl | hx
      · exact ⟨_, List.mem_cons_self, hR⟩
      · obtain ⟨y, hy, hxy⟩ := ih hx
        exact ⟨y, List.mem_cons_of_mem _ hy, hxy⟩

/-- In a traversal that succeeds every element does. -/
theorem exists_of_mem_mapM {f : α → Except ε β} {xs : List α} {ys : List β}
    (h : xs.mapM f = .ok ys) {x : α} (hx : x ∈ xs) : ∃ y, f x = .ok y := by
  rw [mapM_eq_ok] at h
  induction h with
  | nil => cases hx
  | cons hf _ ih =>
      rcases List.mem_cons.1 hx with rfl | hx
      · exact ⟨_, hf⟩
      · exact ih hx

/-- Two traversals of one list, seen through views on which the steps agree. -/
theorem mapM_view_eq {δ : Type v} {f : α → Except ε β} {g : α → Except ε γ} {p : β → δ}
    {q : γ → δ} {xs : List α} {ys : List β} {zs : List γ} (hys : xs.mapM f = .ok ys)
    (hzs : xs.mapM g = .ok zs)
    (h : ∀ x ∈ xs, ∀ y z, f x = .ok y → g x = .ok z → p y = q z) : ys.map p = zs.map q := by
  rw [mapM_eq_ok] at hys hzs
  induction hys generalizing zs with
  | nil =>
      cases hzs
      rfl
  | cons hy _ ih =>
      cases hzs with
      | cons hz hrest =>
          rw [List.map_cons, List.map_cons, h _ List.mem_cons_self _ _ hy hz,
            ih hrest fun x hx => h x (List.mem_cons_of_mem _ hx)]

end ConstellationTopology
