/-!
# Computations that may fail

A computation in steps succeeds when every step does, on what the step before gave.
-/

namespace FacetRules

theorem ok_bind {ε α β : Type} (x : α) (f : α -> Except ε β) : (Except.ok x >>= f) = f x :=
  rfl

theorem bind_eq_ok_iff {ε α β : Type} {x : Except ε α} {f : α -> Except ε β} {y : β} :
    (x >>= f) = .ok y <-> exists a, x = .ok a ∧ f a = .ok y := by
  cases x with
  | error e =>
      constructor
      · intro h
        cases h
      · intro hexists
        rcases hexists with ⟨a, ha, _hy⟩
        cases ha
  | ok a =>
      constructor
      · intro h
        exact ⟨a, rfl, h⟩
      · intro hexists
        rcases hexists with ⟨other, hother, hy⟩
        cases hother
        exact hy

theorem bind_eq_error_iff {ε α β : Type} {x : Except ε α} {f : α -> Except ε β} {e : ε} :
    (x >>= f) = .error e <-> x = .error e ∨ exists a, x = .ok a ∧ f a = .error e := by
  cases x with
  | error other =>
      constructor
      · intro h
        cases h
        exact .inl rfl
      · intro hcases
        rcases hcases with h | ⟨a, ha, _hf⟩
        · cases h
          rfl
        · cases ha
  | ok a =>
      constructor
      · intro h
        exact .inr ⟨a, rfl, h⟩
      · intro hcases
        rcases hcases with h | ⟨other, hother, hf⟩
        · cases h
        · cases hother
          exact hf

theorem map_eq_ok_iff {ε α β : Type} {x : Except ε α} {f : α -> β} {y : β} :
    x.map f = .ok y <-> exists a, x = .ok a ∧ f a = y := by
  cases x with
  | error e => simp [Except.map]
  | ok a => simp [Except.map]

theorem toOption_eq_some_iff {ε α : Type} {x : Except ε α} {a : α} :
    x.toOption = some a <-> x = .ok a := by
  cases x with
  | error e => simp [Except.toOption]
  | ok b => simp [Except.toOption]

theorem exists_of_map_eq_ok {ε α β : Type} {x : Except ε α} {f : α -> β} {y : β}
    (h : x.map f = .ok y) : exists a, x = .ok a ∧ f a = y :=
  map_eq_ok_iff.mp h

theorem mapM_eq_ok {ε α β : Type} {f : α -> Except ε β} {g : α -> Option β} {xs : List α}
    (h : forall x, x ∈ xs -> exists y, f x = .ok y ∧ g x = some y) :
    xs.mapM f = .ok (xs.filterMap g) := by
  induction xs with
  | nil =>
      rfl
  | cons x xs ih =>
      rcases h x (by simp) with ⟨y, hf, hg⟩
      have hrest := ih fun z hz => h z (by simp [hz])
      rw [List.mapM_cons, hf, hrest, List.filterMap_cons_some hg]
      rfl

end FacetRules
