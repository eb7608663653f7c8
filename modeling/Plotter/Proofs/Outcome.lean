import Mathlib.Data.List.Forall2

/-!
# Outcomes

A computation that may fail is taken apart by how it ends.
-/

namespace Plotter

variable {α β δ δ' : Type} {first : Except δ α} {next : α → Except δ β} {f : α → β} {g : δ → δ'}
  {a : α} {b : β} {e : δ}

/-- A computation in two parts fails in the first or in the second. -/
theorem bind_eq_error (failed : (first >>= next) = .error e) :
    first = .error e ∨ ∃ a, first = .ok a ∧ next a = .error e := by
  cases first with
  | error found =>
    cases failed
    exact Or.inl rfl
  | ok a => exact Or.inr ⟨a, rfl, failed⟩

theorem bind_eq_ok (done : (first >>= next) = .ok b) : ∃ a, first = .ok a ∧ next a = .ok b := by
  cases first with
  | error found => cases done
  | ok a => exact ⟨a, rfl, done⟩

theorem bind_eq_ok_iff : (first >>= next) = .ok b ↔ ∃ a, first = .ok a ∧ next a = .ok b := by
  constructor
  · exact bind_eq_ok
  · rintro ⟨a, rfl, done⟩
    exact done

theorem pure_eq_ok_iff {a' : α} : (pure a : Except δ α) = .ok a' ↔ a = a' := by
  simp [pure, Except.pure]

/-- A list of computations gives the list of what each of them gives. -/
theorem mapM_eq_ok_iff {as : List α} {bs : List β} :
    as.mapM next = .ok bs ↔ List.Forall₂ (fun a b => next a = .ok b) as bs := by
  induction as generalizing bs with
  | nil =>
    constructor
    · rintro ⟨⟩
      exact .nil
    · rintro ⟨⟩
      rfl
  | cons a rest ih =>
    simp only [List.mapM_cons, bind_eq_ok_iff, ih]
    constructor
    · rintro ⟨b, here, later, there, ⟨⟩⟩
      exact .cons here there
    · rintro (_ | ⟨here, there⟩)
      exact ⟨_, here, _, there, rfl⟩

theorem map_eq_error (failed : first.map f = .error e) : first = .error e := by
  cases first with
  | error found =>
    cases failed
    rfl
  | ok a => cases failed

theorem map_eq_ok (done : first.map f = .ok b) : ∃ a, first = .ok a ∧ f a = b := by
  cases first with
  | error found => cases done
  | ok a => exact ⟨a, rfl, Except.ok.inj done⟩

theorem mapError_eq_ok (done : first.mapError g = .ok a) : first = .ok a := by
  cases first with
  | error found => cases done
  | ok found =>
    cases done
    rfl

end Plotter
