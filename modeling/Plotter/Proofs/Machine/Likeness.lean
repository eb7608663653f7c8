import Plotter.Proofs.Machine.Lockstep

/-!
# Machines that differ in their journals

What a line does to the state and to the surface does not depend on the journal, and it depends on
the nesting at one point only: a loop is not opened during a replay.  The room for further calls
matters only when it is used up, and then the line ends in a fault.

`Machine.Alike` relates machines with the same state and the same surface, and `Outcome.Follows`
relates two outcomes of which the second is like the first unless the first ended in a fault that
is excused.  Machines that are alike are machines in step on equal surfaces, so two runs of the
same lines, under different nestings and with more or less room, are compared line by line.
-/

namespace Plotter

variable {ε : Type}

/-- The same state and the same surface. -/
structure Machine.Alike (m₁ m₂ : Machine ε) : Prop where
  state : m₁.state = m₂.state
  surface : m₁.surface = m₂.surface

structure Outcome.Alike (o₁ o₂ : Outcome ε) : Prop where
  machine : o₁.machine.Alike o₂.machine
  stop : o₁.stop = o₂.stop

/-- The second outcome is like the first, unless the first ends in a fault that is excused. -/
def Outcome.Follows (excused : Cause → Prop) (o₁ o₂ : Outcome ε) : Prop :=
  (∃ f, o₁.stop = some (.fault f) ∧ excused f.cause) ∨ o₁.Alike o₂

/-- Two outcomes that are both like a third one are like each other. -/
theorem Outcome.Alike.common {o₁ o₂ o₃ : Outcome ε} (first : o₁.Alike o₃) (second : o₂.Alike o₃) :
    o₁.Alike o₂ where
  machine := ⟨first.machine.state.trans second.machine.state.symm,
    first.machine.surface.trans second.machine.surface.symm⟩
  stop := first.stop.trans second.stop.symm

/-- The two surfaces are the same. -/
def Pairing.same : Pairing ε ε := fun _ s₁ s₂ => s₁ = s₂

/-- Some faults of the first side are excused, and nothing else. -/
def Excuses.faults (excused : Cause → Prop) : Excuses Stop where
  first stop := ∃ f, stop = .fault f ∧ excused f.cause
  second _ := False

theorem Outcome.alike_of_follows {o₁ o₂ : Outcome ε} (follows : o₁.Follows (fun _ => False) o₂) :
    o₁.Alike o₂ := by
  rcases follows with ⟨_, _, ⟨⟩⟩ | alike
  exact alike

namespace Machine

open Outcome

variable {excused : Cause → Prop} {fits : Line → Prop} {P : Machine ε → Prop}
  {m₁ m₂ : Machine ε} {n₁ n₂ : Nesting}

namespace Alike

theorem trans {m₃ : Machine ε} (first : m₁.Alike m₂) (second : m₂.Alike m₃) : m₁.Alike m₃ :=
  ⟨first.state.trans second.state, first.surface.trans second.surface⟩

theorem modifyState (alike : m₁.Alike m₂) (f : State → State) :
    (m₁.modifyState f).Alike (m₂.modifyState f) :=
  ⟨congrArg f alike.state, alike.surface⟩

theorem stopWith (alike : m₁.Alike m₂) (stop : Stop) :
    (m₁.stopWith stop).Follows excused (m₂.stopWith stop) :=
  Or.inr ⟨alike, rfl⟩

end Alike

/-! ### Equal surfaces -/

theorem companions_same (excuses : Excuses Stop) :
    Companions excuses (.same : Pairing ε ε) where
  penned same := by rw [same]; rfl
  colored same color := by rw [same]; rfl
  line same start stop := by rw [same]; exact .both rfl _
  shape same filling shape := by rw [same]; exact .both rfl _
  cleared same := by rw [same]; rfl

theorem Alike.inStep (alike : m₁.Alike m₂) : m₁.InStep .same m₂ :=
  ⟨alike.state, alike.surface⟩

theorem alike_of_inStep (inStep : m₁.InStep .same m₂) : m₁.Alike m₂ :=
  ⟨inStep.state, inStep.surface⟩

theorem follows_iff_inStep {o₁ o₂ : Outcome ε} :
    o₁.Follows excused o₂ ↔ o₁.InStep (.faults excused) .same o₂ := by
  obtain ⟨m₁, stop₁⟩ := o₁
  obtain ⟨m₂, stop₂⟩ := o₂
  constructor
  · rintro (⟨f, ⟨⟩, excuse⟩ | ⟨alike, ⟨⟩⟩)
    · have excused : (Excuses.faults excused).first (.fault f) := ⟨f, rfl, excuse⟩
      exact .first excused _
    · exact .both alike.inStep _
  · intro inStep
    cases inStep with
    | first excuse =>
      obtain ⟨f, rfl, excuse⟩ := excuse
      exact Or.inl ⟨f, rfl, excuse⟩
    | second excuse => cases excuse
    | both inStep => exact Or.inr ⟨alike_of_inStep inStep, rfl⟩

theorem rooms_of_limit {limit : Text} {room₁ room₂ : Nat}
    (rooms : room₁ = room₂ ∨ room₁ ≤ room₂ ∧ ∀ name, excused (.callDepth name limit)) :
    Rooms (.faults excused) limit limit room₁ room₂ := by
  rcases rooms with same | ⟨fewer, excuse⟩
  · exact Or.inl ⟨rfl, same⟩
  · exact Or.inr ⟨fewer, fun name line => ⟨_, rfl, excuse name⟩⟩

/-! ### Lines -/

theorem runAll_follows {run₁ run₂ : Line → Machine ε → Outcome ε} {lines : List Line}
    (kept : ∀ line ∈ lines, ∀ m, P m → P (run₁ line m).machine)
    (each : ∀ line ∈ lines, ∀ m₁ m₂, P m₁ → m₁.Alike m₂ →
      (run₁ line m₁).Follows excused (run₂ line m₂))
    (holds : P m₁) (alike : m₁.Alike m₂) :
    (runAll run₁ lines m₁).Follows excused (runAll run₂ lines m₂) := by
  refine follows_iff_inStep.mpr (runAll_inStep kept ?_ holds alike.inStep)
  intro line member m₁ m₂ holds inStep
  exact follows_iff_inStep.mp (each line member m₁ m₂ holds (alike_of_inStep inStep))

/-- What is executed does the same under nestings that agree and with the same room. -/
theorem execute_follows (guarded : Guarded fits P) {limit : Text} {room : Nat} {line : Line}
    {statement : Statement} (fit : fits line)
    (read : Statement.classify line.text = .ok statement) (agree : Nesting.Agree fits n₁ n₂)
    (holds : P m₁) (alike : m₁.Alike m₂) :
    (execute (inner limit room) limit n₁ line statement m₁).Follows excused
      (execute (inner limit room) limit n₂ line statement m₂) := by
  have companions := companions_same (ε := ε) (.faults excused)
  have rooms : Rooms (.faults excused) limit limit room room := rooms_of_limit (Or.inl rfl)
  have calls := callsInStep_inner companions guarded rooms
  exact follows_iff_inStep.mpr
    (execute_inStep companions guarded calls fit read agree holds alike.inStep)

/-- A line does the same to machines that are alike, unless it runs out of room on the first of
them and that is excused. -/
theorem step_follows (guarded : Guarded fits P) {limit : Text} {room₁ room₂ : Nat}
    (rooms : room₁ = room₂ ∨ room₁ ≤ room₂ ∧ ∀ name, excused (.callDepth name limit))
    {line : Line} (fit : fits line) (agree : Nesting.Agree fits n₁ n₂) (holds : P m₁)
    (alike : m₁.Alike m₂) :
    (step limit room₁ n₁ line m₁).Follows excused (step limit room₂ n₂ line m₂) := by
  have companions := companions_same (ε := ε) (.faults excused)
  exact follows_iff_inStep.mpr
    (step_inStep companions guarded (rooms_of_limit rooms) fit agree holds alike.inStep)

end Machine

end Plotter
