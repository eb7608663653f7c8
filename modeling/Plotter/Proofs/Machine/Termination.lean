import Plotter.Proofs.Machine.Footprint

/-!
# Every line comes to an end

A line can run further lines, those of a method that it calls or those of a loop that it closes,
and these can run lines in turn.  The tasks of `Task.started` are the edges of that recursion.  A
call goes one level down, of which there are only so many, and a replayed line closes no loop, so
the edges are well-founded, whatever methods the machine holds.  There is then exactly one function
that solves the equation of the recursion, and it is what the machine does.

While a replay is under way no loop is ever open, which is why a second one never starts inside it.
-/

namespace Plotter

namespace Task

open Machine

variable {ε : Type} {settings : Settings} {t part : Task ε}

/-- No loop is opened while a replay is under way. -/
theorem unlooped_outcome (replaying : 0 < t.nesting.replays)
    (unlooped : ∀ block, t.machine.state.mode ≠ .loop block) :
    ∀ block, (t.outcome settings).machine.state.mode ≠ .loop block := by
  induction t using (wellFounded_started settings).induction with
  | _ t ih =>
    cases planned : t.agenda? settings with
    | none =>
      cases way : t.way with
      | replayed => simpa only [mode_of_alone way planned] using unlooped
      | taken =>
        cases turned_of_alone way planned with
        | read _ _ unopened => exact unopened replaying unlooped
        | refused _ _ same => simpa only [same] using unlooped
        | failed _ same => simpa only [same] using unlooped
    | some agenda =>
      rcases agenda?_cases planned with ⟨lines, rfl, _, _⟩ | ⟨block, rfl, _, looping, _⟩
      · -- The lines of a call run under the replay of the call itself.
        have ran := (ran_invariant (Q := fun o => ∀ block, o.machine.state.mode ≠ .loop block)
          planned (by simpa [Agenda.opening, done] using unlooped) fun part started before => by
            refine ih part started ?_ before
            rw [(part_of_started planned started).2]
            exact replaying).2
        rw [outcome_of_agenda planned, Agenda.mode_conclude_call]
        split
        · exact ran
        · intro block
          cases (t.ran settings (.call lines)).machine.state.mode <;> simp [Mode.withoutLoop]
      · -- To replay a loop, it would have to be open.
        exact absurd looping (unlooped block)

/-- How deep the nesting of a task is. -/
structure Bounded (settings : Settings) (t : Task ε) : Prop where
  calls : t.nesting.calls ≤ settings.maxCallDepth.toNat
  replays : t.nesting.replays ≤ 1
  unlooped : 0 < t.nesting.replays → ∀ block, t.machine.state.mode ≠ .loop block

/-- A loop is closed only outside of every replay. -/
theorem Bounded.replays_of_loop (bounded : t.Bounded settings) {block : Block Nat}
    (looping : t.machine.state.mode = .loop block) : t.nesting.replays = 0 := by
  by_contra replaying
  exact bounded.unlooped (Nat.pos_of_ne_zero replaying) block looping

/-- Where a replay is under way, none of the further lines finds an open loop. -/
theorem unlooped_of_started {agenda : Agenda} (planned : t.agenda? settings = some agenda)
    (unlooped : ∀ block, (agenda.opening t.nesting t.noted).state.mode ≠ .loop block)
    (started : part ∈ t.started settings) (replaying : 0 < part.nesting.replays) :
    ∀ block, part.machine.state.mode ≠ .loop block := by
  have nesting : ∀ other ∈ t.started settings, other.nesting = part.nesting := by
    intro other member
    rw [(part_of_started planned member).2, (part_of_started planned started).2]
    rfl
  have before := (ran_invariant (Q := fun o => ∀ block, o.machine.state.mode ≠ .loop block) planned
    unlooped fun other member => unlooped_outcome (by rwa [nesting other member])).1
  exact before part started

theorem Bounded.of_started (bounded : t.Bounded settings) (started : part ∈ t.started settings) :
    part.Bounded settings := by
  obtain ⟨agenda, planned, _⟩ := mem_started_iff.mp started
  have isPart := (part_of_started planned started).2
  rcases agenda?_cases planned with ⟨lines, rfl, called, _⟩ | ⟨block, rfl, _, looping, _⟩
  · obtain ⟨_, _, _, _, _, _, room, _⟩ := called?_eq_some called
    have nesting : part.nesting = { t.nesting with calls := t.nesting.calls + 1 } := by
      rw [isPart]
      rfl
    refine ⟨?_, ?_, fun replaying => ?_⟩
    · rw [nesting]
      exact room
    · rw [nesting]
      exact bounded.replays
    · refine unlooped_of_started planned ?_ started replaying
      simpa [Agenda.opening] using bounded.unlooped (by simpa [nesting] using replaying)
  · have nesting : part.nesting = { t.nesting with replays := t.nesting.replays + 1 } := by
      rw [isPart]
      rfl
    refine ⟨?_, ?_, fun replaying => ?_⟩
    · rw [nesting]
      exact bounded.calls
    · rw [nesting, bounded.replays_of_loop looping]
    · refine unlooped_of_started planned (fun block looping => ?_) started replaying
      cases looping

theorem Bounded.within (bounded : t.Bounded settings) (within : t.Within settings part) :
    part.Bounded settings :=
  within.invariant Bounded.of_started bounded

end Task

namespace Machine

variable {ε : Type}

/-- A line that is fed is a task outside of every call and every replay. -/
theorem feedLine_eq_settled (settings : Settings) (line : Line) (m : Machine ε) :
    feedLine settings line m =
      settled (Task.outcome settings { line := line, machine := m }) := by
  rw [feedLine, take_eq]
  rfl

/-- A line that is fed comes to an end.  The recursion behind it is well-founded, and the machine
is its only solution; finitely many tasks are run in the course of the line, none of them deeper
than the greatest number of nested calls, and no loop is replayed inside of another replay. -/
theorem feedLine_terminates (settings : Settings) (line : Line) (m : Machine ε) :
    let fed : Task ε := { line := line, machine := m }
    feedLine settings line m = settled (fed.outcome settings) ∧
    (∀ run : Task ε → Outcome ε,
      (∀ t, run t = t.unfold settings run) ↔ run = Task.outcome settings) ∧
    (WellFounded fun part t : Task ε => part ∈ t.started settings) ∧
    {part | fed.Within settings part}.Finite ∧
    ∀ part, fed.Within settings part →
      part.nesting.calls ≤ settings.maxCallDepth.toNat ∧ part.nesting.replays ≤ 1 ∧
      ∀ block, part.agenda? settings = some (.replay block) → part.nesting.replays = 0 := by
  intro fed
  have bounded : fed.Bounded settings := ⟨Nat.zero_le _, Nat.zero_le _, nofun⟩
  refine ⟨feedLine_eq_settled settings line m, fun run => ⟨fun solves => ?_, ?_⟩,
    Task.wellFounded_started settings, fed.finite_within, fun part within => ?_⟩
  · exact funext (Task.eq_outcome_of_unfold solves)
  · rintro rfl
    exact Task.outcome_eq_unfold
  · have inner := bounded.within within
    refine ⟨inner.calls, inner.replays, fun block planned => ?_⟩
    rcases Task.agenda?_cases planned with ⟨_, ⟨⟩, _, _⟩ | ⟨_, ⟨⟩, _, looping, _⟩
    exact inner.replays_of_loop looping

end Machine

end Plotter
