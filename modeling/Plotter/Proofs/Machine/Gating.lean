import Plotter.Proofs.Machine.Termination
import Plotter.Proofs.Machine.Validity

/-!
# The gate

Lines take effect only if every open branch is taken.  It would be enough to look at the innermost
one: a branch is pushed as taken only under an open gate, so inside a branch that is not taken no
other one is.  From the outside in, the open branches are first taken ones and then others.

Branches are pushed by conditions that were evaluated, that could not be, or that were not looked
at; they are popped by closing lines, also of another body, and dropped after faults.  All of this
either adds one branch inside or takes some away from the inside, which is what the moves of a
machine say.  Hence the shape holds in the middle of a line just as well as between two.

## Main result

`gate_is_innermost_branch`: wherever a machine gets to, the branches have this shape, and the gate
is open exactly if there is no branch or the innermost one is taken.
-/

namespace Plotter

namespace State

/-- Inside a branch that is not taken no other one is. -/
def ShutInside (s : State) : Prop :=
  s.conditions.Pairwise fun inner outer => outer.taken = false → inner.taken = false

theorem shutInside_of_suffix {s s' : State} (shut : s.ShutInside)
    (suffix : s'.conditions <:+ s.conditions) : s'.ShutInside :=
  shut.sublist suffix.sublist

/-- A branch is taken only under an open gate, and then all those around it are taken. -/
theorem ShutInside.push {s : State} (shut : s.ShutInside) {taken : Bool} (line : Line)
    (gate : taken = true → s.gateOpen = true) : (s.push taken line).ShutInside := by
  refine List.pairwise_cons.mpr ⟨fun outer member closed => ?_, shut⟩
  cases taken with
  | false => rfl
  | true =>
    -- Under an open gate there is no branch that is not taken.
    have opened : outer.taken = true := List.all_eq_true.mp (gate rfl) outer member
    rw [opened] at closed
    cases closed

theorem ShutInside.gateOpen_iff {s : State} (shut : s.ShutInside) :
    s.gateOpen = true ↔ ∀ branch ∈ s.conditions.head?, branch.taken = true := by
  unfold ShutInside at shut
  unfold gateOpen
  cases open_ : s.conditions with
  | nil => simp
  | cons innermost outer =>
    rw [open_, List.pairwise_cons] at shut
    simp only [List.all_cons, Bool.and_eq_true, List.all_eq_true, List.head?_cons, Option.mem_def,
      Option.some.injEq, forall_eq']
    constructor
    · intro opened
      exact opened.1
    · intro taken
      refine ⟨taken, fun branch member => ?_⟩
      -- A branch outside that is not taken would shut the innermost one.
      by_contra closed
      have shutToo := shut.1 branch member (Bool.eq_false_iff.mpr closed)
      rw [taken] at shutToo
      cases shutToo

/-- To drop branches from the inside never closes an open gate. -/
theorem gateOpen_of_suffix {s s' : State} (suffix : s'.conditions <:+ s.conditions)
    (opened : s.gateOpen = true) : s'.gateOpen = true := by
  unfold gateOpen at opened ⊢
  rw [List.all_eq_true] at opened ⊢
  intro branch member
  exact opened branch (suffix.subset member)

end State

namespace Machine

variable {ε : Type} {settings : Settings} {m m' : Machine ε}

/-! ### Moves -/

theorem Move.shutInside {fits : Line → Prop} (shut : m.state.ShutInside) (move : Move fits m m') :
    m'.state.ShutInside := by
  cases move with
  | push fit opens gate => exact shut.push _ gate
  | pop inner =>
    apply State.shutInside_of_suffix shut
    rw [inner]
    exact List.suffix_cons _ _
  | truncate depth => exact State.shutInside_of_suffix shut (List.drop_suffix _ _)
  | color color =>
    rw [takeColor_state]
    exact shut
  | _ => exact shut

/-- Nothing has to be known of the lines. -/
theorem guarded_shutInside : Guarded (fun _ => True) fun m : Machine ε => m.state.ShutInside where
  kept := Move.shutInside
  expands _ _ _ _ _ _ := trivial
  collected _ _ _ _ := trivial

/-! ### Operations of a host -/

theorem shutInside_of_closed (closed : m.state.conditions = []) : m.state.ShutInside := by
  unfold State.ShutInside
  rw [closed]
  exact List.Pairwise.nil

theorem shutInside_feedLine (shut : m.state.ShutInside) (settings : Settings) (line : Line) :
    (feedLine settings line m).1.state.ShutInside := by
  have taken : (take settings line m).machine.state.ShutInside :=
    guarded_shutInside.step _ _ trivial {} shut
  unfold feedLine settled
  split <;> exact taken

theorem shutInside_finish (m : Machine ε) : m.finish.state.ShutInside := by
  apply shutInside_of_closed
  rw [finish_state]

theorem shutInside_reset (settings : Settings) (m : Machine ε) :
    (reset settings m).state.ShutInside := by
  apply shutInside_of_closed
  rw [reset, takeColor_state]

theorem Reachable.shutInside (reachable : Reachable settings m) : m.state.ShutInside := by
  induction reachable with
  | created surface => exact shutInside_reset settings _
  | line _ _ ih => exact shutInside_feedLine ih settings _
  | fed _ text number ih =>
    exact feedLines_keeps (P := fun m => m.state.ShutInside)
      (fun line _ _ shut => shutInside_feedLine shut settings line) ih
  | ran _ source filename _ =>
    refine runLines_keeps (P := fun m => m.state.ShutInside) ?_ (fun _ _ shut => shut)
      (fun m _ => shutInside_finish m) (fun _ _ => shutInside_of_closed rfl)
      (shutInside_reset settings _)
    intro line _ _ shut
    exact shutInside_feedLine shut settings line
  | finished => exact shutInside_finish _
  | reset => exact shutInside_reset settings _
  | set _ property v ih =>
    unfold setProperty
    split <;> exact ih

end Machine

namespace Task

open Machine

variable {ε : Type} {settings : Settings} {fits : Line → Prop} {P : Machine ε → Prop}
  {t part : Task ε}

/-- What guards the lines of a machine holds wherever one of the further lines is run. -/
theorem guarded_machine (guarded : Guarded fits P) (fit : fits t.line) (holds : P t.machine)
    (started : part ∈ t.started settings) : P part.machine := by
  obtain ⟨agenda, planned, _⟩ := mem_started_iff.mp started
  have opening := guarded_opening (t := t) guarded holds agenda
  refine (ran_invariant (Q := fun o => P o.machine) planned opening fun other member before => ?_).1
    part started
  exact guarded_outcome guarded (guarded_line guarded fit holds member) before

/-- In the whole course of a line the lines that are run fit. -/
theorem fits_within (guarded : Guarded fits P) (fit : fits t.line) (holds : P t.machine)
    (within : t.Within settings part) : fits part.line ∧ P part.machine := by
  refine within.invariant (P := fun t => fits t.line ∧ P t.machine) ?_ ⟨fit, holds⟩
  intro t part before started
  exact ⟨guarded_line guarded before.1 before.2 started,
    guarded_machine guarded before.1 before.2 started⟩

/-- It holds in the whole course of a line, before and after each line that is run. -/
theorem guarded_within (guarded : Guarded fits P) (fit : fits t.line) (holds : P t.machine)
    (within : t.Within settings part) : P part.machine ∧ P (part.outcome settings).machine := by
  obtain ⟨fitting, before⟩ := fits_within guarded fit holds within
  exact ⟨before, guarded_outcome guarded fitting before⟩

end Task

namespace Machine

variable {ε : Type} {settings : Settings} {m : Machine ε}

/-- The machines that are passed through: between two operations of a host, and before and after
every line that is run in the course of a fed one, by a call or by a replay. -/
inductive Visited (settings : Settings) : Machine ε → Prop
  | between {m : Machine ε} (reachable : Reachable settings m) : Visited settings m
  | before {m : Machine ε} {line : Line} {part : Task ε} (reachable : Reachable settings m)
      (within : Task.Within settings { line := line, machine := m } part) :
      Visited settings part.machine
  | after {m : Machine ε} {line : Line} {part : Task ε} (reachable : Reachable settings m)
      (within : Task.Within settings { line := line, machine := m } part) :
      Visited settings (part.outcome settings).machine

theorem Visited.shutInside (visited : Visited settings m) : m.state.ShutInside := by
  cases visited with
  | between reachable => exact reachable.shutInside
  | before reachable within =>
    exact (Task.guarded_within guarded_shutInside trivial reachable.shutInside within).1
  | after reachable within =>
    exact (Task.guarded_within guarded_shutInside trivial reachable.shutInside within).2

/-- Wherever a machine gets to, no branch inside of one that is not taken is taken.  So the gate is
open exactly if there is no branch or the innermost one is taken, and it stays open when branches
are dropped from the inside. -/
theorem gate_is_innermost_branch (visited : Visited settings m) :
    (m.state.conditions.Pairwise fun inner outer =>
      outer.taken = false → inner.taken = false) ∧
    (m.state.gateOpen = true ↔ ∀ branch ∈ m.state.conditions.head?, branch.taken = true) ∧
    ∀ count, m.state.gateOpen = true →
      State.gateOpen { m.state with conditions := m.state.conditions.drop count } = true := by
  refine ⟨visited.shutInside, visited.shutInside.gateOpen_iff, fun count opened => ?_⟩
  exact State.gateOpen_of_suffix (List.drop_suffix count _) opened

/-- A condition that does not hold, opened by a call, inside one that holds, in the middle of a
replay. -/
theorem gate_is_innermost_branch_in_replayed_call :
    ∃ m : Machine Recorded, Visited {} m ∧ m.state.conditions.map Branch.taken = [false, true] ∧
      m.state.gateOpen = false := by
  let source : Text :=
    "method m(n)\nif x < n\nmoveto 1 1\nendif\nendmethod\nx = 1\nif x > 0\nloop 2\nm(0)".toList
  let m := (feed {} source none (create {} Recording.surface)).1
  let closing : Task Recorded := { line := ⟨"endloop".toList, 10, none⟩, machine := m }
  have reachable : Reachable {} m := .fed (.created Recording.surface) source none
  have found : (closing.started {}).any (fun call => (call.started {}).any fun part =>
      part.machine.state.conditions.map Branch.taken = [false, true]) = true := by
    decide +kernel
  obtain ⟨call, called, inner⟩ := List.any_eq_true.mp found
  obtain ⟨part, started, shape⟩ := List.any_eq_true.mp inner
  have shape := of_decide_eq_true shape
  have visited : Visited {} part.machine :=
    .before reachable (.tail (.single called) started)
  refine ⟨part.machine, visited, shape, Bool.eq_false_iff.mpr ?_⟩
  rw [Ne, (gate_is_innermost_branch visited).2.1]
  obtain ⟨innermost, outer, open_, shut, _⟩ := List.map_eq_cons_iff.mp shape
  simp [open_, shut]

end Machine

end Plotter
