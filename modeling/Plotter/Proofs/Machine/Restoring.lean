import Plotter.Proofs.Machine.Termination
import Plotter.Proofs.Machine.Validity

/-!
# Conditionals after a fault

A call or a replay that ends in a fault drops the conditionals that were opened since it began.  It
does so by the number of them, so what it cannot bring back is a conditional of the caller that one
of its own lines has closed.
-/

namespace Plotter

namespace Task

open Machine

variable {ε : Type} {settings : Settings} {t : Task ε} {base : List Branch}

/-- The outer conditionals survive a truncation to at least their number. -/
theorem suffix_drop {branches : List Branch} (held : base <:+ branches) {depth : Nat}
    (shallow : base.length ≤ depth) : base <:+ branches.drop (branches.length - depth) := by
  refine List.suffix_of_suffix_length_le held (List.drop_suffix _ _) ?_
  have whole := held.length_le
  rw [List.length_drop]
  omega

/-- The outer conditionals that no line closes stay where they are. -/
theorem suffix_outcome (held : base <:+ t.machine.state.conditions)
    (unclosed : ∀ part, t.Within settings part → part.ClosesBranch →
      base.length < part.machine.state.depth) :
    base <:+ (t.outcome settings).machine.state.conditions := by
  induction t using (wellFounded_started settings).induction with
  | _ t ih =>
    cases planned : t.agenda? settings with
    | none =>
      have branching := branching_of_alone planned
      generalize (t.outcome settings).machine.state.conditions = after at branching
      generalize before : t.machine.state.conditions = earlier at branching held
      cases branching with
      | same => exact held
      | opened => exact held.trans (List.suffix_cons ..)
      | closed closes branch =>
        -- The conditional that is closed is not one of the outer ones, since there are fewer.
        have deeper := unclosed t .refl closes
        rcases List.suffix_cons_iff.mp held with whole | rest
        · rw [whole, State.depth, before] at deeper
          exact absurd deeper (Nat.lt_irrefl _)
        · exact rest
    | some agenda =>
      have ran := (ran_invariant (Q := fun o => base <:+ o.machine.state.conditions) planned
        (by simpa only [done, opening_conditions] using held) fun part started before =>
          ih part started before fun inner within => unclosed inner (within.head started)).2
      rw [outcome_of_agenda planned, Agenda.conditions_conclude]
      split
      · exact suffix_drop ran held.length_le
      · exact ran

/-- A call or a replay that ends in a fault leaves no conditional of its own open. -/
theorem depth_of_fault {agenda : Agenda} {f : Fault} (planned : t.agenda? settings = some agenda)
    (faulted : (t.outcome settings).stop = some (.fault f)) :
    (t.outcome settings).machine.state.depth ≤ t.machine.state.depth := by
  rw [outcome_of_agenda planned] at faulted ⊢
  have cut := Agenda.conditions_conclude agenda t.machine.state.depth (t.ran settings agenda)
  rw [faulted] at cut
  refine (congrArg List.length cut).trans_le ?_
  rw [List.length_drop]
  omega

/-- A call that is not made leaves the conditionals alone. -/
theorem conditions_of_uncalled {invocation : Call}
    (read : Statement.classify t.line.text = .ok (.call invocation))
    (alone : t.agenda? settings = none) :
    (t.outcome settings).machine.state.conditions = t.machine.state.conditions := by
  have other : t.line.isOf .conditional = false := (Statement.isOf_classify read .conditional).symm
  simp only [Line.isOf, Bool.or_eq_false_iff, decide_eq_false_iff_not] at other
  have branching := branching_of_alone alone
  generalize (t.outcome settings).machine.state.conditions = after at branching
  generalize t.machine.state.conditions = before at branching
  cases branching with
  | same => rfl
  | opened opens => exact absurd opens other.1
  | closed closes => exact absurd closes.2.1 other.2

/-- Whether the line closes the loop that is open, so that it is replayed. -/
def closesLoop (t : Task ε) : Bool :=
  match t.machine.state.mode with
  | .loop block => t.closes block
  | _ => false

theorem agenda?_of_closesLoop (taken : t.way = .taken) (closing : t.closesLoop = true) :
    ∃ block, t.agenda? settings = some (.replay block) := by
  unfold closesLoop at closing
  split at closing
  next block looping => exact ⟨block, by simp [agenda?, taken, looping, closing]⟩
  · cases closing

end Task

namespace Machine

variable {ε : Type} {settings : Settings} {line : Line} {m : Machine ε}

/-- A line leaves a diagnostic only if it ends in a fault. -/
theorem fault_of_reported
    (reported : m.state.report.diagnostics.length <
      (feedLine settings line m).1.state.report.diagnostics.length) :
    ∃ f, (take settings line m).stop = some (.fault f) ∧
      (feedLine settings line m).1.state.conditions =
        (take settings line m).machine.state.conditions := by
  have unreported := take_report settings line m
  unfold feedLine settled at reported ⊢
  split at reported
  · simp [unreported] at reported
  next f faulted =>
    simp only [faulted]
    exact ⟨f, rfl, rfl⟩
  · simp [unreported] at reported

/-- If a call or the closing line of a loop leaves a diagnostic, no more conditionals are open than
before, the outer ones that no line has closed are still there, and if none of those that were open
has been closed, the same ones are open. -/
theorem conditions_after_diagnostic
    (runs : (∃ invocation, Statement.classify line.text = .ok (.call invocation)) ∨
      Task.closesLoop ⟨.taken, {}, line, m⟩ = true)
    (reported : m.state.report.diagnostics.length <
      (feedLine settings line m).1.state.report.diagnostics.length) :
    let fed : Task ε := ⟨.taken, {}, line, m⟩
    let last := (feedLine settings line m).1
    last.state.depth ≤ m.state.depth ∧
    (∀ base, base <:+ m.state.conditions →
      (∀ part, fed.Within settings part → part.ClosesBranch →
        base.length < part.machine.state.depth) →
      base <:+ last.state.conditions) ∧
    ((∀ part, fed.Within settings part → part.ClosesBranch →
        m.state.depth < part.machine.state.depth) →
      last.state.conditions = m.state.conditions) := by
  intro fed last
  obtain ⟨f, faulted, conditions⟩ := fault_of_reported reported
  have taken : take settings line m = fed.outcome settings := take_eq settings line m
  rw [taken] at faulted conditions
  have shallow : last.state.depth ≤ m.state.depth := by
    rw [State.depth, conditions]
    cases planned : fed.agenda? settings with
    | some agenda => exact Task.depth_of_fault planned faulted
    | none =>
      rcases runs with ⟨invocation, read⟩ | closing
      · rw [Task.conditions_of_uncalled read planned]
        exact Nat.le_refl _
      · obtain ⟨block, replays⟩ := Task.agenda?_of_closesLoop (t := fed) rfl closing
        rw [planned] at replays
        cases replays
  have kept : ∀ base, base <:+ m.state.conditions →
      (∀ part, fed.Within settings part → part.ClosesBranch →
        base.length < part.machine.state.depth) → base <:+ last.state.conditions := by
    intro base held unclosed
    rw [conditions]
    exact Task.suffix_outcome held unclosed
  refine ⟨shallow, kept, fun unclosed => ?_⟩
  exact ((kept _ (List.suffix_refl _) unclosed).eq_of_length_le shallow).symm

/-- A method closes the conditional that it has opened and opens another before it comes to a line
that says nothing.  The conditional around the call is the one that is open afterwards. -/
theorem conditions_after_diagnostic_in_call :
    let m := (feed {} ("x = 1\nmethod m(a)\nif a > 0\nendif\nif a > 0\nbogus\nendmethod\n" ++
      "if x > 0").toList none (create {} Recording.surface)).1
    let line : Line := { text := "m(x)".toList }
    m.state.depth = 1 ∧
      m.state.report.diagnostics.length <
        (feedLine {} line m).1.state.report.diagnostics.length ∧
      (feedLine {} line m).1.state.conditions = m.state.conditions := by
  intro m line
  have reported : m.state.report.diagnostics.length <
      (feedLine {} line m).1.state.report.diagnostics.length := by decide +kernel
  have checked : ((⟨.taken, {}, line, m⟩ : Task Recorded).started {}).all (fun part =>
      (part.started {}).isEmpty &&
        (part.line.keyword? != some (.closing .conditional) ||
          decide (m.state.depth < part.machine.state.depth))) = true := by decide +kernel
  refine ⟨by decide +kernel, reported, ?_⟩
  refine (conditions_after_diagnostic (Or.inl ⟨⟨"m".toList, ["x".toList]⟩, rfl⟩)
    reported).2.2 fun part within closes => ?_
  rcases Relation.ReflTransGen.cases_head within with rfl | ⟨next, started, rest⟩
  · exact absurd closes.2.1 (by decide +kernel)
  · have leaf := List.all_eq_true.mp checked next started
    simp only [Bool.and_eq_true, List.isEmpty_iff, Bool.or_eq_true, bne_iff_ne,
      decide_eq_true_eq] at leaf
    rcases Relation.ReflTransGen.cases_head rest with rfl | ⟨deeper, further, _⟩
    · exact leaf.2.resolve_left fun other => other closes.2.1
    · rw [leaf.1] at further
      cases further

/-- A loop can close a conditional that was open before it, and a fault does not open it again. -/
theorem conditional_lost_to_loop :
    let m := (feed {} "x = 1\nif x > 0\nloop 1\nendif\nbogus".toList none
      (create {} Recording.surface)).1
    let line : Line := { text := "endloop".toList }
    Reachable {} m ∧ line.Tidy ∧ Task.closesLoop ⟨.taken, {}, line, m⟩ = true ∧
      m.state.report.diagnostics.length <
        (feedLine {} line m).1.state.report.diagnostics.length ∧
      (feedLine {} line m).1.state.conditions ≠ m.state.conditions := by
  intro m line
  have reachable : Reachable {} m := .fed (.created Recording.surface) _ none
  exact ⟨reachable, ⟨by decide, by decide⟩, by decide +kernel, by decide +kernel,
    by decide +kernel⟩

end Machine

end Plotter
