import Plotter.CommandLine.Command

/-!
# What a dialogue comes to

A command prints as it goes, and what it prints never changes what it does.  Of the console only the
files matter to the rest of a command.  So a piece of a command is described by the files that it
finds, and by what holds of its value, or of the code with which it ends the command, and of the
files that it leaves.  A command that breaks off is not described.

`Dialogue.Leads` is this description, and there is one rule for each way in which dialogues are put
together.  A piece that goes through for certain and leaves the files alone is described more
shortly by `Dialogue.Gives`: it only hands over its value.
-/

namespace Plotter.CommandLine.Dialogue

variable {α β : Type} {d : Dialogue α} {next : α → Dialogue β} {files : Files}

/-- Started on some files, the dialogue returns or exits as described, unless it breaks off. -/
structure Leads (d : Dialogue α) (files : Files) (returns : α → Files → Prop)
    (exits : Nat → Files → Prop) : Prop where
  outcome : ∀ c : Console, c.files = files →
    match d.run.run c with
    | (.ok a, last) => returns a last.files
    | (.error (.exit code), last) => exits code last.files
    | (.error (.broken _), _) => True

/-- Started on some files, the dialogue gives a value and leaves the files as they are. -/
def Gives (d : Dialogue α) (files : Files) (a : α) : Prop :=
  ∀ c : Console, c.files = files → ∃ last, d.run.run c = (.ok a, last) ∧ last.files = files

theorem run_bind (d : Dialogue α) (next : α → Dialogue β) (c : Console) :
    (d >>= next).run.run c =
      match d.run.run c with
      | (.ok a, last) => (next a).run.run last
      | (.error ending, last) => (.error ending, last) := by
  simp only [ExceptT.run_bind, StateT.run_bind]
  rcases d.run.run c with ⟨ending | a, last⟩ <;> rfl

/-! ### Sequences -/

section Sequences

variable {returns : α → Files → Prop} {later : β → Files → Prop} {exits : Nat → Files → Prop}

theorem Leads.bind (first : d.Leads files returns exits)
    (second : ∀ a left, returns a left → (next a).Leads left later exits) :
    (d >>= next).Leads files later exits := by
  refine ⟨fun c found => ?_⟩
  have ran := first.outcome c found
  rw [run_bind]
  rcases here : d.run.run c with ⟨(code | t) | a, last⟩
  · rw [here] at ran
    exact ran
  · trivial
  · rw [here] at ran
    exact (second a last.files ran).outcome last rfl

theorem Leads.imp {weaker : α → Files → Prop} (leads : d.Leads files returns exits)
    (implies : ∀ a left, returns a left → weaker a left) : d.Leads files weaker exits := by
  refine ⟨fun c found => ?_⟩
  have ran := leads.outcome c found
  rcases here : d.run.run c with ⟨(code | t) | a, last⟩
  · rw [here] at ran
    exact ran
  · trivial
  · rw [here] at ran
    exact implies a last.files ran

theorem Gives.bind {a : α} (first : d.Gives files a) (second : (next a).Leads files later exits) :
    (d >>= next).Leads files later exits := by
  refine ⟨fun c found => ?_⟩
  obtain ⟨last, ran, left⟩ := first c found
  rw [run_bind, ran]
  exact second.outcome last left

theorem Gives.leads {a : α} (gives : d.Gives files a) (holds : returns a files) :
    d.Leads files returns exits := by
  refine ⟨fun c found => ?_⟩
  obtain ⟨last, ran, rfl⟩ := gives c found
  rw [ran]
  exact holds

theorem Gives.andThen {a : α} {b : β} (first : d.Gives files a) (second : (next a).Gives files b) :
    (d >>= next).Gives files b := by
  intro c found
  obtain ⟨last, ran, left⟩ := first c found
  rw [run_bind, ran]
  exact second last left

theorem gives_pure (a : α) : (pure a : Dialogue α).Gives files a := fun c found => ⟨c, rfl, found⟩

theorem leads_pure {a : α} (holds : returns a files) :
    (pure a : Dialogue α).Leads files returns exits := by
  refine ⟨?_⟩
  rintro c rfl
  exact holds

theorem leads_exit {code : Nat} (holds : exits code files) :
    (exit code : Dialogue α).Leads files returns exits := by
  refine ⟨?_⟩
  rintro c rfl
  exact holds

/-- Behind the end nothing is done. -/
theorem leads_exit_bind {code : Nat} (holds : exits code files) :
    ((exit code : Dialogue α) >>= next).Leads files later exits := by
  have first : (exit code : Dialogue α).Leads files (fun _ _ => False) exits := leads_exit holds
  exact first.bind fun _ _ impossible => impossible.elim

theorem leads_breakOff (t : Trouble) : (breakOff t : Dialogue α).Leads files returns exits :=
  ⟨fun _ _ => trivial⟩

theorem leads_orBreak {value : Except Failure α} (holds : ∀ a, value = .ok a → returns a files) :
    (orBreak value).Leads files returns exits := by
  cases value with
  | ok a => exact leads_pure (holds a rfl)
  | error f => exact leads_breakOff _

/-- A value that may not come about, and what is done with it. -/
theorem leads_orBreak_bind {value : Except Failure α}
    (goesOn : ∀ a, value = .ok a → (next a).Leads files later exits) :
    (orBreak value >>= next).Leads files later exits := by
  have first : (orBreak value).Leads files (fun a left => value = .ok a ∧ left = files) exits :=
    leads_orBreak fun a here => ⟨here, rfl⟩
  refine first.bind ?_
  rintro a _ ⟨here, rfl⟩
  exact goesOn a here

/-- A whole command that has not broken off. -/
theorem Leads.transcript {command : Dialogue Nat} {good : Nat → Files → Prop} {start : Console}
    (leads : command.Leads start.files good good)
    (unbroken : ∀ t, (command.transcript start).ending ≠ .broken t) :
    ∃ code, (command.transcript start).ending = .exit code ∧
      good code (command.transcript start).console.files := by
  have ran := leads.outcome start rfl
  unfold Dialogue.transcript at unbroken ⊢
  rcases here : command.run.run start with ⟨(code | t) | code, last⟩
  · rw [here] at ran
    exact ⟨code, rfl, ran⟩
  · rw [here] at unbroken
    exact absurd rfl (unbroken t)
  · rw [here] at ran
    exact ⟨code, rfl, ran⟩

end Sequences

/-! ### Printing -/

theorem gives_print (t : Text) : (print t).Gives files () :=
  fun c found => ⟨{ c with out := c.out ++ t }, rfl, found⟩

theorem gives_warn (t : Text) : (warn t).Gives files () :=
  fun c found => ⟨{ c with err := c.err ++ t }, rfl, found⟩

theorem gives_printLine (t : Text) : (printLine t).Gives files () := gives_print _

theorem gives_warnLine (t : Text) : (warnLine t).Gives files () := gives_warn _

theorem gives_log (threshold : Nat) (events : List Event) : (log threshold events).Gives files () :=
  gives_warn _

theorem gives_warnAbout (diagnostics : List Diagnostic) :
    (warnAbout diagnostics).Gives files () :=
  gives_warn _

theorem gives_files : Dialogue.files.Gives files files := by
  rintro c rfl
  exact ⟨c, rfl, rfl⟩

/-- To show a drawing is to change the files as its surface says. -/
theorem leads_display {writer : Drafting.Writer} {threshold : Nat} {stage : Stage}
    {exits : Nat → Files → Prop} :
    (display writer threshold stage).Leads files
      (fun _ left => ∃ value, (stage.display writer files).value = .ok value ∧
        left = (stage.display writer files).files) exits := by
  refine gives_files.bind ?_
  have placed : (modify fun c : Console =>
      { c with
        files := (stage.display writer files).files
        calls := c.calls ++ (stage.display writer files).calls } : Dialogue Unit).Leads files
      (fun _ left => left = (stage.display writer files).files) exits := ⟨fun _ _ => rfl⟩
  refine placed.bind ?_
  rintro _ _ rfl
  refine (gives_log threshold _).bind ?_
  exact leads_orBreak_bind fun value written => leads_pure ⟨value, written, rfl⟩

end Plotter.CommandLine.Dialogue
