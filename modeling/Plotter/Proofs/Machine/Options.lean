import Plotter.Proofs.Machine.Commands

/-!
# Options

A pen takes the name of a colour, and a fill mode is `on` or `off`.  A variable may have such a name
as well, and the variables of a line are replaced before anybody asks what its words stand for.  So
an option has its own meaning only as long as no variable has its name.  After that it is a number,
and no number is a colour or a fill mode.

Of all other variables an option is independent, as every drawing command is of the variables that
it does not name.

## Main result

`options_depend_on_own_name`: what an option does in two states with different variables.

## Proof strategy

To put in other variables is a change that can be made before a drawing command as well as after it
(`recasts_withStore`), as long as it leaves the words of the line what they are.  So the two machines
go through the same command (`feedLine_withStore`).
-/

namespace Plotter

/-- What the words of a line become depends on the variables that they name. -/
theorem Substitution.words_congr {store store' : Dictionary Int} {ws : List Text}
    (agree : ∀ w ∈ ws, store'.get? w = store.get? w) : words store' ws = words store ws := by
  induction ws with
  | nil => rfl
  | cons w rest ih =>
    obtain ⟨here, later⟩ := List.forall_mem_cons.mp agree
    rw [words, words, here, ih later]

namespace Machine

variable {ε : Type} {settings : Settings} {m m' : Machine ε} {line : Line} {primitive : Primitive}
  {arguments : List Text}

/-! ### Other variables -/

/-- The machine with other variables. -/
def withStore (m : Machine ε) (store : Dictionary Int) : Machine ε :=
  m.modifyState fun s => { s with store := store }

theorem recasts_withStore (store : Dictionary Int) (earlier : Array JournalEntry) :
    Recasts (fun m : Machine ε => (m.withStore store).after earlier) id where
  pen _ := rfl
  surface _ := rfl
  log m nesting e _ := by simp [after, log, withStore, modifyState]
  modifyPen _ _ := rfl
  onSurface _ _ := rfl
  failure _ := rfl

/-- Two machines with different variables that have gone through the same. -/
structure Parted (store : Dictionary Int) (m m' : Machine ε) (fed fed' : Machine ε × Option Failure) :
    Prop where
  machine : fed'.1.Alike (fed.1.withStore store)
  failure : fed.2 = fed'.2
  warnings : ∃ new, fed.1.warnings = m.warnings ++ new ∧ fed'.1.warnings = m'.warnings ++ new

/-- The host adds no warning of its own. -/
theorem settled_parted {store : Dictionary Int} {earlier earlier' : Array JournalEntry}
    (o : Outcome ε)
    (before : (earlier.toList.filter fun entry => entry.event.level = .warning) = m.warnings)
    (before' : (earlier'.toList.filter fun entry => entry.event.level = .warning) = m'.warnings) :
    Parted store m m' (settled (o.recast (after earlier) id))
      (settled (o.recast (fun m => (m.withStore store).after earlier') id)) := by
  obtain ⟨reached, stop⟩ := o
  have warned : (reached.after earlier).warnings = m.warnings ++ reached.warnings := by
    rw [warnings_after, before]
  have warned' : ((reached.withStore store).after earlier').warnings =
      m'.warnings ++ reached.warnings := by
    rw [warnings_after, before']
    rfl
  rcases stop with _ | fault | reason
  · exact ⟨⟨rfl, rfl⟩, rfl, _, warned, warned'⟩
  · exact ⟨⟨rfl, rfl⟩, rfl, _, (warnings_reportFault ..).trans warned,
      (warnings_reportFault ..).trans warned'⟩
  · exact ⟨⟨rfl, rfl⟩, rfl, _, warned, warned'⟩

/-- A drawing command does not look at variables that it does not name. -/
theorem feedLine_withStore (settings : Settings) (idle : m.state.mode = .idle)
    (gate : m.state.gateOpen = true) (apart : m'.Alike (m.withStore m'.state.store))
    (read : Statement.classify line.text = .ok (.command primitive arguments))
    (words : Substitution.words m'.state.store line.words =
      Substitution.words m.state.store line.words) :
    Parted m'.state.store m m' (feedLine settings line m) (feedLine settings line m') := by
  have idle' : m'.state.mode = .idle := by
    rw [apart.state]
    exact idle
  have gate' : m'.state.gateOpen = true := by
    rw [apart.state]
    exact gate
  -- Both machines start as one that has recorded nothing, the second with its own variables.
  let blank : Machine ε := { m with journal := #[] }
  have second : ({ m' with journal := #[] } : Machine ε) = blank.withStore m'.state.store :=
    congrArg₂ (fun state surface => Machine.mk state surface #[]) apart.state apart.surface
  have unwarned {m : Machine ε} :
      ((m.journal.push ⟨.line .idle line.text, {}⟩).toList.filter fun entry =>
        entry.event.level = .warning) = m.warnings := by
    simp [warnings, Event.level]
  rw [feedLine, feedLine, take_command settings idle gate read,
    take_command settings idle' gate' read, log_eq_after, log_eq_after, second]
  have sameFault (cause : Cause) : id (Stop.fault ⟨cause, line⟩) = .fault ⟨cause, line⟩ := rfl
  have first := (recasts_after (ε := ε) (m.journal.push ⟨.line .idle line.text, {}⟩) (g := id)
    fun _ => rfl).runCommand blank {} rfl sameFault
  have other := (recasts_withStore m'.state.store
    (m'.journal.push ⟨.line .idle line.text, {}⟩)).runCommand blank {} words sameFault
  rw [← first, ← other]
  exact settled_parted _ unwarned unwarned

/-! ### Options -/

section Options

variable {option : Text} (reachable : Reachable settings m) (idle : m.state.mode = .idle)
  (gate : m.state.gateOpen = true)
  (read : Statement.classify line.text = .ok (.command primitive [option]))
  (optional : primitive = .pen ∨ primitive = .fill)

include reachable idle gate read optional

/-- Nothing is wrong with an option before the command looks at it. -/
theorem feedLine_option {given : Text}
    (replaced : Substitution.words m.state.store [option] = .ok [given]) :
    feedLine settings line m = settled
      (((m.log {} (.line m.state.mode.activity line.text)).log {}
        (.command primitive [given])).perform {} primitive [given]) := by
  have checked : primitive.check primitive.word [given] = none := by
    rcases optional with rfl | rfl <;> rfl
  rw [feedLine_eq_settled,
    Task.outcome_of_words (Or.inr idle) gate reachable.valid.names read replaced checked]
  rfl

/-- An option that is the name of a variable leaves everything as it is. -/
theorem feedLine_of_bound {value : Int} (bound : m.state.store.get? option = some value) :
    (feedLine settings line m).1.state.pen = m.state.pen ∧
      (feedLine settings line m).1.surface = m.surface := by
  have words := Substitution.words_cons_of_bound bound []
  by_cases short : Text.Writable value
  · rw [if_pos short] at words
    rw [feedLine_option reachable idle gate read optional words]
    rcases optional with rfl | rfl
    · simp only [perform, setPen, PenColor.ofWord?_ofInt]
      exact ⟨rfl, rfl⟩
    · simp only [perform, setFill, Command.fillMode?_ofInt]
      exact ⟨rfl, rfl⟩
  · rw [if_neg short] at words
    rw [feedLine_eq_settled,
      Task.outcome_of_unwritten (Or.inr idle) gate reachable.valid.names read words]
    exact ⟨rfl, rfl⟩

/-- An option that names no variable is looked up as it is written. -/
theorem feedLine_of_unset (unset : m.state.store.get? option = none) :
    feedLine settings line m = settled
      (((m.log {} (.line m.state.mode.activity line.text)).log {}
        (.command primitive [option])).perform {} primitive [option]) :=
  feedLine_option reachable idle gate read optional (Substitution.words_cons_of_unset unset [])

omit optional

/-- A colour that names no variable is given to the pen and to the surface. -/
theorem feedLine_color {color : PenColor} (pen : primitive = .pen)
    (unset : m.state.store.get? option = none)
    (spelled : PenColor.ofWord? (Text.lower option) = some color) :
    let fed := feedLine settings line m
    fed.1.state = { m.state with pen := { m.state.pen with color := color.word } } ∧
      fed.1.surface = m.surface.colored color ∧ fed.1.warnings = m.warnings ∧ fed.2 = none := by
  intro fed
  have ran := feedLine_of_unset reachable idle gate read (Or.inl pen) unset
  subst pen
  simp only [perform, setPen, spelled] at ran
  rw [show fed = _ from ran]
  refine ⟨takeColor_state .., takeColor_surface .., ?_, rfl⟩
  simp [settled, Machine.done, warnings, modifyPen, log, Event.level]

/-- A fill mode that names no variable is given to the pen. -/
theorem feedLine_mode {mode : Bool} (fill : primitive = .fill)
    (unset : m.state.store.get? option = none)
    (spelled : Command.fillMode? (Text.lower option) = some mode) :
    let fed := feedLine settings line m
    fed.1.state = { m.state with pen := { m.state.pen with fill := mode } } ∧
      fed.1.surface = m.surface ∧ fed.1.warnings = m.warnings ∧ fed.2 = none := by
  intro fed
  have ran := feedLine_of_unset reachable idle gate read (Or.inr fill) unset
  subst fill
  simp only [perform, setFill, spelled] at ran
  rw [show fed = _ from ran]
  refine ⟨rfl, rfl, ?_, rfl⟩
  simp [settled, Machine.done, warnings, modifyPen, log, Event.level]

end Options

/-- In two states that differ in their variables only, the same option does the same to the pen and
to the surface, and warns of the same, if it names no variable in either state or one with the same
value.  An option that names no variable has its own meaning: a colour is given to the pen and to
the surface, a fill mode to the pen.  One that names a variable has none. -/
theorem options_depend_on_own_name {word option : Text} (reachable : Reachable settings m)
    (reachable' : Reachable settings m') (idle : m.state.mode = .idle)
    (gate : m.state.gateOpen = true) (apart : m'.Alike (m.withStore m'.state.store))
    (tidy : line.Tidy) (words : line.words = [word, option])
    (found : Keyword.ofWord? word = some (.command primitive))
    (optional : primitive = .pen ∨ primitive = .fill) :
    let fed := feedLine settings line m
    let fed' := feedLine settings line m'
    (m'.state.store.get? option = m.state.store.get? option →
      fed'.1.Alike (fed.1.withStore m'.state.store) ∧ fed.2 = fed'.2 ∧
        ∃ new, fed.1.warnings = m.warnings ++ new ∧ fed'.1.warnings = m'.warnings ++ new) ∧
    (m.state.store.get? option = none →
      (∀ color, primitive = .pen → PenColor.ofWord? (Text.lower option) = some color →
        fed.1.state = { m.state with pen := { m.state.pen with color := color.word } } ∧
          fed.1.surface = m.surface.colored color ∧ fed.1.warnings = m.warnings ∧
          fed.2 = none) ∧
      ∀ mode, primitive = .fill → Command.fillMode? (Text.lower option) = some mode →
        fed.1.state = { m.state with pen := { m.state.pen with fill := mode } } ∧
          fed.1.surface = m.surface ∧ fed.1.warnings = m.warnings ∧ fed.2 = none) ∧
    (∀ value, m.state.store.get? option = some value →
      fed.1.state.pen = m.state.pen ∧ fed.1.surface = m.surface) := by
  intro fed fed'
  have read : Statement.classify line.text = .ok (.command primitive [option]) :=
    Statement.classify_of_spelled tidy.trimmed words found
  refine ⟨fun same => ?_, fun unset => ⟨fun color pen spelled => ?_, fun mode fill spelled => ?_⟩,
    fun value bound => ?_⟩
  · have unnamed {m : Machine ε} (reachable : Reachable settings m) :=
      Substitution.get?_of_unnamed reachable.valid.names (isName_of_keyword found)
    have agree : ∀ w ∈ line.words, m'.state.store.get? w = m.state.store.get? w := by
      rw [words]
      refine List.forall_mem_cons.mpr ⟨?_, List.forall_mem_singleton.mpr same⟩
      rw [unnamed reachable, unnamed reachable']
    have parted := feedLine_withStore settings idle gate apart read (Substitution.words_congr agree)
    exact ⟨parted.machine, parted.failure, parted.warnings⟩
  · exact feedLine_color reachable idle gate read pen unset spelled
  · exact feedLine_mode reachable idle gate read fill unset spelled
  · exact feedLine_of_bound reachable idle gate read optional bound

/-- A fresh machine on a recorder that has been fed a line. -/
private def having (text : String) : Machine Recorded :=
  (feedLine {} (.ofString text.toList) (create {} Recording.surface)).1

private theorem reachable_having {text : String} (tidy : (Line.ofString text.toList).Tidy) :
    Reachable {} (having text) :=
  .line (.created Recording.surface) tidy

/-- A pen, a fill mode and a variable for a pen, in states with different variables. -/
theorem options_depend_on_own_name_of_other_variables :
    let m := having "x = 5"
    let m' := having "size = 2"
    let pen : Line := .ofString "PEN Red".toList
    let fill : Line := .ofString "fill off".toList
    let unknown : Line := .ofString "pen x".toList
    (feedLine {} pen m).1.surface = m.surface.colored .red ∧
      (feedLine {} pen m').1.surface = (feedLine {} pen m).1.surface ∧
      (feedLine {} fill m').1.state.pen = { m'.state.pen with fill := false } ∧
      (feedLine {} unknown m).1.surface = m.surface := by
  intro m m' pen fill unknown
  have reachable : Reachable {} m := reachable_having (by decide)
  have reachable' : Reachable {} m' := reachable_having (by decide)
  have apart : m'.Alike (m.withStore m'.state.store) := ⟨rfl, rfl⟩
  have apart' : m.Alike (m'.withStore m.state.store) := ⟨rfl, rfl⟩
  obtain ⟨same, colors, _⟩ := options_depend_on_own_name reachable reachable' rfl rfl apart
    (by decide) (show pen.words = ["PEN".toList, "Red".toList] by decide) (by decide) (Or.inl rfl)
  obtain ⟨_, modes, _⟩ := options_depend_on_own_name reachable' reachable rfl rfl apart'
    (by decide) (show fill.words = ["fill".toList, "off".toList] by decide) (by decide) (Or.inr rfl)
  obtain ⟨_, _, bound⟩ := options_depend_on_own_name reachable reachable' rfl rfl apart
    (by decide) (show unknown.words = ["pen".toList, "x".toList] by decide) (by decide) (Or.inl rfl)
  refine ⟨((colors rfl).1 .red rfl rfl).2.1, ?_, ?_, (bound 5 rfl).2⟩
  · exact (same rfl).1.surface
  · rw [((modes rfl).2 false rfl rfl).1]

/-- A pen of the same colour is another one when the colour is the name of a variable. -/
theorem red_lost_to_variable :
    let line : Line := .ofString "pen red".toList
    let m := having "x = 5"
    let m' := having "red = 5"
    Reachable {} m ∧ Reachable {} m' ∧ m.state.mode.activity = .idle ∧ m.state.gateOpen = true ∧
      m'.Alike (m.withStore m'.state.store) ∧
      (feedLine {} line m).1.state.pen.color = "red".toList ∧
      (feedLine {} line m').1.state.pen.color = "black".toList := by
  intro line m m'
  refine ⟨reachable_having (by decide), reachable_having (by decide), rfl, rfl, ⟨rfl, rfl⟩, ?_, ?_⟩
  · decide +kernel
  · decide +kernel

end Machine

end Plotter
