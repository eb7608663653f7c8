import Mathlib.Algebra.Ring.Int.Defs
import Plotter.Proofs.Machine.Recasting
import Plotter.Proofs.Machine.Validity
import Plotter.Proofs.Script.Decimal
import Plotter.Proofs.Script.Statement
import Plotter.Surface.Recording

/-!
# Variables and their values

The arguments of a drawing command are words.  A word that names a variable gives way to its decimal
form, and from then on nobody knows where the words come from.  So a line may as well have the
decimal form written in it: it does the same, reports the same and warns of the same.

An integer with more digits than can be written is the exception.  The line that names the variable
fails before it does anything, and the line with all the digits is looked at first: what takes
integers still comes to nothing, but a colour or a fill mode that is none is warned of.

## Main result

`variables_act_as_values`: both cases, and that every reader reads a decimal form as its integer.

## Proof strategy

Replacing the variables in either line gives the same words (`words_of_respells`).  The two lines
then differ only in how they have been recorded and in where a fault is placed, and a drawing command
leaves both alone (`Recasts.runCommand`).
-/

namespace Plotter

/-! ### Commands on decimal forms -/

namespace Command

theorem fillMode?_ofInt (v : Int) : fillMode? (Text.lower (Text.ofInt v)) = none := by
  have on : "on".toList.any Char.isDigit = false := by decide
  have off : "off".toList.any Char.isDigit = false := by decide
  rw [fillMode?, if_neg (Text.lower_ofInt_ne on v), if_neg (Text.lower_ofInt_ne off v)]

/-- The words of a command are read back as the integers they are written for. -/
theorem integers_ofInt {values : List Int} (short : ∀ v ∈ values, Text.Writable v) :
    integers (values.map Text.ofInt) = .ok values := by
  induction values with
  | nil => rfl
  | cons v values ih =>
    obtain ⟨here, later⟩ := List.forall_mem_cons.mp short
    simp only [List.map_cons, integers, Text.readInteger_ofInt, if_pos here, ih later]
    rfl

theorem integers_of_long {arguments : List Text} {v : Int} (long : ¬ Text.Writable v)
    (member : Text.ofInt v ∈ arguments) : ∃ f, integers arguments = .error f := by
  induction arguments with
  | nil => cases member
  | cons word rest ih =>
    rw [integers]
    cases read : Text.readInteger word with
    | error e => exact ⟨_, rfl⟩
    | ok value =>
      rcases List.mem_cons.mp member with rfl | later
      · rw [Text.readInteger_ofInt, if_neg long] at read
        cases read
      · obtain ⟨f, failed⟩ := ih later
        exact ⟨f, by simp only [failed]; rfl⟩

end Command

variable {ε : Type}

namespace Machine

variable {m : Machine ε} {nesting : Nesting} {line line' : Line}

/-- What takes integers cannot read one that is too long, and nothing else takes a number. -/
theorem perform_of_long {primitive : Primitive} {word : Text} {arguments : List Text} {v : Int}
    (checked : primitive.check word arguments = none) (long : ¬ Text.Writable v)
    (member : Text.ofInt v ∈ arguments) :
    (m.perform nesting primitive arguments).machine.Alike m := by
  obtain ⟨shape, inShapes, length, _⟩ := Primitive.shape_of_check checked
  obtain ⟨f, unread⟩ := Command.integers_of_long long member
  have fails {α : Type} (next : List Int → Except Failure α) (goesOn : α → Outcome ε) :
      (m.withValue (Command.integers arguments >>= next) goesOn).machine.Alike m := by
    rw [unread]
    exact ⟨rfl, rfl⟩
  have bare (shapes : primitive.shapes = [[]]) : False := by
    rw [shapes, List.mem_singleton] at inShapes
    subst inShapes
    rw [List.length_eq_zero_iff.mp length.symm] at member
    cases member
  have only (type : ParameterType) (shapes : primitive.shapes = [[type]]) :
      arguments = [Text.ofInt v] := by
    rw [shapes, List.mem_singleton] at inShapes
    subst inShapes
    obtain ⟨argument, rfl⟩ := List.length_eq_one_iff.mp length.symm
    rw [List.mem_singleton.mp member]
  -- A colour and a fill mode are words of their own, and no number is one of them.
  cases primitive with
  | moveTo => exact fails ..
  | drawTo => exact fails ..
  | clear => exact (bare rfl).elim
  | reset => exact (bare rfl).elim
  | rectangle => exact fails ..
  | circle => exact fails ..
  | triangle => exact fails ..
  | pen =>
    rw [only .color rfl]
    simp only [perform, setPen, PenColor.ofWord?_ofInt]
    exact ⟨rfl, rfl⟩
  | fill =>
    rw [only .fillMode rfl]
    simp only [perform, setFill, Command.fillMode?_ofInt]
    exact ⟨rfl, rfl⟩

/-- A line with a number that is too long for every reader has no effect. -/
theorem runCommand_of_long
    (long : ∀ replaced, Substitution.words m.state.store line.words = .ok replaced →
      ∃ v, ¬ Text.Writable v ∧ Text.ofInt v ∈ replaced.tail) :
    (m.runCommand nesting line).machine.Alike m := by
  unfold runCommand
  split
  · exact ⟨rfl, rfl⟩
  · exact ⟨rfl, rfl⟩
  next word arguments replaced =>
    split
    · exact ⟨rfl, rfl⟩
    next keyword _ =>
      split
      · exact ⟨rfl, rfl⟩
      next checked =>
        cases keyword with
        | command primitive =>
          obtain ⟨v, long, member⟩ := long _ replaced
          have performed : ((m.log nesting (.command primitive arguments)).perform nesting primitive
              arguments).machine.Alike (m.log nesting (.command primitive arguments)) :=
            perform_of_long checked long member
          exact ⟨performed.state, performed.surface⟩
        | opening kind => exact ⟨rfl, rfl⟩
        | closing kind => exact ⟨rfl, rfl⟩

/-- A drawing command under an open gate. -/
theorem take_command {primitive : Primitive} {arguments : List Text} (settings : Settings)
    (idle : m.state.mode = .idle) (gate : m.state.gateOpen = true)
    (read : Statement.classify line.text = .ok (.command primitive arguments)) :
    take settings line m = runCommand {} line (m.log {} (.line .idle line.text)) := by
  have opened : (m.log {} (.line .idle line.text)).state.gateOpen = true := gate
  simp only [take_eq, stepWith, classified, read, idle, start, execute, opened, Mode.activity,
    Bool.not_true, Bool.false_eq_true, if_false]

/-! ### Warnings and reports -/

/-- What the machine has warned of. -/
def warnings (m : Machine ε) : List JournalEntry :=
  m.journal.toList.filter fun entry => entry.event.level = .warning

theorem warnings_log (m : Machine ε) (nesting : Nesting) {e : Event} (harmless : e.level ≠ .warning) :
    (m.log nesting e).warnings = m.warnings := by
  simp [warnings, log, harmless]

theorem warnings_after (earlier : Array JournalEntry) (m : Machine ε) :
    (m.after earlier).warnings =
      (earlier.toList.filter fun entry => entry.event.level = .warning) ++ m.warnings := by
  simp [warnings, after]

theorem warnings_reportFault (m : Machine ε) (nesting : Nesting) (d : Diagnostic) :
    (m.reportFault nesting d).warnings = m.warnings :=
  warnings_log m nesting (by simp [Event.level])

/-- Nothing has been reported since on either side, or one diagnostic on both that says the same. -/
def ReportAlike (before after after' : Report) : Prop :=
  (after.diagnostics = before.diagnostics ∧ after'.diagnostics = before.diagnostics) ∨
    ∃ d d' : Diagnostic, after.diagnostics = before.diagnostics ++ [d] ∧
      after'.diagnostics = before.diagnostics ++ [d'] ∧ d.code = d'.code ∧ d.message = d'.message

end Machine

/-- Another line is to blame. -/
def Stop.at (line : Line) : Stop → Stop
  | .fault f => .fault ⟨f.cause, line⟩
  | .failure reason => .failure reason

namespace Machine

variable {settings : Settings} {m : Machine ε} {line line' : Line} {primitive : Primitive}
  {arguments arguments' : List Text}

/-- Two commands that have the same words once the variables are replaced, up to what is recorded
of the lines themselves. -/
theorem take_of_words (settings : Settings) (idle : m.state.mode = .idle)
    (gate : m.state.gateOpen = true)
    (read : Statement.classify line.text = .ok (.command primitive arguments))
    (read' : Statement.classify line'.text = .ok (.command primitive arguments'))
    (words : Substitution.words m.state.store line'.words =
      Substitution.words m.state.store line.words) :
    ∃ o : Outcome ε,
      take settings line m =
        o.recast (after (m.journal.push ⟨.line .idle line.text, {}⟩)) (Stop.at line) ∧
      take settings line' m =
        o.recast (after (m.journal.push ⟨.line .idle line'.text, {}⟩)) (Stop.at line') := by
  -- Both lines run on a machine that has recorded nothing; the entries come in front afterwards.
  refine ⟨runCommand {} line { m with journal := #[] }, ?_, ?_⟩
  · rw [take_command settings idle gate read, log_eq_after]
    have recasts := recasts_after (ε := ε)
      (m.journal.push ⟨.line .idle line.text, {}⟩) (g := Stop.at line) fun _ => rfl
    exact (recasts.runCommand { m with journal := #[] } {} rfl fun _ => rfl).symm
  · rw [take_command settings idle gate read', log_eq_after]
    have recasts := recasts_after (ε := ε)
      (m.journal.push ⟨.line .idle line'.text, {}⟩) (g := Stop.at line') fun _ => rfl
    exact (recasts.runCommand { m with journal := #[] } {} words fun _ => rfl).symm

theorem settled_of_words {o : Outcome ε} {earlier earlier' : Array JournalEntry}
    (unreported : o.machine.state.report = m.state.report)
    (same : (earlier.toList.filter fun entry => entry.event.level = .warning) =
      earlier'.toList.filter fun entry => entry.event.level = .warning) :
    let fed := settled (o.recast (after earlier) (Stop.at line))
    let fed' := settled (o.recast (after earlier') (Stop.at line'))
    fed.1.state.pen = fed'.1.state.pen ∧ fed.1.state.store = fed'.1.state.store ∧
      fed.1.surface = fed'.1.surface ∧ fed.1.warnings = fed'.1.warnings ∧ fed.2 = fed'.2 ∧
      ReportAlike m.state.report fed.1.state.report fed'.1.state.report := by
  have warned : (o.machine.after earlier).warnings = (o.machine.after earlier').warnings := by
    rw [warnings_after, warnings_after, same]
  obtain ⟨reached, _ | ⟨cause, site⟩ | reason⟩ := o
  · exact ⟨rfl, rfl, rfl, warned, rfl, Or.inl ⟨congrArg _ unreported, congrArg _ unreported⟩⟩
  · refine ⟨rfl, rfl, rfl, ?_, rfl, Or.inr ⟨(Fault.mk cause line).diagnostic,
      (Fault.mk cause line').diagnostic, ?_, ?_, rfl, rfl⟩⟩
    · exact (warnings_reportFault ..).trans (warned.trans (warnings_reportFault ..).symm)
    · exact congrArg (·.diagnostics ++ _) unreported
    · exact congrArg (·.diagnostics ++ _) unreported
  · exact ⟨rfl, rfl, rfl, warned, rfl, Or.inl ⟨congrArg _ unreported, congrArg _ unreported⟩⟩

/-- What is settled after a line is a matter of the report only. -/
theorem settled_of_alike {o : Outcome ε} (alike : o.machine.Alike m) :
    (settled o).1.state.pen = m.state.pen ∧ (settled o).1.state.store = m.state.store ∧
      (settled o).1.surface = m.surface := by
  rw [← alike.state, ← alike.surface]
  obtain ⟨reached, _ | fault | reason⟩ := o <;> exact ⟨rfl, rfl, rfl⟩

/-- With other arguments a drawing command is still the same command. -/
theorem command_of_respelled {store : Dictionary Int} {allowed : Int → Prop} (tidy' : line'.Tidy)
    (respelled : line.Respelled store allowed line')
    (read : Statement.classify line.text = .ok (.command primitive arguments)) :
    ∃ arguments', Statement.classify line'.text = .ok (.command primitive arguments') := by
  obtain ⟨word, cut, found⟩ := Statement.words_of_classify read
  obtain ⟨word', _, arguments', words, words', _⟩ := respelled
  obtain ⟨rfl, _⟩ := List.cons.inj (cut.symm.trans words)
  exact ⟨arguments', Statement.classify_of_spelled tidy'.trimmed words' found⟩

/-- With values that can be written nothing tells the two lines apart. -/
theorem feedLine_of_short (settings : Settings) (idle : m.state.mode = .idle)
    (gate : m.state.gateOpen = true)
    (named : ∀ name ∈ m.state.store.names, isName name = true)
    (read : Statement.classify line.text = .ok (.command primitive arguments))
    (read' : Statement.classify line'.text = .ok (.command primitive arguments'))
    (short : line.Respelled m.state.store Text.Writable line') :
    let fed := feedLine settings line m
    let fed' := feedLine settings line' m
    fed.1.state.pen = fed'.1.state.pen ∧ fed.1.state.store = fed'.1.state.store ∧
      fed.1.surface = fed'.1.surface ∧ fed.1.warnings = fed'.1.warnings ∧ fed.2 = fed'.2 ∧
      ReportAlike m.state.report fed.1.state.report fed'.1.state.report := by
  obtain ⟨word, words₁, words₂, words, words', respells⟩ := short
  have replaced : Substitution.words m.state.store line'.words =
      Substitution.words m.state.store line.words := by
    rw [words, words']
    exact Substitution.words_of_respells named (.cons .keep respells)
  obtain ⟨o, taken, taken'⟩ := take_of_words settings idle gate read read' replaced
  have unreported : o.machine.state.report = m.state.report := by
    have same := take_report settings line m
    rwa [taken] at same
  simp only [feedLine, taken, taken']
  refine settled_of_words unreported ?_
  simp [Event.level]

/-- A line that names a variable that is too long fails, and the line with its value has no effect. -/
theorem feedLine_of_long (settings : Settings) (idle : m.state.mode = .idle)
    (gate : m.state.gateOpen = true)
    (named : ∀ name ∈ m.state.store.names, isName name = true)
    (read : Statement.classify line.text = .ok (.command primitive arguments))
    (read' : Statement.classify line'.text = .ok (.command primitive arguments'))
    {allowed : Int → Prop} (respelled : line.Respelled m.state.store allowed line')
    (long : ¬ line.Respelled m.state.store Text.Writable line') :
    feedLine settings line m =
        (m.log {} (.line .idle line.text), some (.numeral .tooManyDigits)) ∧
      (feedLine settings line' m).1.state.pen = m.state.pen ∧
      (feedLine settings line' m).1.state.store = m.state.store ∧
      (feedLine settings line' m).1.surface = m.surface := by
  obtain ⟨word, words₁, words₂, words, words', respells⟩ := respelled
  obtain ⟨failed, stays⟩ := Substitution.words_of_long named respells fun short =>
    long ⟨word, words₁, words₂, words, words', short⟩
  constructor
  · have unwritten : Substitution.words (m.log {} (.line .idle line.text)).state.store line.words =
        .error .tooManyDigits := by
      rw [words]
      exact Substitution.words_cons_error failed
    rw [feedLine, take_command settings idle gate read, runCommand, unwritten]
    rfl
  · have inert : (take settings line' m).machine.Alike m := by
      rw [take_command settings idle gate read']
      refine (runCommand_of_long fun replaced done => ?_).trans ⟨rfl, rfl⟩
      rw [words'] at done
      obtain ⟨_, later, inRest, rfl⟩ := Substitution.words_cons_ok done
      exact stays later inRest
    exact settled_of_alike inert

/-- A line with a drawing command does the same as the line with the values of variables in their
place: to the pen, to the variables and to the drawing.  If none of the values has more digits than
can be written, both fail in the same way if they fail, warn of the same, and report nothing or the
same.  Otherwise the line that names the variable fails for its digits, without a warning or a
report.

An integer with no more digits than that is read from its decimal form by all who read integers, and
the decimal form is never taken for a variable. -/
theorem variables_act_as_values :
    (∀ {settings : Settings} {m : Machine ε} {line line' : Line} {primitive : Primitive}
        {arguments : List Text},
      Reachable settings m → m.state.mode = .idle → m.state.gateOpen = true → line'.Tidy →
      Statement.classify line.text = .ok (.command primitive arguments) →
      line.Respelled m.state.store (fun _ => True) line' →
      let fed := feedLine settings line m
      let fed' := feedLine settings line' m
      (fed.1.state.pen = fed'.1.state.pen ∧ fed.1.state.store = fed'.1.state.store ∧
        fed.1.surface = fed'.1.surface) ∧
      (line.Respelled m.state.store Text.Writable line' →
        fed.1.warnings = fed'.1.warnings ∧ fed.2 = fed'.2 ∧
          ReportAlike m.state.report fed.1.state.report fed'.1.state.report) ∧
      (¬ line.Respelled m.state.store Text.Writable line' →
        fed.2 = some (.numeral .tooManyDigits) ∧ fed.1.warnings = m.warnings ∧
          fed.1.state.report = m.state.report)) ∧
    (∀ values : List Int, (∀ v ∈ values, Text.Writable v) →
      (∀ word ∈ values.map Text.ofInt, Text.isInteger word = true) ∧
      Command.integers (values.map Text.ofInt) = .ok values ∧
      ∀ store : Dictionary Int, (∀ name ∈ store.names, isName name = true) →
        Substitution.words store (values.map Text.ofInt) = .ok (values.map Text.ofInt)) ∧
    ∀ (v : Int) (store : Dictionary Int), Text.Writable v →
      Evaluation.expression store (Text.ofInt v) = .ok v ∧
      (∀ (t name : Text) (comparison : Comparison) (value : Int), isName name = true →
        store.get? name = some value →
        Condition.WrittenAs ⟨name, comparison.operator, Text.ofInt v⟩ (Text.trim t) →
        Evaluation.condition store t = .ok (comparison.holds value v)) ∧
      (0 ≤ v → Evaluation.loopCount store [Text.ofInt v] = .ok v.toNat) := by
  refine ⟨?_, fun values short => ⟨?_, Command.integers_ofInt short, ?_⟩,
    fun v store short => ⟨?_, ?_, ?_⟩⟩
  · intro settings m line line' primitive arguments reachable idle gate tidy' read respelled
    have named := reachable.valid.names
    obtain ⟨arguments', read'⟩ := command_of_respelled tidy' respelled read
    -- One value that is too long is enough for the line that names its variable to fail.
    by_cases short : line.Respelled m.state.store Text.Writable line'
    · obtain ⟨pen, store, surface, rest⟩ :=
        feedLine_of_short settings idle gate named read read' short
      exact ⟨⟨pen, store, surface⟩, fun _ => rest, fun long => absurd short long⟩
    · obtain ⟨failed, pen, store, surface⟩ :=
        feedLine_of_long settings idle gate named read read' respelled short
      rw [failed]
      refine ⟨⟨pen.symm, store.symm, surface.symm⟩, fun writable => absurd writable short,
        fun _ => ⟨rfl, ?_, rfl⟩⟩
      exact warnings_log m {} (by simp [Event.level])
  · intro word member
    obtain ⟨v, _, rfl⟩ := List.mem_map.mp member
    exact Text.isInteger_ofInt v
  · exact fun store named => Substitution.words_ofInt named values
  · exact Evaluation.expression_ofInt short
  · exact fun t name comparison value named bound written =>
      Evaluation.condition_ofInt short named bound written
  · exact Evaluation.loopCount_ofInt short

/-- A variable is moved to as its value is, and the decimal forms around it are read back. -/
theorem variables_act_as_values_of_move :
    let first : Line := { text := "x = -5".toList }
    let m := (feedLine {} first (create {} Recording.surface)).1
    let fed := feedLine {} { text := "moveto x 3".toList } m
    let fed' := feedLine {} { text := "moveto -5 3".toList } m
    fed.1.state.pen = fed'.1.state.pen ∧ fed.1.state.store = fed'.1.state.store ∧
      fed.1.surface = fed'.1.surface ∧ fed.1.warnings = fed'.1.warnings ∧ fed.2 = fed'.2 ∧
      ReportAlike m.state.report fed.1.state.report fed'.1.state.report ∧
      fed'.1.state.pen.x = -5 ∧
      Command.integers ["-5".toList, "3".toList] = .ok [-5, 3] ∧
      Evaluation.expression m.state.store "-5".toList = .ok (-5) ∧
      Evaluation.condition m.state.store "x == -5".toList = .ok true ∧
      Evaluation.loopCount m.state.store ["12".toList] = .ok 12 := by
  intro first m
  have reachable : Reachable {} m := .line (.created Recording.surface) (by decide)
  have bound : m.state.store.get? "x".toList = some (-5) := by decide
  have short : ∀ v ∈ [-5, 3, 12], Text.Writable v := by
    have few : ∀ v ∈ [-5, 3, 12], Int.natAbs v < Nat.pow 10 2 := by decide
    exact fun v member => Text.writable_of_lt_pow (few v member) (by decide)
  have respelled (allowed : Int → Prop) (isAllowed : allowed (-5)) :
      Line.Respelled m.state.store allowed { text := "moveto x 3".toList }
        { text := "moveto -5 3".toList } :=
    ⟨"moveto".toList, ["x".toList, "3".toList], ["-5".toList, "3".toList], rfl, rfl,
      .cons (.value bound isAllowed) (.cons .keep .nil)⟩
  obtain ⟨commands, arguments, values⟩ := variables_act_as_values (ε := Recorded)
  obtain ⟨⟨pen, store, surface⟩, alike, _⟩ := commands reachable rfl rfl (by decide) rfl
    (respelled (fun _ => True) trivial)
  obtain ⟨warnings, failure, report⟩ := alike (respelled _ (short _ (by simp)))
  obtain ⟨_, integers, _⟩ := arguments [-5, 3] fun v member => short v (by grind)
  obtain ⟨expression, condition, _⟩ := values (-5) m.state.store (short _ (by simp))
  obtain ⟨_, _, count⟩ := values 12 m.state.store (short _ (by simp))
  have row : [-5, 3].map Text.ofInt = ["-5".toList, "3".toList] := by decide
  have negative : Text.ofInt (-5) = "-5".toList := by decide
  have digits : Text.ofInt 12 = "12".toList := by decide
  have compared : Evaluation.condition m.state.store "x == -5".toList = .ok true :=
    condition "x == -5".toList "x".toList .equal (-5) (by decide) bound
      ⟨[' '], [' '], by decide, by decide, rfl⟩
  rw [row] at integers
  rw [negative] at expression
  rw [digits] at count
  exact ⟨pen, store, surface, warnings, failure, report, by decide, integers, expression, compared,
    count (by decide)⟩

/-! ### A value with too many digits -/

/-- An assignment under an open gate. -/
theorem feedLine_assignment {name expression : Text} {value : Int} (settings : Settings)
    (idle : m.state.mode = .idle) (gate : m.state.gateOpen = true)
    (read : Statement.classify line.text = .ok (.assignment name expression))
    (evaluated : Evaluation.expression m.state.store expression = .ok value) :
    feedLine settings line m =
      ((m.log {} (.line .idle line.text)).modifyState fun s => s.setVariable name value, none) := by
  have opened : (m.log {} (.line .idle line.text)).state.gateOpen = true := gate
  have known : Evaluation.expression (m.log {} (.line .idle line.text)).state.store expression =
      .ok value := evaluated
  refine feedLine_of_done ?_
  simp only [take_eq, stepWith, classified, read, idle, start, execute, opened, assign, known,
    Mode.activity, Bool.not_true, Bool.false_eq_true, if_false]
  rfl

/-- A word that names no colour is warned of. -/
theorem warnings_of_unknownColor {word : Text} (settings : Settings) (idle : m.state.mode = .idle)
    (gate : m.state.gateOpen = true)
    (read : Statement.classify line.text = .ok (.command .pen arguments))
    (replaced : Substitution.words m.state.store line.words = .ok ["pen".toList, word])
    (unknown : PenColor.ofWord? (Text.lower word) = none) :
    (feedLine settings line m).1.warnings = m.warnings ++ [⟨.unknownPenColor word, {}⟩] := by
  have replaced' : Substitution.words (m.log {} (.line .idle line.text)).state.store line.words =
      .ok ["pen".toList, word] := replaced
  have keyword : Keyword.ofWord? "pen".toList = some (.command .pen) := by decide
  have checked : checkCommand (Keyword.command .pen).word (some (.command .pen)) [word] = none := rfl
  rw [feedLine, take_command settings idle gate read]
  simp only [runCommand, replaced', keyword, checked, command, perform, setPen, unknown]
  simp [settled, done, warnings, log, Event.level]

/-- The variable `x` holds a value, and a host that feeds lines one by one has come there. -/
structure Holding (settings : Settings) (v : Int) (m : Machine ε) : Prop where
  reachable : Reachable settings m
  idle : m.state.mode = .idle
  gate : m.state.gateOpen = true
  bound : m.state.store.get? "x".toList = some v

theorem Holding.assign {value : Int} {expression : Text} (reachable : Reachable settings m)
    (idle : m.state.mode = .idle) (gate : m.state.gateOpen = true) (tidy : line.Tidy)
    (read : Statement.classify line.text = .ok (.assignment "x".toList expression))
    (evaluated : Evaluation.expression m.state.store expression = .ok value) :
    (feedLine settings line m).2 = none ∧ Holding settings value (feedLine settings line m).1 := by
  have fed := feedLine_assignment settings idle gate read evaluated
  refine ⟨by rw [fed], .line reachable tidy, ?_, ?_, ?_⟩
  · rw [fed]
    exact idle
  · rw [fed]
    exact gate
  · rw [fed]
    simp [modifyState, State.setVariable]

/-- A line that doubles the variable. -/
def doubling : Line := { text := "x = x + x".toList }

theorem expression_doubled {store : Dictionary Int} {v : Int}
    (bound : store.get? "x".toList = some v) :
    Evaluation.expression store "x + x".toList = .ok (v + v) := by
  have terms : Expression.terms? "x + x".toList =
      some [⟨.plus, "x".toList⟩, ⟨.plus, "x".toList⟩] := by decide
  have here := Evaluation.term_of_bound (by decide) bound
  simp only [Evaluation.expression, terms, Evaluation.sum, here, bind, Except.bind, pure,
    Except.pure, Sign.apply, Int.add_zero]

theorem Holding.doubled {v : Int} (holding : Holding settings v m) (n : Nat) :
    Holding settings (v * 2 ^ n) (feedLines settings (List.replicate n doubling) m).1 := by
  induction n generalizing m v with
  | zero => simpa [feedLines] using holding
  | succ n ih =>
    have tidy : doubling.Tidy := by decide
    obtain ⟨done, next⟩ := Holding.assign holding.reachable holding.idle holding.gate tidy rfl
      (expression_doubled holding.bound)
    have later := ih next
    have same : v * 2 ^ (n + 1) = (v + v) * 2 ^ n := by grind
    rw [List.replicate_succ, feedLines, same]
    rcases fed : feedLine settings doubling m with ⟨reached, failure⟩
    rw [fed] at done later
    cases done
    exact later

/-- Four doublings for each digit are enough. -/
theorem not_writable_two_pow : ¬ Text.Writable (2 ^ (4 * Text.maxDigits)) := by
  rw [Text.Writable, Int.natAbs_pow, Nat.not_lt, Nat.pow_mul, Nat.pow_eq]
  exact Nat.pow_le_pow_left (by decide) _

theorem visible_of_pen {word : Text} (visible : word.isVisible = true) :
    ∀ w ∈ [Primitive.pen.word, word], w.isVisible = true :=
  List.forall_mem_cons.mpr ⟨by decide, List.forall_mem_singleton.mpr visible⟩

theorem words_of_pen {word : Text} (visible : word.isVisible = true) :
    Text.words ("pen ".toList ++ word) = ["pen".toList, word] :=
  Text.words_unwords (visible_of_pen visible)

theorem tidy_of_pen {word : Text} (visible : word.isVisible = true) :
    Line.Tidy { text := "pen ".toList ++ word } :=
  Line.tidy_of_unwords rfl (visible_of_pen visible) (by simp)

theorem warnings_ne_of_long {v : Int} (holding : Holding settings v m)
    (long : ¬ Text.Writable v) (variable_ : line.text = "pen x".toList)
    (written : line'.text = "pen ".toList ++ Text.ofInt v) (tidy' : line'.Tidy) :
    line.Respelled m.state.store (fun _ => True) line' ∧
      (feedLine settings line m).1.warnings ≠ (feedLine settings line' m).1.warnings := by
  have named := holding.reachable.valid.names
  have words : line.words = ["pen".toList, "x".toList] := by
    rw [Line.words, variable_]
    rfl
  have words' : line'.words = ["pen".toList, Text.ofInt v] := by
    rw [Line.words, written]
    exact words_of_pen (Text.isVisible_ofInt v)
  have read : Statement.classify line.text = .ok (.command .pen ["x".toList]) := by
    rw [variable_]
    rfl
  have respelled : line.Respelled m.state.store (fun _ => True) line' :=
    ⟨_, _, _, words, words', .cons (.value holding.bound trivial) .nil⟩
  refine ⟨respelled, ?_⟩
  obtain ⟨arguments', read'⟩ := command_of_respelled tidy' respelled read
  have unwritten : Substitution.words m.state.store line.words = .error .tooManyDigits := by
    rw [words]
    apply Substitution.words_cons_error
    rw [Substitution.words_cons_of_bound holding.bound, if_neg long]
  have replaced : Substitution.words m.state.store line'.words =
      .ok ["pen".toList, Text.ofInt v] := by
    rw [words', Substitution.words_cons_of_unset (Substitution.get?_of_unnamed named (by decide)),
      Substitution.words_cons_of_unset (Substitution.get?_ofInt named v)]
    rfl
  have short : ¬ line.Respelled m.state.store Text.Writable line' := by
    rintro ⟨word, words₁, words₂, parts, parts', respells⟩
    have all : List.Forall₂ (Respells m.state.store Text.Writable) (word :: words₁)
        (word :: words₂) := .cons .keep respells
    have same := Substitution.words_of_respells named all
    rw [← parts, ← parts', replaced, unwritten] at same
    cases same
  have failed := (feedLine_of_long settings holding.idle holding.gate named read read' respelled
    short).1
  rw [failed, warnings_of_unknownColor settings holding.idle holding.gate read' replaced
    (PenColor.ofWord?_ofInt v), warnings_log m {} (by simp [Event.level])]
  simp

/-- A variable that has been doubled often enough cannot be written.  A line that sets the pen to it
fails, and a line that sets the pen to its decimal form is warned of. -/
theorem warned_of_digits_only :
    let first : Line := { text := "x = 1".toList }
    let m := (feedLines {} (first :: List.replicate (4 * Text.maxDigits) doubling)
      (create {} Recording.surface)).1
    let line : Line := { text := "pen x".toList }
    let line' : Line := { text := "pen ".toList ++ Text.ofInt (2 ^ (4 * Text.maxDigits)) }
    Reachable {} m ∧ m.state.mode = .idle ∧ m.state.gateOpen = true ∧ line.Tidy ∧ line'.Tidy ∧
      Statement.classify line.text = .ok (.command .pen ["x".toList]) ∧
      line.Respelled m.state.store (fun _ => True) line' ∧
      (feedLine {} line m).1.warnings ≠ (feedLine {} line' m).1.warnings := by
  intro first m line line'
  have created : Reachable {} (create {} Recording.surface) := .created Recording.surface
  have holding : Holding {} (2 ^ (4 * Text.maxDigits)) m := by
    have tidy : first.Tidy := by decide
    have evaluated : Evaluation.expression (create {} Recording.surface).state.store "1".toList =
        .ok 1 := rfl
    obtain ⟨done, one⟩ := Holding.assign created rfl rfl tidy rfl evaluated
    -- The run is never carried out: each line doubles what the lines before have left.
    have doubled := one.doubled (4 * Text.maxDigits)
    rw [Int.one_mul] at doubled
    show Holding {} _ (feedLines {} (first :: _) _).1
    rw [feedLines]
    rcases fed : feedLine {} first (create {} Recording.surface) with ⟨reached, failure⟩
    rw [fed] at done doubled
    cases done
    exact doubled
  have tidy' : line'.Tidy := tidy_of_pen (Text.isVisible_ofInt _)
  exact ⟨holding.reachable, holding.idle, holding.gate, by decide, tidy', rfl,
    warnings_ne_of_long holding not_writable_two_pow rfl rfl tidy'⟩

end Machine

end Plotter
