import Plotter.Proofs.Machine.Validity
import Plotter.Proofs.Script.Evaluation

/-!
# What can end a run

On a surface that draws every figure a run ends in a result, unless a number gets in its way: one
with too many digits to be read or written, or the width of a triangle that no double can hold.
Everything else that the machine could fail at is out of reach.  Lines are tidy, so they can be
classified; the first word of a command is no name, so no variable replaces it; the words that
have passed the check are as many as the command reads; the pen has a colour that every surface
takes; and a method that is closed has a header.

`Failing` names the failures that remain, with the journal entry of the triangle for the second
kind, and `Safe` says that an outcome has no other.
-/

namespace Plotter

namespace Command

/-- Literals are read, as many as there are, unless one has too many digits. -/
theorem integers_literals {texts : List Text} (recognised : ∀ t ∈ texts, Text.isInteger t = true) :
    (∃ values, integers texts = .ok values ∧
      List.Forall₂ (fun t n => Text.readInteger t = .ok n) texts values) ∨
    integers texts = .error (.numeral .tooManyDigits) := by
  induction texts with
  | nil => exact Or.inl ⟨[], rfl, .nil⟩
  | cons t rest ih =>
    unfold integers
    rcases Text.readInteger_literal (recognised t (List.mem_cons_self ..)) with ⟨n, read⟩ | long
    · rcases ih fun u member => recognised u (List.mem_cons_of_mem _ member) with
        ⟨values, readRest, each⟩ | long
      · exact Or.inl ⟨n :: values, by simp [read, readRest, Except.map], .cons read each⟩
      · exact Or.inr (by simp [read, long, Except.map])
    · exact Or.inr (by simp [long])

theorem pair_literals {texts : List Text} (recognised : ∀ t ∈ texts, Text.isInteger t = true)
    (count : texts.length = 2) {f : Failure} (failed : (integers texts >>= pair) = .error f) :
    f = .numeral .tooManyDigits := by
  rcases integers_literals recognised with ⟨values, read, each⟩ | long
  · obtain ⟨a, b, rfl⟩ := List.length_eq_two.mp (each.length_eq ▸ count)
    rw [read] at failed
    cases failed
  · rw [long] at failed
    cases failed
    rfl

theorem single_literals {texts : List Text} (recognised : ∀ t ∈ texts, Text.isInteger t = true)
    (count : texts.length = 1) {f : Failure} (failed : (integers texts >>= single) = .error f) :
    f = .numeral .tooManyDigits := by
  rcases integers_literals recognised with ⟨values, read, each⟩ | long
  · obtain ⟨a, rfl⟩ := List.length_eq_one_iff.mp (each.length_eq ▸ count)
    rw [read] at failed
    cases failed
  · rw [long] at failed
    cases failed
    rfl

/-- Six literals are always three points; of four, the first must have a half. -/
theorem triangle_literals {texts : List Text} (recognised : ∀ t ∈ texts, Text.isInteger t = true)
    (count : texts.length = 6 ∨ texts.length = 4) {f : Failure}
    (failed : (integers texts >>= triangleVertices) = .error f) :
    f = .numeral .tooManyDigits ∨
      ∃ width height x y n, texts = [width, height, x, y] ∧ Text.readInteger width = .ok n ∧
        truncatedHalf n = none ∧ f = .tooLarge := by
  rcases integers_literals recognised with ⟨values, read, each⟩ | long
  · rw [read] at failed
    refine Or.inr ?_
    -- Only the form with four values divides.
    rcases count with six | four
    · match values, each.length_eq ▸ six with
      | [_, _, _, _, _, _], _ => cases failed
    · match texts, values, four, each with
      | [width, height, x, y], [n, _, _, _], _, .cons first _ =>
        simp only [bind, Except.bind, triangleVertices] at failed
        split at failed
        · cases failed
        next large =>
          cases failed
          exact ⟨width, height, x, y, n, rfl, first, large, rfl⟩
  · rw [long] at failed
    cases failed
    exact Or.inl rfl

end Command

/-- A medium that draws every figure. -/
def Medium.Unfailing {ε : Type} (medium : Medium ε) : Prop :=
  ∀ palette f, (medium.draw palette f).failure = none

theorem Recording.unfailing : Recording.medium.Unfailing := fun _ _ => rfl

/-- Every surface takes the colours of a pen. -/
theorem Palette.accepts_penColor {color : Text} (member : color ∈ PenColor.all.map PenColor.word) :
    Palette.accepts .lineColor (.text color) = true ∧
      Palette.accepts .fillColor (.text color) = true := by
  obtain ⟨pen, _, rfl⟩ := List.mem_map.mp member
  cases pen <;> decide

namespace Machine

variable {ε : Type} {m m' : Machine ε}

/-- The failures that a script can bring about, and where the machine stands then. -/
inductive Failing : Machine ε → Failure → Prop
  | digits (m : Machine ε) : Failing m (.numeral .tooManyDigits)
  | halving {m : Machine ε} {nesting : Nesting} {width height x y : Text} {n : Int}
      (last : m.journal.back? = some ⟨.command .triangle [width, height, x, y], nesting⟩)
      (read : Text.readInteger width = .ok n) (large : truncatedHalf n = none) :
      Failing m .tooLarge

/-- A valid machine on a surface that draws every figure. -/
structure Sound (m : Machine ε) : Prop where
  valid : m.state.Valid
  unfailing : m.surface.medium.Unfailing

/-- A sound machine, and no failure but those that a script can bring about. -/
structure Safe (o : Outcome ε) : Prop where
  sound : o.machine.Sound
  failing : ∀ f, o.stop = some (.failure f) → Failing o.machine f

theorem Move.medium_eq {fits : Line → Prop} (move : Move fits m m') :
    m'.surface.medium = m.surface.medium := by
  cases move with
  | color color => rw [takeColor_medium]; rfl
  | _ => rfl

theorem guarded_sound : Guarded Line.Tidy (Sound : Machine ε → Prop) where
  kept sound move := ⟨move.valid sound.valid, move.medium_eq ▸ sound.unfailing⟩
  expands sound := guarded_valid.expands sound.valid
  collected sound := guarded_valid.collected sound.valid

theorem Sound.moves (sound : m.Sound) (moves : Moves Line.Tidy m m') : m'.Sound :=
  moves.invariant guarded_sound.kept sound

/-- An outcome that moves lead to and that fails only at digits. -/
theorem Sound.digits {o : Outcome ε} (sound : m.Sound) (moves : Moves Line.Tidy m o.machine)
    (only : ∀ f, o.stop = some (.failure f) → f = .numeral .tooManyDigits) : Safe o :=
  ⟨sound.moves moves, fun f failed => only f failed ▸ .digits _⟩

/-! ### Sequences -/

theorem Sound.done (sound : m.Sound) : Safe m.done := ⟨sound, by simp [Machine.done]⟩

theorem Sound.fault (sound : m.Sound) (line : Line) (cause : Cause) : Safe (m.fault line cause) :=
  ⟨sound, by simp [Machine.fault, stopWith]⟩

theorem Sound.fail (sound : m.Sound) {f : Failure} (failing : Failing m f) : Safe (m.fail f) := by
  refine ⟨sound, fun found failed => ?_⟩
  cases failed
  exact failing

theorem andThen_safe {o : Outcome ε} {next : Machine ε → Outcome ε} (first : Safe o)
    (second : o.machine.Sound → Safe (next o.machine)) : Safe (o.andThen next) := by
  obtain ⟨done, stop⟩ := o
  cases stop with
  | none => exact second first.sound
  | some stop => exact first

theorem runAll_safe {run : Line → Machine ε → Outcome ε} {lines : List Line}
    (steps : ∀ line ∈ lines, ∀ m, m.Sound → Safe (run line m)) (sound : m.Sound) :
    Safe (runAll run lines m) := by
  induction lines generalizing m with
  | nil => exact sound.done
  | cons line rest ih =>
    refine andThen_safe (steps line (List.mem_cons_self ..) m sound) (ih ?_)
    exact fun later member => steps later (List.mem_cons_of_mem _ member)

theorem repeated_safe {body : Machine ε → Outcome ε} (round : ∀ m, m.Sound → Safe (body m))
    (rounds : Nat) (sound : m.Sound) : Safe (repeated body rounds m) := by
  induction rounds generalizing m with
  | zero => exact sound.done
  | succ rounds ih => exact andThen_safe (round m sound) ih

theorem restoring_safe {o : Outcome ε} {restore : State → State} (safe : Safe o)
    (restored : (o.machine.modifyState restore).Sound) : Safe (restoring restore o) := by
  unfold restoring
  split
  next f fault => exact ⟨restored, by simp [fault]⟩
  · exact safe

theorem withValue_safe {α : Type} {value : Except Failure α} {next : α → Outcome ε}
    (sound : m.Sound) (failing : ∀ f, value = .error f → Failing m f)
    (goesOn : ∀ a, value = .ok a → Safe (next a)) : Safe (m.withValue value next) := by
  cases value with
  | ok a => exact goesOn a rfl
  | error f => exact sound.fail (failing f rfl)

/-! ### Drawing commands -/

theorem applyPen_safe (sound : m.Sound) : Safe m.applyPen := by
  refine ⟨sound.moves (applyPen_moves m), ?_⟩
  have accepted := (Palette.accepts_penColor sound.valid.color).1
  simp [applyPen, setProperty_eq, accepted, Machine.done]

theorem draw_safe (sound : m.Sound) (nesting : Nesting) (f : Figure) :
    Safe (m.draw nesting f) := by
  refine ⟨sound.moves (draw_moves m nesting f), ?_⟩
  have drawn := sound.unfailing m.surface.palette f
  simp [draw, Surface.draw, drawn, Machine.done]

theorem drawShape_safe (sound : m.Sound) (nesting : Nesting) (shape : Shape) :
    Safe (m.drawShape nesting shape) := by
  refine andThen_safe (applyPen_safe sound) fun ready => ?_
  split
  · exact andThen_safe (draw_safe ready nesting _) fun filled => draw_safe filled nesting _
  · exact draw_safe ready nesting _

/-- The literals among the words of a command that takes one list of integers. -/
private theorem literals_of_check {p : Primitive} {word : Text} {arguments : List Text}
    (count : Nat) (shapes : p.shapes = [List.replicate count .integer])
    (passed : p.check word arguments = none) :
    arguments.length = count ∧ ∀ t ∈ arguments, Text.isInteger t = true := by
  obtain ⟨shape, member, length, typed⟩ := Primitive.shape_of_check passed
  obtain rfl : shape = List.replicate count .integer := by simpa [shapes] using member
  have filled : arguments.length = count := by simpa using length.symm
  exact ⟨filled, Primitive.isInteger_of_checkTypes typed filled⟩

/-- A word is left for a command that takes one. -/
private theorem nonempty_of_check {p : Primitive} {word : Text} {arguments : List Text}
    {type : ParameterType} (shapes : p.shapes = [[type]])
    (passed : p.check word arguments = none) : ∃ first, arguments = [first] := by
  obtain ⟨shape, member, length, _⟩ := Primitive.shape_of_check passed
  obtain rfl : shape = [type] := by simpa [shapes] using member
  exact List.length_eq_one_iff.mp length.symm

private theorem triangle_of_check {word : Text} {arguments : List Text}
    (passed : Primitive.triangle.check word arguments = none) :
    (arguments.length = 6 ∨ arguments.length = 4) ∧
      ∀ t ∈ arguments, Text.isInteger t = true := by
  obtain ⟨shape, member, length, typed⟩ := Primitive.shape_of_check passed
  obtain rfl | rfl : shape = List.replicate 6 .integer ∨ shape = List.replicate 4 .integer := by
    simpa [Primitive.shapes] using member
  · exact ⟨Or.inl length.symm, Primitive.isInteger_of_checkTypes typed length.symm⟩
  · exact ⟨Or.inr length.symm, Primitive.isInteger_of_checkTypes typed length.symm⟩

theorem setPen_safe (sound : m.Sound) (nesting : Nesting) (word : Text) :
    Safe (m.setPen nesting [word]) := by
  refine ⟨sound.moves (setPen_moves m nesting _), ?_⟩
  simp only [setPen]
  split <;> simp [Machine.done]

theorem setFill_safe (sound : m.Sound) (nesting : Nesting) (word : Text) :
    Safe (m.setFill nesting [word]) := by
  refine ⟨sound.moves (setFill_moves m nesting _), ?_⟩
  simp only [setFill]
  split <;> simp [Machine.done]

theorem perform_safe (sound : m.Sound) {nesting : Nesting} {primitive : Primitive} {word : Text}
    {arguments : List Text}
    (last : m.journal.back? = some ⟨.command primitive arguments, nesting⟩)
    (passed : primitive.check word arguments = none) :
    Safe (m.perform nesting primitive arguments) := by
  cases primitive with
  | moveTo =>
    obtain ⟨count, literals⟩ := literals_of_check 2 rfl passed
    refine withValue_safe sound (fun f failed => ?_) fun p _ => ?_
    · exact Command.pair_literals literals count failed ▸ .digits m
    · exact (sound.moves (.single (.pen (m.state.pen.moveTo p.1 p.2) rfl))).done
  | drawTo =>
    obtain ⟨count, literals⟩ := literals_of_check 2 rfl passed
    refine withValue_safe sound (fun f failed => ?_) fun p _ => ?_
    · exact Command.pair_literals literals count failed ▸ .digits m
    · refine andThen_safe (applyPen_safe sound) fun ready => ?_
      refine andThen_safe (draw_safe ready nesting _) fun drawn => ?_
      exact (drawn.moves (.single (.pen (Pen.moveTo _ p.1 p.2) rfl))).done
  | clear =>
    refine Sound.done (Sound.moves (sound.moves (clearSurface_moves m nesting)) ?_)
    exact .single (.pen (Pen.home _) rfl)
  | reset => exact (sound.moves (.single (.pen (Pen.home _) rfl))).done
  | rectangle =>
    obtain ⟨count, literals⟩ := literals_of_check 2 rfl passed
    refine withValue_safe sound (fun f failed => ?_) fun p _ => drawShape_safe sound nesting _
    exact Command.pair_literals literals count failed ▸ .digits m
  | circle =>
    obtain ⟨count, literals⟩ := literals_of_check 1 rfl passed
    refine withValue_safe sound (fun f failed => ?_) fun p _ => drawShape_safe sound nesting _
    exact Command.single_literals literals count failed ▸ .digits m
  | triangle =>
    obtain ⟨count, literals⟩ := triangle_of_check passed
    refine withValue_safe sound (fun f failed => ?_) fun p _ => drawShape_safe sound nesting _
    -- Nothing has been logged since the command, so its entry is still the last.
    rcases Command.triangle_literals literals count failed with
      rfl | ⟨width, height, x, y, n, rfl, read, large, rfl⟩
    · exact .digits m
    · exact .halving last read large
  | pen =>
    obtain ⟨first, rfl⟩ := nonempty_of_check rfl passed
    exact setPen_safe sound nesting first
  | fill =>
    obtain ⟨first, rfl⟩ := nonempty_of_check rfl passed
    exact setFill_safe sound nesting first

/-! ### Lines outside of a block -/

theorem openBranch_safe (sound : m.Sound) {line : Line} (tidy : line.Tidy)
    (opens : line.opens .conditional = true) (arguments : List Text) :
    Safe (openBranch line arguments m) := by
  refine sound.digits (openBranch_moves tidy opens arguments) fun f failed => ?_
  unfold openBranch at failed
  split at failed
  · cases failed
  · split at failed
    · cases failed
    · cases failed
    next problem =>
      cases failed
      exact Evaluation.condition_failure problem

theorem closeBranch_safe (sound : m.Sound) (line : Line) : Safe (closeBranch line m) := by
  refine sound.digits (closeBranch_moves line) fun f failed => ?_
  unfold closeBranch at failed
  split at failed <;> cases failed

theorem assign_safe (sound : m.Sound) {line : Line} {name expression : Text} (tidy : line.Tidy)
    (read : Statement.classify line.text = .ok (.assignment name expression)) :
    Safe (assign line name expression m) := by
  refine sound.digits (assign_moves tidy read) fun f failed => ?_
  unfold assign at failed
  split at failed
  · cases failed
  next p problem =>
    cases p with
    | cause c => cases failed
    | failure g =>
      cases failed
      exact Evaluation.expression_failure problem

/-- The first word of a command is reserved, so it names no variable and stays. -/
theorem runCommand_safe (sound : m.Sound) {line : Line} {primitive : Primitive}
    {arguments : List Text} (nesting : Nesting)
    (read : Statement.classify line.text = .ok (.command primitive arguments)) :
    Safe (runCommand nesting line m) := by
  obtain ⟨word, cut, keyword⟩ := Statement.words_of_classify read
  -- Were the word the name of a variable, it would not be reserved.
  have unset : m.state.store.get? word = none := by
    cases found : m.state.store.get? word with
    | none => rfl
    | some value =>
      have named := sound.valid.names word (List.mem_map_of_mem (Dictionary.mem_of_get? found))
      simp [isName, isReserved, keyword] at named
  have words : line.words = word :: arguments := cut
  unfold runCommand
  rw [words]
  cases replaced : Substitution.words m.state.store (word :: arguments) with
  | error e => exact sound.fail (Substitution.words_error replaced ▸ .digits m)
  | ok texts =>
    obtain ⟨later, rfl⟩ := Substitution.words_head unset replaced
    simp only [keyword]
    split
    · exact sound.fault line _
    next passed =>
      have logged : (m.log nesting (.command primitive later)).Sound :=
        sound.moves (.single (.log ..))
      exact perform_safe logged (by simp [log]) passed

theorem openLoop_safe (sound : m.Sound) {line : Line} (tidy : line.Tidy)
    (opens : line.opens .loop = true) (idle : m.state.mode = .idle) (nesting : Nesting)
    (arguments : List Text) : Safe (openLoop nesting line arguments m) := by
  refine sound.digits (openLoop_moves tidy opens idle nesting arguments) fun f failed => ?_
  simp only [openLoop] at failed
  split at failed
  · cases failed
  · split at failed
    · cases failed
    · split at failed
      · cases failed
      · cases failed
      next problem =>
        cases failed
        exact Evaluation.loopCount_failure problem

theorem openMethod_safe (sound : m.Sound) {line : Line} (tidy : line.Tidy)
    (opens : line.opens .method = true) (idle : m.state.mode = .idle) :
    Safe (openMethod line m) := by
  refine sound.digits (openMethod_moves tidy opens idle) fun f failed => ?_
  simp only [openMethod] at failed
  split at failed <;> cases failed

/-! ### Lines of an open block -/

/-- A method that is not discarded has a header. -/
theorem closeMethod_safe (sound : m.Sound) {block : Block (Option Header)}
    (collected : m.state.mode = .method block) (kept : block.discarded = false)
    (nesting : Nesting) : Safe (closeMethod nesting block m) := by
  refine sound.digits (closeMethod_moves collected nesting) fun f failed => ?_
  unfold closeMethod at failed
  split at failed
  · cases failed
  next absent =>
    -- Without a header the block is discarded, and a discarded block is not closed here.
    have valid := sound.valid.block
    rw [collected] at valid
    simp [valid.1.discarded absent] at kept

theorem collect_safe {α : Type} {kind : BlockKind} {nestedCause : Cause} {block : Block α}
    {rewrap : Block α → Mode} {close : Machine ε → Outcome ε} {line : Line}
    {statement : Statement} (sound : m.Sound) (tidy : line.Tidy)
    (read : Statement.classify line.text = .ok statement)
    (turn : ∀ {next}, Block.Turn Line.Tidy kind block next →
      Mode.Turn Line.Tidy m.state.mode (rewrap next))
    (closes : block.discarded = false → Safe (close m)) (nesting : Nesting) :
    Safe (collect kind nestedCause block rewrap close nesting line statement m) := by
  generalize collected :
    collect kind nestedCause block rewrap close nesting line statement m = o
  rcases collect_cases tidy read turn nesting collected with ⟨kept, rfl⟩ | ⟨moves, unfailed⟩
  · exact closes kept
  · exact ⟨sound.moves moves, fun f failed => absurd failed (unfailed f)⟩

/-! ### Calls and replays -/

section Calls

variable {deeper : Option (Runner ε)} {limit : Text}

/-- The lines that a call runs are safe. -/
def CallsSafe (deeper : Option (Runner ε)) : Prop :=
  ∀ runner ∈ deeper, ∀ nesting line m, m.Sound → line.Tidy → Safe (runner nesting line m)

theorem requireClosedLoop_safe (sound : m.Sound) : Safe (requireClosedLoop m) := by
  refine sound.digits (requireClosedLoop_moves m) fun f failed => ?_
  unfold requireClosedLoop at failed
  split at failed <;> cases failed

theorem enter_safe {runner : Runner ε}
    (runs : ∀ nesting line m, m.Sound → line.Tidy → Safe (runner nesting line m))
    {lines : List Line} (tidy : ∀ line ∈ lines, line.Tidy) (nesting : Nesting) (sound : m.Sound) :
    Safe (enter runner nesting lines m) := by
  have ran : Safe ((runAll (runner { nesting with calls := nesting.calls + 1 }) lines m).andThen
      requireClosedLoop) := by
    refine andThen_safe (runAll_safe ?_ sound) requireClosedLoop_safe
    exact fun line member m sound => runs _ line m sound (tidy line member)
  refine restoring_safe ran (ran.sound.moves ?_)
  exact (withoutLoop_moves _).tail (.truncate _ m.state.depth)

theorem call_safe (runs : CallsSafe deeper) {line : Line} {invocation : Call} (tidy : line.Tidy)
    (read : Statement.classify line.text = .ok (.call invocation)) (nesting : Nesting)
    (sound : m.Sound) : Safe (call deeper limit nesting line invocation m) := by
  unfold call
  split
  · exact sound.fault line _
  next method found =>
    split
    · exact sound.fault line _
    · split
      · exact sound.fault line _
      next runner =>
        exact enter_safe (runs runner rfl) (guarded_sound.expands sound tidy read found) nesting
          sound

theorem execute_safe (runs : CallsSafe deeper) {line : Line} {statement : Statement}
    (tidy : line.Tidy) (read : Statement.classify line.text = .ok statement) (nesting : Nesting)
    (sound : m.Sound) : Safe (execute deeper limit nesting line statement m) := by
  unfold execute
  split
  · exact closeBranch_safe sound line
  · exact openBranch_safe sound tidy (Statement.opens_of_classify read) _
  · exact sound.fault line _
  · exact sound.fault line _
  · exact sound.fault line _
  · split
    · exact (sound.moves (.single (.log ..))).done
    · split
      · exact call_safe runs tidy read nesting sound
      · exact assign_safe sound tidy read
      · exact runCommand_safe sound nesting read
      · exact sound.fault line _
      · exact sound.done

theorem replayOnce_safe (runs : CallsSafe deeper) {body : List Line}
    (tidy : ∀ line ∈ body, line.Tidy) (nesting : Nesting) (sound : m.Sound) :
    Safe (replayOnce deeper limit nesting body m) := by
  refine runAll_safe (fun line member m sound => ?_) sound
  obtain ⟨statement, read⟩ := Statement.classify_of_trimmed (tidy line member).trimmed
  simp only [classified, read]
  exact execute_safe runs (tidy line member) read nesting sound

theorem closeLoop_safe (runs : CallsSafe deeper) {block : Block Nat}
    (collected : m.state.mode = .loop block) (nesting : Nesting) (sound : m.Sound) :
    Safe (closeLoop deeper limit nesting block m) := by
  have closed : ((m.modifyState fun s => { s with mode := .idle }).log nesting
      (.replaying block.body.length block.header)).Sound :=
    sound.moves (.tail (.single (.turn (.close _))) (.log _ nesting _))
  have tidy := guarded_sound.collected sound collected
  have round (m : Machine ε) (sound : m.Sound) : Safe (replayOnce deeper limit
      { nesting with replays := nesting.replays + 1 } block.body m) :=
    replayOnce_safe runs tidy _ sound
  have ran := repeated_safe round block.header closed
  exact restoring_safe ran (ran.sound.moves (.single (.truncate _ m.state.depth)))

theorem start_safe (runs : CallsSafe deeper) {line : Line} {statement : Statement}
    (tidy : line.Tidy) (read : Statement.classify line.text = .ok statement)
    (idle : m.state.mode = .idle) (nesting : Nesting) (sound : m.Sound) :
    Safe (start deeper limit nesting line statement m) := by
  unfold start
  split
  · exact sound.fault line _
  · exact openMethod_safe sound tidy (Statement.opens_of_classify read) idle
  · exact openLoop_safe sound tidy (Statement.opens_of_classify read) idle nesting _
  · exact execute_safe runs tidy read nesting sound

theorem stepWith_safe (runs : CallsSafe deeper) {line : Line} (tidy : line.Tidy)
    (nesting : Nesting) (sound : m.Sound) : Safe (stepWith deeper limit nesting line m) := by
  obtain ⟨statement, read⟩ := Statement.classify_of_trimmed tidy.trimmed
  have noted : (m.log nesting (.line m.state.mode.activity line.text)).Sound :=
    sound.moves (.single (.log ..))
  simp only [stepWith, classified, read]
  split
  next block collected =>
    exact collect_safe (m := m.log ..) noted tidy read (fun t => collected ▸ .method t)
      (fun kept => closeMethod_safe noted collected kept nesting) nesting
  next block collected =>
    exact collect_safe (m := m.log ..) noted tidy read (fun t => collected ▸ .loop t)
      (fun _ => closeLoop_safe (m := m.log ..) runs collected nesting noted) nesting
  next idle => exact start_safe (m := m.log ..) runs tidy read idle nesting noted

end Calls

/-- A line brings about no failure but those that a script can bring about. -/
theorem step_safe (limit : Text) (room : Nat) {line : Line} (tidy : line.Tidy) (nesting : Nesting)
    (sound : m.Sound) : Safe (step limit room nesting line m) := by
  induction room generalizing m line nesting with
  | zero => exact stepWith_safe (by simp [CallsSafe]) tidy nesting sound
  | succ room ih =>
    refine stepWith_safe ?_ tidy nesting sound
    rintro runner ⟨⟩ nesting line m sound tidy
    exact ih tidy nesting sound

/-! ### Runs -/

theorem feedLine_safe (settings : Settings) {line : Line} (tidy : line.Tidy) (sound : m.Sound)
    {next : Machine ε} {failure : Option Failure}
    (fed : feedLine settings line m = (next, failure)) :
    next.Sound ∧ ∀ f, failure = some f → Failing next f := by
  have taken : Safe (take settings line m) := step_safe _ _ tidy {} sound
  simp only [feedLine, settled] at fed
  split at fed
  · cases fed
    exact ⟨taken.sound, by simp⟩
  · cases fed
    exact ⟨⟨valid_reportFault taken.sound.valid {} _, taken.sound.unfailing⟩, by simp⟩
  next f stopped =>
    cases fed
    exact ⟨taken.sound, by rintro _ ⟨⟩; exact taken.failing f stopped⟩

theorem feedLines_failing (settings : Settings) {lines : List Line}
    (tidy : ∀ line ∈ lines, line.Tidy) (sound : m.Sound) {last : Machine ε} {f : Failure}
    (fed : feedLines settings lines m = (last, some f)) : Failing last f := by
  induction lines generalizing m with
  | nil => cases fed
  | cons line rest ih =>
    unfold feedLines at fed
    split at fed
    next next ran =>
      have first := feedLine_safe settings (tidy line (List.mem_cons_self ..)) sound ran
      exact ih (fun later member => tidy later (List.mem_cons_of_mem _ member)) first.1 fed
    · exact (feedLine_safe settings (tidy line (List.mem_cons_self ..)) sound fed).2 f rfl

theorem runStopping_failing (settings : Settings) {lines : List Line}
    (tidy : ∀ line ∈ lines, line.Tidy) (sound : m.Sound) {last : Machine ε} {stopped : Bool}
    {f : Failure} (ran : runStopping settings lines m = (last, stopped, some f)) :
    Failing last f := by
  induction lines generalizing m with
  | nil => cases ran
  | cons line rest ih =>
    simp only [runStopping] at ran
    split at ran
    next next g fed =>
      cases ran
      exact (feedLine_safe settings (tidy line (List.mem_cons_self ..)) sound fed).2 f rfl
    next next fed =>
      have first := feedLine_safe settings (tidy line (List.mem_cons_self ..)) sound fed
      split at ran
      · cases ran
      · exact ih (fun later member => tidy later (List.mem_cons_of_mem _ member)) first.1 ran

theorem runLines_failing (settings : Settings) {lines : List Line}
    (tidy : ∀ line ∈ lines, line.Tidy) (sound : m.Sound) {last : Machine ε} {f : Failure}
    (ran : runLines settings lines m = (last, .error f)) : Failing last f := by
  unfold runLines at ran
  split at ran
  · split at ran
    next stopped =>
      cases ran
      exact runStopping_failing settings tidy sound stopped
    · cases ran
    · cases ran
  · split at ran
    next fed =>
      cases ran
      exact feedLines_failing settings tidy sound fed
    · cases ran

theorem run_failing (settings : Settings) (source : Text) (filename : Option Text)
    (unfailing : m.surface.medium.Unfailing) {last : Machine ε} {f : Failure}
    (ran : run settings source filename m = (last, .error f)) : Failing last f := by
  have fresh : (reset settings m).Sound :=
    ⟨valid_reset settings m, by simpa [reset, takeColor_medium] using unfailing⟩
  exact runLines_failing settings (fun _ => Line.tidy_of_mem_ofSource) fresh ran

/-- A run on a recording surface gives a result, or it ends at a number with too many digits or
at a triangle of four values whose width no double can hold. -/
theorem run_recording (settings : Settings) (source : Text) (filename : Option Text)
    (state : State) (palette : Palette) (entries : Array Recorded)
    (journal : Array JournalEntry) :
    let ran := run settings source filename ⟨state, ⟨Recording.medium, palette, entries⟩, journal⟩
    (∃ result, ran.2 = .ok result) ∨ ran.2 = .error (.numeral .tooManyDigits) ∨
      ran.2 = .error .tooLarge ∧ ∃ nesting width height x y n,
        ran.1.journal.back? = some ⟨.command .triangle [width, height, x, y], nesting⟩ ∧
        Text.readInteger width = .ok n ∧ truncatedHalf n = none := by
  intro ran
  cases ended : ran.2 with
  | ok result => exact Or.inl ⟨result, rfl⟩
  | error f =>
    have failing : Failing ran.1 f :=
      run_failing settings source filename Recording.unfailing (Prod.ext rfl ended)
    cases failing with
    | digits => exact Or.inr (Or.inl rfl)
    | halving last read large => exact Or.inr (Or.inr ⟨rfl, _, _, _, _, _, _, last, read, large⟩)

/-- A width of four hundred digits has no half that a double could hold. -/
example :
    (match (run {} ("triangle ".toList ++ List.replicate 400 '9' ++ " 1 1 1".toList) none
        (create {} Recording.surface)).2 with
      | .error .tooLarge => true
      | _ => false) = true := by
  decide +kernel

end Machine

end Plotter
