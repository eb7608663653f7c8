import Plotter.Proofs.Machine.Decimals
import Plotter.Proofs.Machine.Gating

/-!
# Drawing commands in the course of a line

A line with a drawing command may be fed, replayed or run by a call, and under an open gate it does
the same each time: its variables are replaced, its words are checked, and the command is performed
(`outcome_of_command`).  The first word is reserved, so no variable has its name, and the command is
the one that the line was classified as.

Three of the commands draw a shape at the position of the pen.  Once their words are read they differ
in nothing but the shape (`Command.shapeAt`), and what is drawn of it is one figure or two
(`drawShape_of_done`).
-/

namespace Plotter

/-- What starts with a keyword cannot be named. -/
theorem isName_of_keyword {word : Text} {keyword : Keyword}
    (found : Keyword.ofWord? word = some keyword) : isName word = false := by
  simp [isName, isReserved, found]

namespace Command

/-- The commands that draw a shape. -/
def drawsShape : Primitive → Bool
  | .rectangle | .circle | .triangle => true
  | _ => false

/-- The shape that a command draws at a position, by the integers that come with it. -/
def shapeAt (position : Point) : Primitive → List Int → Except Failure Shape
  | .rectangle, values =>
    (pair values).map fun (width, height) => .rectangle position (.whole width) (.whole height)
  | .circle, values =>
    (single values).map fun radius =>
      .ellipse position (.whole (radius * 2)) (.whole (radius * 2))
  | .triangle, values =>
    (triangleVertices values).map fun vertices =>
      .polygon (vertices.map fun p => Point.ofInts p.1 p.2)
  | _, _ => .error .valueCount

/-- Integers that cannot be written cannot be read back either. -/
theorem integers_ofInt_of_long {values : List Int} (long : ¬ ∀ v ∈ values, Text.Writable v) :
    integers (values.map Text.ofInt) = .error (.numeral .tooManyDigits) := by
  induction values with
  | nil => exact absurd (List.forall_mem_nil _) long
  | cons v values ih =>
    simp only [List.map_cons, integers, Text.readInteger_ofInt]
    by_cases short : Text.Writable v
    · have later : ¬ ∀ v ∈ values, Text.Writable v := fun all =>
        long (List.forall_mem_cons.mpr ⟨short, all⟩)
      simp only [if_pos short, ih later]
      rfl
    · rw [if_neg short]

end Command

variable {ε : Type}

namespace Machine

open Command

variable {m m₁ m₂ : Machine ε} {nesting n₁ n₂ : Nesting} {line : Line} {primitive : Primitive}
  {arguments : List Text}

/-! ### One command -/

/-- A command is looked up again once the variables are replaced, and it is the same. -/
theorem runCommand_eq (named : ∀ name ∈ m.state.store.names, isName name = true)
    (read : Statement.classify line.text = .ok (.command primitive arguments)) :
    m.runCommand nesting line =
      match Substitution.words m.state.store arguments with
      | .error e => m.fail (.numeral e)
      | .ok replaced =>
        match primitive.check primitive.word replaced with
        | some cause => m.fault line cause
        | none =>
          (m.log nesting (.command primitive replaced)).perform nesting primitive replaced := by
  obtain ⟨word, cut, found⟩ := Statement.words_of_classify read
  have words : line.words = word :: arguments := cut
  have unset := Substitution.get?_of_unnamed named (isName_of_keyword found)
  rw [runCommand, words, Substitution.words_cons_of_unset unset]
  cases Substitution.words m.state.store arguments with
  | error e => rfl
  | ok replaced =>
    simp only [Except.map, found, Keyword.word, checkCommand]
    rfl

theorem perform_shape (m : Machine ε) (nesting : Nesting) (arguments : List Text)
    (draws : drawsShape primitive = true) :
    m.perform nesting primitive arguments =
      m.withValue (integers arguments >>= shapeAt m.state.pen.position primitive)
        (m.drawShape nesting) := by
  -- A shape is made from the same values for which the command is carried out.
  have carried {α : Type} (read : List Int → Except Failure α) (make : α → Shape) :
      (m.withValue (integers arguments >>= read) fun a => m.drawShape nesting (make a)) =
        m.withValue (integers arguments >>= fun values => (read values).map make)
          (m.drawShape nesting) := by
    cases integers arguments with
    | error f => rfl
    | ok values =>
      show m.withValue (read values) _ = m.withValue ((read values).map make) _
      cases read values <;> rfl
  cases primitive with
  | rectangle => exact carried pair _
  | circle => exact carried single _
  | triangle => exact carried triangleVertices _
  | _ => cases draws

/-! ### Shapes -/

theorem drawShape_alike (alike : m₁.Alike m₂) (shape : Shape) :
    (m₁.drawShape n₁ shape).Alike (m₂.drawShape n₂ shape) :=
  Outcome.alike_of_follows (follows_iff_inStep.mpr
    (drawShape_inStep (companions_same _) alike.inStep shape))

theorem withValue_alike {α : Type} (alike : m₁.Alike m₂) (value : Except Failure α)
    {next₁ next₂ : α → Outcome ε} (goesOn : ∀ a, (next₁ a).Alike (next₂ a)) :
    (m₁.withValue value next₁).Alike (m₂.withValue value next₂) := by
  cases value with
  | ok a => exact goesOn a
  | error f => exact ⟨alike, rfl⟩

/-- A shape that is drawn to the end is outlined in the colour of the pen, and filled before that
if shapes are filled. -/
theorem drawShape_of_done {shape : Shape} (done : (m.drawShape nesting shape).stop = none) :
    (m.drawShape nesting shape).machine.surface =
      (m.surface.put .lineColor (.text m.state.pen.color)).drawn
        (shape.figures m.fillsShapes) := by
  rw [drawShape, applyPen, setProperty_eq] at done ⊢
  split
  next accepted => exact (draws_shape (m.putProperty _ _) nesting shape).surface
  next rejected =>
    rw [if_neg rejected] at done
    cases done

end Machine

namespace Task

open Machine Command

variable {settings : Settings} {t : Task ε} {primitive : Primitive} {arguments : List Text}

/-! ### Commands as tasks -/

/-- Where a line is executed under an open gate makes no difference to its command. -/
theorem outcome_of_command (executed : t.Executed) (gate : t.machine.state.gateOpen = true)
    (read : Statement.classify t.line.text = .ok (.command primitive arguments)) :
    t.outcome settings = t.noted.runCommand t.nesting t.line := by
  have opened : t.noted.state.gateOpen = true := by rwa [t.noted_state]
  cases way : t.way with
  | replayed =>
    simp [outcome, runBy, way, classified, read, execute, gate, noted]
  | taken =>
    have idle : t.machine.state.mode = .idle := executed.resolve_left (by simp [way])
    simp only [noted, way, idle] at opened ⊢
    simp [outcome, runBy, way, stepWith, classified, read, idle, start, execute, opened]

theorem noted_alike (t : Task ε) : t.noted.Alike t.machine := by
  refine ⟨t.noted_state, ?_⟩
  unfold noted
  split <;> rfl

section Words

variable (executed : t.Executed) (gate : t.machine.state.gateOpen = true)
  (named : ∀ name ∈ t.machine.state.store.names, isName name = true)
  (read : Statement.classify t.line.text = .ok (.command primitive arguments))

include executed gate named read

theorem outcome_of_unwritten {e : NumeralError}
    (words : Substitution.words t.machine.state.store arguments = .error e) :
    t.outcome settings = t.noted.fail (.numeral e) := by
  rw [outcome_of_command executed gate read, runCommand_eq (by rwa [t.noted_state]) read,
    t.noted_state, words]

theorem outcome_of_words {replaced : List Text}
    (words : Substitution.words t.machine.state.store arguments = .ok replaced)
    (checked : primitive.check primitive.word replaced = none) :
    t.outcome settings =
      (t.noted.log t.nesting (.command primitive replaced)).perform t.nesting primitive
        replaced := by
  rw [outcome_of_command executed gate read, runCommand_eq (by rwa [t.noted_state]) read,
    t.noted_state, words]
  simp only [checked]

theorem outcome_of_unfit {replaced : List Text} {cause : Cause}
    (words : Substitution.words t.machine.state.store arguments = .ok replaced)
    (unfit : primitive.check primitive.word replaced = some cause) :
    t.outcome settings = t.noted.fault t.line cause := by
  rw [outcome_of_command executed gate read, runCommand_eq (by rwa [t.noted_state]) read,
    t.noted_state, words]
  simp only [unfit]

variable (settings) in
/-- A command for a shape draws it, once its words are read. -/
theorem outcome_of_shape (draws : drawsShape primitive = true) {replaced : List Text}
    (words : Substitution.words t.machine.state.store arguments = .ok replaced)
    (checked : primitive.check primitive.word replaced = none) :
    (t.outcome settings).Alike
      (t.machine.withValue
        (integers replaced >>= shapeAt t.machine.state.pen.position primitive)
        (t.machine.drawShape t.nesting)) := by
  have alike : (t.noted.log t.nesting (.command primitive replaced)).Alike t.machine :=
    ⟨t.noted_alike.state, t.noted_alike.surface⟩
  rw [outcome_of_words executed gate named read words checked, perform_shape _ _ _ draws,
    alike.state]
  exact withValue_alike alike _ (drawShape_alike alike)

/-- A command for a shape that is carried out has drawn one. -/
theorem drawn_of_done (draws : drawsShape primitive = true)
    (done : (t.outcome settings).stop = none) :
    ∃ replaced values shape,
      Substitution.words t.machine.state.store arguments = .ok replaced ∧
      integers replaced = .ok values ∧
      shapeAt t.machine.state.pen.position primitive values = .ok shape ∧
      (t.outcome settings).machine.surface =
        (t.machine.surface.put .lineColor (.text t.machine.state.pen.color)).drawn
          (shape.figures t.machine.fillsShapes) := by
  cases words : Substitution.words t.machine.state.store arguments with
  | error e =>
    rw [outcome_of_unwritten executed gate named read words] at done
    cases done
  | ok replaced =>
    cases checked : primitive.check primitive.word replaced with
    | some cause =>
      rw [outcome_of_unfit executed gate named read words checked] at done
      cases done
    | none =>
      have alike := outcome_of_shape settings executed gate named read draws words checked
      rw [alike.stop] at done
      cases taken : integers replaced >>= shapeAt t.machine.state.pen.position primitive with
      | error f =>
        rw [taken] at done
        cases done
      | ok shape =>
        obtain ⟨values, numbers, made⟩ := bind_eq_ok taken
        rw [taken] at done alike
        refine ⟨replaced, values, shape, rfl, numbers, made, ?_⟩
        rw [alike.machine.surface]
        exact drawShape_of_done done

end Words

variable (settings) in
/-- A command for a shape whose words are decimal forms. -/
theorem outcome_of_integers {word : Text} {values : List Int} (executed : t.Executed)
    (gate : t.machine.state.gateOpen = true)
    (named : ∀ name ∈ t.machine.state.store.names, isName name = true) (tidy : t.line.Tidy)
    (words : t.line.words = word :: values.map Text.ofInt)
    (found : Keyword.ofWord? word = some (.command primitive))
    (draws : drawsShape primitive = true)
    (checked : primitive.check primitive.word (values.map Text.ofInt) = none) :
    (t.outcome settings).Alike
      (if ∀ v ∈ values, Text.Writable v then
        t.machine.withValue (shapeAt t.machine.state.pen.position primitive values)
          (t.machine.drawShape t.nesting)
      else t.machine.fail (.numeral .tooManyDigits)) := by
  have read := Statement.classify_of_spelled tidy.trimmed words found
  have drawn := outcome_of_shape settings executed gate named read draws
    (Substitution.words_ofInt named values) checked
  split
  next short =>
    rw [integers_ofInt short] at drawn
    exact drawn
  next long =>
    rw [integers_ofInt_of_long long] at drawn
    exact drawn

end Task

end Plotter
