import Plotter.Proofs.Machine.Parallel

/-!
# Recorded drawings are well formed

The colour of the pen, the line colour of the surface and its brush are three copies of one
colour, unless the brush is transparent, and then it stays so.  A new pen changes all of them, and
so does the start of a run; nothing else touches one without the others.  What is recorded under
such colours comes in gestures: a clearing, a line, an outline, or a filling right before the
outline of the same shape.

The surface of a machine is followed here through a whole run as that of a machine in step with
itself, so runs that fail are not left out.
-/

namespace Plotter

/-! ### Properties of one surface -/

/-- A property of a surface, under a pen of the given colour, that is kept by all that a machine
does to its surface. -/
structure Attended {ε : Type} (Q : Text → Surface ε → Prop) : Prop where
  penned : ∀ {color s}, Q color s → Q color (s.put .lineColor (.text color))
  colored : ∀ {color s}, Q color s → ∀ next : PenColor, Q next.word (s.colored next)
  line : ∀ {color s}, Q color s → ∀ start stop : Point, Q color (s.drawn [.line start stop])
  shape : ∀ {color s}, Q color s → ∀ (filling : Bool) (shape : Shape),
    Q color (s.drawn (shape.figures (filling && s.palette.fill.isPresent)))
  cleared : ∀ {color s}, Q color s → Q color s.clear.1

/-- Nothing is excused. -/
def Excuses.nothing : Excuses Failure where
  first _ := False
  second _ := False

theorem Attended.companions {ε : Type} {Q : Text → Surface ε → Prop} (attended : Attended Q) :
    Companions Excuses.nothing.stops fun color s₁ s₂ => s₁ = s₂ ∧ Q color s₁ where
  penned := by
    rintro color s _ ⟨rfl, holds⟩
    exact ⟨rfl, attended.penned holds⟩
  colored := by
    rintro color s _ ⟨rfl, holds⟩ next
    exact ⟨rfl, attended.colored holds next⟩
  line := by
    rintro color s _ ⟨rfl, holds⟩ start stop
    exact .both ⟨rfl, attended.line holds start stop⟩ _
  shape := by
    rintro color s _ ⟨rfl, holds⟩ filling shape
    exact .both ⟨rfl, attended.shape holds filling shape⟩ _
  cleared := by
    rintro color s _ ⟨rfl, holds⟩
    exact ⟨rfl, attended.cleared holds⟩

theorem Attended.run {ε : Type} {Q : Text → Surface ε → Prop} (attended : Attended Q)
    (settings : Settings) (source : Text) (filename : Option Text) {m : Machine ε}
    (initially : Q settings.penColor.word (m.surface.colored settings.penColor)) :
    let ended := (Machine.run settings source filename m).1
    Q ended.state.pen.color ended.surface := by
  have runs := Machine.run_inStep attended.companions settings source filename m m
    ⟨rfl, initially⟩
  exact (runs.related (fun _ _ => id) (fun _ _ => id)).1.surface.2

/-! ### Gestures -/

/-- What a script can ask a surface for at once. -/
inductive Gesture where
  | clear
  | line (start stop : Point)
  | outlined (shape : Shape)
  | filled (shape : Shape)

/-- A filled shape is also outlined, right after it has been filled. -/
def Gesture.operations : Gesture → List Operation
  | .clear => [.clear]
  | .line start stop => [.figure (.line start stop)]
  | .outlined shape => [.figure (.outline shape)]
  | .filled shape => [.figure (.fill shape), .figure (.outline shape)]

/-- A transparent brush fills nothing. -/
def Gesture.FitsBrush (transparent : Bool) : Gesture → Prop
  | .filled _ => transparent = false
  | _ => True

/-- The line colour is that of a pen, and so is the brush unless it is transparent. -/
structure Recorded.Coherent (transparent : Bool) (r : Recorded) : Prop where
  line : ∃ color : PenColor, r.line = .text color.word
  fill : r.fill = if transparent then .bool false else r.line

/-- Operations that make up the given gestures. -/
structure Composed (transparent : Bool) (gestures : List Gesture) (operations : List Recorded) :
    Prop where
  made : operations.map Recorded.operation = gestures.flatMap Gesture.operations
  brush : ∀ g ∈ gestures, g.FitsBrush transparent
  coherent : ∀ r ∈ operations, r.Coherent transparent

namespace Composed

variable {transparent : Bool} {gestures : List Gesture} {operations : List Recorded}

theorem nil : Composed transparent [] [] := ⟨rfl, by simp, by simp⟩

/-- One more gesture, recorded under coherent colours. -/
theorem concat (composed : Composed transparent gestures operations) {g : Gesture}
    (brush : g.FitsBrush transparent) {palette : Palette}
    (coherent : ∀ operation, (palette.record operation).Coherent transparent) :
    Composed transparent (gestures ++ [g]) (operations ++ g.operations.map palette.record) := by
  refine ⟨?_, ?_, ?_⟩
  · have recorded : Recorded.operation ∘ palette.record = id := rfl
    simp [composed.made, recorded]
  · intro other member
    rcases List.mem_append.mp member with before | last
    · exact composed.brush other before
    · cases List.mem_singleton.mp last
      exact brush
  · intro r member
    rcases List.mem_append.mp member with before | last
    · exact composed.coherent r before
    · obtain ⟨operation, _, rfl⟩ := List.mem_map.mp last
      exact coherent operation

theorem unfilled (composed : Composed true gestures operations) {r : Recorded}
    (member : r ∈ operations) (shape : Shape) : r.operation ≠ .figure (.fill shape) := by
  intro filling
  have recorded : r.operation ∈ gestures.flatMap Gesture.operations := by
    rw [← composed.made]
    exact List.mem_map_of_mem member
  obtain ⟨g, inGestures, inOperations⟩ := List.mem_flatMap.mp recorded
  have fits := composed.brush g inGestures
  rw [filling] at inOperations
  cases g with
  | filled shape => cases fits
  | _ => simp [Gesture.operations] at inOperations

end Composed

/-! ### Recorders -/

/-- The surface has the colour of the pen, and what has been recorded on it since then came in
gestures. -/
structure Surface.Tended (earlier : List Recorded) (transparent : Bool) (color : Text)
    (s : Surface Recorded) : Prop where
  recording : s.medium = Recording.medium
  pen : ∃ known : PenColor, color = known.word
  line : s.palette.line = .text color
  fill : s.palette.fill = if transparent then .bool false else .text color
  drawing : ∃ gestures operations, s.entries.toList = earlier ++ operations ∧
    Composed transparent gestures operations

namespace Surface

variable {earlier : List Recorded} {transparent : Bool} {color : Text} {s : Surface Recorded}

/-- A new pen brings all colours together again. -/
theorem tended_colored (recording : s.medium = Recording.medium)
    (brush : s.palette.fill.isFalse = transparent)
    (drawing : ∃ gestures operations, s.entries.toList = earlier ++ operations ∧
      Composed transparent gestures operations) (next : PenColor) :
    Tended earlier transparent next.word (s.colored next) := by
  rw [colored_eq, brush]
  exact ⟨recording, ⟨next, rfl⟩, rfl, rfl, drawing⟩

namespace Tended

theorem isFalse_fill (tended : s.Tended earlier transparent color) :
    s.palette.fill.isFalse = transparent := by
  rw [tended.fill]
  cases transparent <;> rfl

theorem gesture (tended : s.Tended earlier transparent color) {g : Gesture}
    (brush : g.FitsBrush transparent) :
    Tended earlier transparent color
      { s with entries := s.entries ++ g.operations.map s.palette.record } := by
  have coherent (operation : Operation) :
      (s.palette.record operation).Coherent transparent := by
    obtain ⟨known, named⟩ := tended.pen
    refine ⟨⟨known, ?_⟩, ?_⟩
    · exact named ▸ tended.line
    · simp only [Palette.record, tended.line, tended.fill]
  obtain ⟨gestures, operations, entries, composed⟩ := tended.drawing
  refine ⟨tended.recording, tended.pen, tended.line, tended.fill, ?_⟩
  refine ⟨_, _, ?_, composed.concat brush coherent⟩
  simp [entries]

end Tended

theorem attended_tended (earlier : List Recorded) (transparent : Bool) :
    Attended (Tended earlier transparent) where
  penned tended := ⟨tended.recording, tended.pen, rfl, tended.fill, tended.drawing⟩
  colored tended next := tended_colored tended.recording tended.isFalse_fill tended.drawing next
  line tended start stop := by
    rw [Recording.drawn_eq tended.recording]
    exact tended.gesture (g := .line start stop) trivial
  shape := by
    intro color s tended filling shape
    rw [Recording.drawn_eq tended.recording]
    cases filled : filling && s.palette.fill.isPresent with
    | false => exact tended.gesture (g := .outlined shape) trivial
    | true =>
      -- The brush is there, so it is not transparent.
      have present : s.palette.fill.isPresent = true := by simp_all
      have brushed : transparent = false := by
        cases transparent with
        | false => rfl
        | true =>
          rw [tended.fill] at present
          cases present
      exact tended.gesture (g := .filled shape) brushed
  cleared tended := by
    rw [Recording.clear_eq tended.recording]
    exact tended.gesture (g := .clear) trivial

end Surface

namespace Machine

/-- Whatever a script is, and however its run ends, what it leaves on a recorder came in gestures,
under the colour of a pen; the brush has the same colour, unless it was transparent before, and
then it stays so and nothing is filled.  At the end the surface has the colour of the pen. -/
theorem recorded_in_gestures (settings : Settings) (source : Text) (filename : Option Text)
    {m : Machine Recorded} (recording : m.surface.medium = Recording.medium) :
    let transparent := m.surface.palette.fill.isFalse
    let ended := (run settings source filename m).1
    (∃ (gestures : List Gesture) (operations : List Recorded),
      ended.surface.entries.toList = m.surface.entries.toList ++ operations ∧
      operations.map Recorded.operation = gestures.flatMap Gesture.operations ∧
      (∀ r ∈ operations, (∃ color : PenColor, r.line = .text color.word) ∧
        r.fill = if transparent then .bool false else r.line) ∧
      (transparent = true → ∀ r ∈ operations, ∀ shape, r.operation ≠ .figure (.fill shape))) ∧
    ended.surface.palette.line = .text ended.state.pen.color := by
  intro transparent ended
  have tended : ended.surface.Tended m.surface.entries.toList transparent
      ended.state.pen.color := by
    refine (Surface.attended_tended _ _).run settings source filename ?_
    refine Surface.tended_colored recording rfl ⟨[], [], ?_, .nil⟩ settings.penColor
    simp
  obtain ⟨gestures, operations, entries, composed⟩ := tended.drawing
  refine ⟨⟨gestures, operations, entries, composed.made, ?_, ?_⟩, tended.line⟩
  · intro r member
    have coherent := composed.coherent r member
    exact ⟨coherent.line, coherent.fill⟩
  · intro isTransparent r member
    rw [isTransparent] at composed
    exact composed.unfilled member

/-- The fill mode is on, and the brush is transparent. -/
theorem recorded_in_gestures_transparent :
    let source : Text := "pen red\nrectangle 2 3\nclear\ndrawto 1 1".toList
    let m : Machine Recorded :=
      { surface := { Recording.surface with palette := { fill := .bool false } } }
    let ended := (run {} source none m).1
    ended.surface.entries.size = 3 ∧
    ∃ (gestures : List Gesture) (operations : List Recorded),
      ended.surface.entries.toList = operations ∧
      operations.map Recorded.operation = gestures.flatMap Gesture.operations ∧
      ∀ r ∈ operations, ∀ shape, r.operation ≠ .figure (.fill shape) := by
  intro source m ended
  obtain ⟨gestures, operations, entries, made, _, unfilled⟩ :=
    (recorded_in_gestures {} source none (m := m) rfl).1
  refine ⟨by decide +kernel, gestures, operations, ?_, made, unfilled rfl⟩
  rw [entries]
  rfl

end Machine

end Plotter
