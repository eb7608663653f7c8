import Plotter.Proofs.Machine.Feeding
import Plotter.Proofs.Script.Expansion

/-!
# The invariant of the machine

`State.Valid` says what holds of the state between two operations of a host: names are names, the
methods are stored under their own names and their lines are tidy, the open block holds no line
of its own kind, and the pen has one of its four colours.

Every move keeps it.  What a line moves is tidy whether it was typed, replayed or produced by a
call, because an argument that replaces a parameter is never empty and holds no blank.  So the
invariant guards the lines of the machine, and it holds wherever a host can get to, also after a
fault and after a failure that cut a line short.
-/

namespace Plotter

/-- Names for a method and for its parameters, which are pairwise distinct. -/
structure Header.Valid (h : Header) : Prop where
  name : isName h.name = true
  parameters : ∀ p ∈ h.parameters, isName p = true
  distinct : h.parameters.Nodup

/-- A method that could have been defined. -/
structure Method.Valid (m : Method) : Prop where
  header : Header.Valid ⟨m.name, m.parameters⟩
  body : ∀ line ∈ m.body, line.Tidy ∧ line.isOf .method = false

/-- A block holds no line of its own kind, and one with inner blocks is discarded. -/
structure Block.Valid {α : Type} (kind : BlockKind) (b : Block α) : Prop where
  body : ∀ line ∈ b.body, line.Tidy ∧ line.isOf kind = false
  nested : 0 < b.nested → b.discarded = true

/-- A method without a header is discarded. -/
structure Block.Headed (b : Block (Option Header)) : Prop where
  discarded : b.header = none → b.discarded = true
  header : ∀ h, b.header = some h → h.Valid

def Mode.Valid : Mode → Prop
  | .idle => True
  | .loop block => (0 : Int) ≤ block.header ∧ block.Valid .loop
  | .method block => block.Headed ∧ block.Valid .method

/-- What holds of the state between two operations. -/
structure State.Valid (s : State) : Prop where
  names : ∀ name ∈ s.store.names, isName name = true
  methods : ∀ entry ∈ s.methods.entries, entry.1 = entry.2.name ∧ entry.2.Valid
  block : s.mode.Valid
  color : s.pen.color ∈ PenColor.all.map PenColor.word

/-! ### Moves -/

section Turns

variable {α : Type} {kind : BlockKind} {block next : Block α}

private theorem Block.Turn.header_eq {fits : Line → Prop} (turn : Block.Turn fits kind block next) :
    next.header = block.header := by
  cases turn with
  | keep =>
    unfold Block.keep
    split <;> rfl
  | deepen => rfl
  | raise => rfl

private theorem Block.Turn.discarded {fits : Line → Prop} (turn : Block.Turn fits kind block next)
    (already : block.discarded = true) : next.discarded = true := by
  cases turn with
  | keep => simp [Block.keep, already]
  | deepen => rfl
  | raise => exact already

private theorem Block.Turn.valid (turn : Block.Turn Line.Tidy kind block next)
    (valid : block.Valid kind) : next.Valid kind := by
  cases turn with
  | keep tidy other =>
    unfold Block.keep
    split
    · exact valid
    · refine ⟨fun kept member => ?_, valid.nested⟩
      rcases List.mem_append.mp member with earlier | last
      · exact valid.body kept earlier
      · rw [List.mem_singleton.mp last]
        exact ⟨tidy, other⟩
  | deepen => exact ⟨valid.body, fun _ => rfl⟩
  | raise inner => exact ⟨valid.body, fun _ => valid.nested inner⟩

private theorem Mode.Turn.valid {mode mode' : Mode} (turn : Mode.Turn Line.Tidy mode mode')
    (valid : mode.Valid) : mode'.Valid := by
  cases turn with
  | openLoop fit opens count discarded =>
    exact ⟨Int.natCast_nonneg count, by simp, by simp⟩
  | openMethod fit opens =>
    -- The header has been read from the line, or there is none and the block is discarded.
    refine ⟨⟨by simp, fun header parsed => ?_⟩, by simp, by simp⟩
    obtain ⟨name, parameters, distinct⟩ := Header.names_of_parse? parsed
    exact ⟨name, parameters, distinct⟩
  | loop turn => exact ⟨Int.natCast_nonneg _, turn.valid valid.2⟩
  | method turn =>
    refine ⟨⟨fun absent => ?_, fun header named => ?_⟩, turn.valid valid.2⟩
    · exact turn.discarded (valid.1.discarded (turn.header_eq ▸ absent))
    · exact valid.1.header header (turn.header_eq ▸ named)
  | close => trivial

end Turns

theorem PenColor.word_mem (color : PenColor) : color.word ∈ all.map word := by
  cases color <;> decide

namespace Machine

variable {ε : Type} {m m' : Machine ε}

theorem Move.valid (valid : m.state.Valid) (move : Move Line.Tidy m m') : m'.state.Valid := by
  cases move with
  | log | applyPen | draw | clear => exact valid
  | push | pop | truncate => exact { valid with }
  | pen pen sameColor => exact { valid with color := sameColor ▸ valid.color }
  | color color =>
    rw [takeColor_state]
    exact { valid with color := color.word_mem }
  | assign tidy read value =>
    refine { valid with names := fun name member => ?_ }
    obtain ⟨entry, stored, rfl⟩ := List.mem_map.mp member
    rcases Dictionary.mem_entries_set stored with rfl | earlier
    · exact Statement.isName_of_classify tidy.trimmed read
    · exact valid.names _ (List.mem_map_of_mem earlier)
  | turn turned => exact { valid with block := turned.valid valid.block }
  | define collected named =>
    -- What is stored is the block that was open, under the name in its header.
    have block := valid.block
    rw [collected] at block
    refine { valid with methods := fun entry member => ?_, block := trivial }
    rcases Dictionary.mem_entries_set member with rfl | earlier
    · exact ⟨rfl, block.1.header _ named, block.2.body⟩
    · exact valid.methods entry earlier

/-- A stored method is found under its own name. -/
theorem valid_of_get? (valid : m.state.Valid) {name : Text} {method : Method}
    (found : m.state.methods.get? name = some method) : name = method.name ∧ method.Valid :=
  valid.methods _ (Dictionary.mem_of_get? found)

theorem guarded_valid : Guarded Line.Tidy fun m : Machine ε => m.state.Valid where
  kept := Move.valid
  expands valid tidy read found := by
    -- Arguments are visible, so the lines of the method stay trimmed and do not become empty.
    have visible := Call.isVisible_of_parse? (Statement.parse_of_classify read)
    have body := (valid_of_get? valid found).2.body
    exact Method.tidy_of_mem_linesAt (fun line member => (body line member).1) visible _
  collected valid mode := by
    have block := valid.block
    rw [mode] at block
    exact fun line member => (block.2.body line member).1

/-! ### Operations of a host -/

theorem valid_reportFault (valid : m.state.Valid) (nesting : Nesting) (d : Diagnostic) :
    (m.reportFault nesting d).state.Valid :=
  { valid with }

theorem valid_feedLine (valid : m.state.Valid) (settings : Settings) {line : Line}
    (tidy : line.Tidy) : (feedLine settings line m).1.state.Valid := by
  have taken : (take settings line m).machine.state.Valid :=
    guarded_valid.step _ _ tidy {} valid
  unfold feedLine settled
  split
  · exact taken
  · exact valid_reportFault taken {} _
  · exact taken

theorem valid_feedLines (valid : m.state.Valid) (settings : Settings) {lines : List Line}
    (tidy : ∀ line ∈ lines, line.Tidy) : (feedLines settings lines m).1.state.Valid :=
  feedLines_keeps (P := fun m => m.state.Valid)
    (fun line member _ valid => valid_feedLine valid settings (tidy line member)) valid

/-- The lines of a piece of input are tidy. -/
theorem tidy_of_mem_typedLines {text : Text} {number : Option Int} {line : Line}
    (member : line ∈ typedLines text number) : line.Tidy := by
  simp only [typedLines] at member
  split at member
  · exact Line.tidy_of_mem_ofSource member
  · exact Line.tidy_of_mem_ofSource member
  · obtain ⟨source, found, rfl⟩ := List.mem_map.mp member
    have tidy := Line.tidy_of_mem_ofSource found
    exact ⟨tidy.trimmed, tidy.nonempty⟩

theorem valid_discardBlocks (valid : m.state.Valid) :
    (m.modifyState State.discardBlocks).state.Valid :=
  { valid with block := trivial }

theorem valid_finish (valid : m.state.Valid) : m.finish.state.Valid := by
  rw [finish_state]
  exact { valid with block := trivial }

theorem valid_reset (settings : Settings) (m : Machine ε) : (reset settings m).state.Valid := by
  rw [reset, takeColor_state]
  exact ⟨by simp [Dictionary.names, Dictionary.empty], by simp [Dictionary.empty], trivial,
    settings.penColor.word_mem⟩

theorem valid_runLines (valid : m.state.Valid) (settings : Settings) {lines : List Line}
    (tidy : ∀ line ∈ lines, line.Tidy) : (runLines settings lines m).1.state.Valid := by
  refine runLines_keeps (P := fun m => m.state.Valid) ?_ (fun _ _ valid => valid)
    (fun _ => valid_finish) (fun _ => valid_discardBlocks) valid
  exact fun line member _ valid => valid_feedLine valid settings (tidy line member)

theorem valid_setProperty (valid : m.state.Valid) (property : Property) (v : Value) :
    (m.setProperty property v).machine.state.Valid := by
  unfold setProperty
  split <;> exact valid

/-- The machines that a host can get to.  A failure leaves the machine as it was when it
happened, and the host goes on with it. -/
inductive Reachable (settings : Settings) : Machine ε → Prop
  | created (surface : Surface ε) : Reachable settings (create settings surface)
  | line {m : Machine ε} {line : Line} (earlier : Reachable settings m) (tidy : line.Tidy) :
      Reachable settings (feedLine settings line m).1
  | fed {m : Machine ε} (earlier : Reachable settings m) (text : Text) (number : Option Int) :
      Reachable settings (feed settings text number m).1
  | ran {m : Machine ε} (earlier : Reachable settings m) (source : Text)
      (filename : Option Text) : Reachable settings (run settings source filename m).1
  | finished {m : Machine ε} (earlier : Reachable settings m) : Reachable settings m.finish
  | reset {m : Machine ε} (earlier : Reachable settings m) :
      Reachable settings (reset settings m)
  | set {m : Machine ε} (earlier : Reachable settings m) (property : Property) (v : Value) :
      Reachable settings (m.setProperty property v).machine

theorem Reachable.valid {settings : Settings} (reachable : Reachable settings m) :
    m.state.Valid := by
  induction reachable with
  | created surface => exact valid_reset settings _
  | line _ tidy ih => exact valid_feedLine ih settings tidy
  | fed _ text number ih => exact valid_feedLines ih settings fun _ => tidy_of_mem_typedLines
  | ran _ source filename _ =>
    -- A run starts from a fresh state, so what was there before does not matter.
    exact valid_runLines (valid_reset settings _) settings fun _ => Line.tidy_of_mem_ofSource
  | finished _ ih => exact valid_finish ih
  | reset _ _ => exact valid_reset settings _
  | set _ property v ih => exact valid_setProperty ih property v

end Machine

end Plotter
