import Plotter.Proofs.Machine.Collecting
import Plotter.Proofs.Machine.Validity

/-!
# Loops are their repetitions

A loop whose lines are no block lines of loops and methods does what its lines do when they are
written out as often as its count says, up to the first diagnostic.  A replayed line is executed
under another nesting than a line that is fed, and the nesting matters only to lines that open
loops.  Such a line could still come out of a method that the loop calls, so the methods must be
*flat*: none of their lines opens or closes a loop, and none starts with a parameter, which a call
could turn into a keyword.

Plain lines keep the machine idle and the methods as they are, so what is known of the methods at
the head of the loop holds all along the replay.
-/

namespace Plotter

/-- A line that neither opens nor closes a loop or a method. -/
structure Line.Plain (line : Line) : Prop where
  loop : line.isOf .loop = false
  method : line.isOf .method = false

/-- A method whose calls run plain lines. -/
structure Method.Flat (m : Method) : Prop where
  loopless : ∀ line ∈ m.body, line.isOf .loop = false
  /-- No argument of a call becomes the first word of a line. -/
  steady : ∀ line ∈ m.body, ∀ word ∈ line.words.head?, word ∉ m.parameters

instance (line : Line) : Decidable line.Plain :=
  decidable_of_iff (line.isOf .loop = false ∧ line.isOf .method = false)
    ⟨fun plain => ⟨plain.1, plain.2⟩, fun plain => ⟨plain.loop, plain.method⟩⟩

instance (m : Method) : Decidable m.Flat :=
  decidable_of_iff ((∀ line ∈ m.body, line.isOf .loop = false) ∧
      ∀ line ∈ m.body, ∀ word ∈ line.words.head?, word ∉ m.parameters)
    ⟨fun flat => ⟨flat.1, flat.2⟩, fun flat => ⟨flat.loopless, flat.steady⟩⟩

theorem Method.plain_of_mem_linesAt {method : Method} (valid : method.Valid) (flat : method.Flat)
    {arguments : List Text} (visible : ∀ a ∈ arguments, a.isVisible = true) (site : Line) :
    ∀ line ∈ method.linesAt arguments site, line.Plain := by
  intro line member
  obtain ⟨source, inBody, rfl⟩ := List.mem_map.mp member
  obtain ⟨_, notMethod⟩ := valid.body source inBody
  have kept : (source.expanded (method.binding arguments) site).keyword? = source.keyword? := by
    refine Line.keyword?_expanded (visibleValues_binding visible) ?_ site
    exact fun word first => get?_binding_of_notMem (flat.steady source inBody word first)
  have same (kind : BlockKind) :
      (source.expanded (method.binding arguments) site).isOf kind = source.isOf kind := by
    simp only [Line.isOf, kept]
  exact ⟨(same .loop).trans (flat.loopless source inBody), (same .method).trans notMethod⟩

namespace Machine

variable {ε : Type} {settings : Settings} {m next : Machine ε}

/-- Idle, with the given methods. -/
structure IdleWith (methods : Dictionary Method) (m : Machine ε) : Prop where
  mode : m.state.mode = .idle
  methods : m.state.methods = methods

/-- Plain lines open no block. -/
theorem IdleWith.move {methods : Dictionary Method} {m' : Machine ε} (idle : m.IdleWith methods)
    (move : Move Line.Plain m m') : m'.IdleWith methods := by
  obtain ⟨mode, same⟩ := idle
  cases move with
  | turn turned =>
    rw [mode] at turned
    cases turned with
    -- A move that opens a block comes from a line that is not plain.
    | openLoop plain opens =>
      exact absurd (Line.isOf_of_opens opens) (Bool.eq_false_iff.mp plain.loop)
    | openMethod plain opens =>
      exact absurd (Line.isOf_of_opens opens) (Bool.eq_false_iff.mp plain.method)
    | close => exact ⟨rfl, same⟩
  | define collected =>
    rw [mode] at collected
    cases collected
  | color => exact ⟨by rw [takeColor_state]; exact mode, by rw [takeColor_state]; exact same⟩
  | _ => exact ⟨mode, same⟩

theorem guarded_plain {methods : Dictionary Method}
    (valid : ∀ entry ∈ methods.entries, entry.2.Valid)
    (flat : ∀ entry ∈ methods.entries, entry.2.Flat) :
    Guarded Line.Plain fun m : Machine ε => m.IdleWith methods where
  kept := IdleWith.move
  expands idle _ read found := by
    have member := Dictionary.mem_of_get? (idle.methods ▸ found)
    exact Method.plain_of_mem_linesAt (valid _ member) (flat _ member)
      (Call.isVisible_of_parse? (Statement.parse_of_classify read)) _
  collected idle collected := by
    rw [idle.mode] at collected
    cases collected

/-! ### The lines of a loop -/

/-- A header with a count opens a loop under an open gate. -/
theorem feedLine_header {header : Line} {arguments : List Text} {rounds : Nat}
    (idle : m.state.mode = .idle) (gate : m.state.gateOpen = true)
    (opens : Statement.classify header.text = .ok (.block .loop false arguments))
    (counted : Evaluation.loopCount m.state.store arguments = .ok rounds)
    (fed : feedLine settings header m = (next, none)) :
    next.Alike (m.inMode (.loop { header := rounds, openedAt := header })) :=
  (leads_of_loop_counted settings idle gate opens counted).alike_of_fed fed

/-- A line of a loop is kept. -/
theorem feedLine_kept {line : Line} {block : Block Nat} (looping : m.state.mode = .loop block)
    (kept : block.discarded = false) (inside : line.isOf .loop = false)
    (fed : feedLine settings line m = (next, none)) :
    next.Alike (m.inMode (.loop { block with body := block.body ++ [line] })) := by
  cases read : Statement.classify line.text with
  | error f => simp [feedLine, settled, take_eq, stepWith, classified, read, fail, stopWith] at fed
  | ok statement =>
    have collected := (Collects.keep (collects_loop settings) looping read inside).alike_of_fed fed
    simpa [Block.keep, kept] using collected

theorem feedLines_kept {lines : List Line} {block : Block Nat}
    (looping : m.state.mode = .loop block) (kept : block.discarded = false)
    (inside : ∀ line ∈ lines, line.isOf .loop = false)
    (fed : feedLines settings lines m = (next, none)) :
    next.Alike (m.inMode (.loop { block with body := block.body ++ lines })) := by
  induction lines generalizing m block with
  | nil =>
    cases fed
    rw [inMode_self (by simpa using looping)]
    exact ⟨rfl, rfl⟩
  | cons line rest ih =>
    obtain ⟨middle, first, later⟩ := feedLines_cons fed
    have collected := feedLine_kept looping kept (inside line (List.mem_cons_self ..)) first
    have longer : middle.state.mode = .loop { block with body := block.body ++ [line] } := by
      rw [collected.state]
      rfl
    have last := ih longer kept (fun line member => inside line (List.mem_cons_of_mem _ member))
      later
    simpa using last.trans (collected.inMode _)

/-- The closing line replays the loop. -/
theorem take_closing {closing : Line} {arguments : List Text} {block : Block Nat}
    (looping : m.state.mode = .loop block) (kept : block.discarded = false)
    (outermost : block.nested = 0)
    (closes : Statement.classify closing.text = .ok (.block .loop true arguments)) :
    take settings closing m =
      closeLoop (inner settings.maxCallDepth.text settings.maxCallDepth.toNat)
        settings.maxCallDepth.text {} block
        (m.log {} (.line .collectingLoop closing.text)) := by
  simp [take_eq, stepWith, classified, closes, looping, collect, kept, outermost, Mode.activity]

/-! ### Replays -/

theorem start_of_plain {deeper : Option (Runner ε)} {limit : Text} {nesting : Nesting}
    {line : Line} {statement : Statement} (plain : line.Plain)
    (read : Statement.classify line.text = .ok statement) (m : Machine ε) :
    start deeper limit nesting line statement m =
      execute deeper limit nesting line statement m := by
  have notLoop : statement.isOf .loop = false := by rw [Statement.isOf_classify read, plain.loop]
  have notMethod : statement.isOf .method = false := by
    rw [Statement.isOf_classify read, plain.method]
  unfold start
  split
  · simp [Statement.isOf] at notMethod
  · simp [Statement.isOf] at notMethod
  · simp [Statement.isOf] at notLoop
  · rfl

/-- A plain line that is replayed does what it does when it is fed. -/
theorem replayLine_follows {methods : Dictionary Method}
    (valid : ∀ entry ∈ methods.entries, entry.2.Valid)
    (flat : ∀ entry ∈ methods.entries, entry.2.Flat) {line : Line} (plain : line.Plain)
    {nesting : Nesting} {m₁ m₂ : Machine ε} (idle : m₁.IdleWith methods) (alike : m₁.Alike m₂) :
    Outcome.Follows (fun _ => False)
      (classified line m₁ fun statement =>
        execute (inner settings.maxCallDepth.text settings.maxCallDepth.toNat)
          settings.maxCallDepth.text nesting line statement m₁)
      (take settings line m₂) := by
  have idle₂ : m₂.state.mode = .idle := by rw [← alike.state, idle.mode]
  rw [take_eq]
  simp only [stepWith, classified, idle₂]
  split
  next statement read =>
    rw [start_of_plain plain read]
    have guarded : Guarded Line.Plain fun m : Machine ε => m.IdleWith methods :=
      guarded_plain valid flat
    exact execute_follows guarded plain read (Or.inr fun _ plain => plain.loop) idle
      ⟨alike.state, alike.surface⟩
  · exact alike.stopWith _

/-- The replay of a loop and its lines written out end alike, and the replay stays idle. -/
theorem replay_alike (settings : Settings) {methods : Dictionary Method}
    (valid : ∀ entry ∈ methods.entries, entry.2.Valid)
    (flat : ∀ entry ∈ methods.entries, entry.2.Flat) {body : List Line}
    (plain : ∀ line ∈ body, line.Plain) (nesting : Nesting) (rounds : Nat) {m₁ m₂ : Machine ε}
    (idle : m₁.IdleWith methods) (alike : m₁.Alike m₂) :
    let replayed := repeated (replayOnce
      (inner settings.maxCallDepth.text settings.maxCallDepth.toNat) settings.maxCallDepth.text
      nesting body) rounds m₁
    replayed.Alike (runAll (take settings) (List.replicate rounds body).flatten m₂) ∧
      replayed.machine.IdleWith methods := by
  have guarded : Guarded Line.Plain fun m : Machine ε => m.IdleWith methods :=
    guarded_plain valid flat
  have each : ∀ line ∈ (List.replicate rounds body).flatten, line.Plain := by
    intro line member
    obtain ⟨lines, repetition, inside⟩ := List.mem_flatten.mp member
    exact plain line (List.eq_of_mem_replicate repetition ▸ inside)
  -- Rounds of lines are one run of the lines written out, which is compared line by line.
  intro replayed
  have unrolled : replayed = _ := repeated_runAll _ body rounds m₁
  rw [unrolled]
  have moves {line : Line} (plain : line.Plain) {m : Machine ε} (idle : m.IdleWith methods) :
      Moves Line.Plain m (classified line m fun statement =>
        execute (inner settings.maxCallDepth.text settings.maxCallDepth.toNat)
          settings.maxCallDepth.text nesting line statement m).machine :=
    replayLine_moves guarded (callsMove_inner guarded _ _) plain nesting idle
  constructor
  · refine Outcome.alike_of_follows
      (runAll_follows (P := fun m => m.IdleWith methods) ?_ ?_ idle alike)
    · exact fun line member m idle => (moves (each line member) idle).invariant guarded.kept idle
    · exact fun line member m₁ m₂ idle alike =>
        replayLine_follows valid flat (each line member) idle alike
  · refine (runAll_moves guarded.kept ?_ idle).invariant guarded.kept idle
    exact fun line member m idle => moves (each line member) idle

/-- A loop does what its lines do when they are written out as often as its count says and fed up
to the first diagnostic; a diagnostic also closes the conditionals that were opened since the
header. -/
theorem loop_unrolling (reachable : Reachable settings m) (idle : m.state.mode = .idle)
    (gate : m.state.gateOpen = true) (flat : ∀ entry ∈ m.state.methods.entries, entry.2.Flat)
    {header closing : Line} {body : List Line} {opening ending : List Text} {rounds : Nat}
    (opens : Statement.classify header.text = .ok (.block .loop false opening))
    (counted : Evaluation.loopCount m.state.store opening = .ok rounds)
    (plain : ∀ line ∈ body, line.Plain)
    (closes : Statement.classify closing.text = .ok (.block .loop true ending))
    {looped : Machine ε}
    (fed : feedLines settings (header :: body ++ [closing]) m = (looped, none)) :
    ∃ unrolled stopped,
      runStopping settings (List.replicate rounds body).flatten m = (unrolled, stopped, none) ∧
      looped.state.store = unrolled.state.store ∧
      looped.state.methods = unrolled.state.methods ∧
      looped.state.pen = unrolled.state.pen ∧
      looped.surface = unrolled.surface ∧
      looped.state.report = unrolled.state.report ∧
      looped.state.conditions =
        (if stopped then (unrolled.state.truncate m.state.depth).conditions
          else unrolled.state.conditions) ∧
      looped.state.mode = .idle := by
  have valid : ∀ entry ∈ m.state.methods.entries, entry.2.Valid :=
    fun entry member => (reachable.valid.methods entry member).2
  -- The header opens the loop, the lines are kept, and the closing line is still to come.
  obtain ⟨opened, first, later⟩ := feedLines_cons fed
  obtain ⟨collected, kept, last⟩ := feedLines_append later
  have atHeader := feedLine_header idle gate opens counted first
  have atClosing : collected.Alike
      (m.inMode (.loop { header := rounds, openedAt := header, body := body })) :=
    (feedLines_kept (by rw [atHeader.state]; rfl) rfl (fun line member => (plain line member).loop)
      kept).trans (atHeader.inMode _)
  have collecting : collected.state.mode =
      .loop { header := rounds, openedAt := header, body := body } := by
    rw [atClosing.state]
    rfl
  have depth : collected.state.depth = m.state.depth := by
    rw [atClosing.state]
    rfl
  -- What the replay starts from is the machine before the loop, but for the journal.
  have atReplay := atClosing.inMode .idle
  rw [inMode_self idle] at atReplay
  have replayStart : (((collected.log {} (.line .collectingLoop closing.text)).inMode .idle).log {}
      (.replaying body.length rounds)).Alike m := ⟨atReplay.state, atReplay.surface⟩
  have idleStart : (((collected.log {} (.line .collectingLoop closing.text)).inMode .idle).log {}
      (.replaying body.length rounds)).IdleWith m.state.methods :=
    ⟨rfl, congrArg State.methods atReplay.state⟩
  obtain ⟨alike, idleAfter⟩ :=
    replay_alike settings valid flat plain ⟨0, 1⟩ rounds idleStart replayStart
  obtain ⟨ended, closed, done⟩ := feedLines_cons last
  cases done
  rw [feedLine, take_closing collecting rfl rfl closes] at closed
  rcases settled_restoring closed with ⟨finished, rfl⟩ | ⟨f, faulted, rfl⟩
  · obtain ⟨unrolled, ran, same, _⟩ := runStopping_of_alike alike finished
    refine ⟨unrolled, false, ran, ?_⟩
    rw [← same.state]
    exact ⟨rfl, rfl, rfl, same.surface, rfl, rfl, idleAfter.mode⟩
  · obtain ⟨unrolled, ran, same⟩ := runStopping_of_alike_fault alike faulted
    refine ⟨unrolled, true, ran, ?_⟩
    rw [← same.state, ← depth]
    exact ⟨rfl, rfl, rfl, same.surface, rfl, rfl, idleAfter.mode⟩

/-- A machine that knows a method. -/
private def dotted : Machine Recorded :=
  (feed {} "method dot(r)\ncircle r\nendmethod".toList none (create {} Recording.surface)).1

/-- Lines that call the method and end in a fault, inside a conditional that they opened. -/
private def faultyRound : List Line :=
  [⟨"dot(5)".toList, 5, none⟩, ⟨"x = 1".toList, 6, none⟩, ⟨"if x > 0".toList, 7, none⟩,
    ⟨"dot(y)".toList, 8, none⟩, ⟨"endif".toList, 9, none⟩]

theorem loop_unrolling_with_fault :
    ∃ looped unrolled stopped,
      feedLines {} (⟨"loop 3".toList, 4, none⟩ :: faultyRound ++ [⟨"endloop".toList, 10, none⟩])
        dotted = (looped, none) ∧
      runStopping {} (List.replicate 3 faultyRound).flatten dotted =
        (unrolled, stopped, none) ∧
      looped.surface = unrolled.surface ∧ looped.state.report = unrolled.state.report := by
  have reachable : Reachable {} dotted := by
    unfold dotted
    exact .fed (.created Recording.surface) _ none
  have opens : Statement.classify (Line.mk "loop 3".toList 4 none).text =
      .ok (.block .loop false ["3".toList]) := rfl
  have closes : Statement.classify (Line.mk "endloop".toList 10 none).text =
      .ok (.block .loop true []) := rfl
  have counted : Evaluation.loopCount dotted.state.store ["3".toList] = .ok 3 := rfl
  obtain ⟨looped, fed⟩ : ∃ looped, feedLines {} (⟨"loop 3".toList, 4, none⟩ :: faultyRound ++
      [⟨"endloop".toList, 10, none⟩]) dotted = (looped, none) :=
    ⟨_, eq_of_unfailed (by decide +kernel)⟩
  obtain ⟨unrolled, stopped, ran, _, _, _, surface, report, _⟩ :=
    loop_unrolling reachable (Mode.eq_idle (by decide +kernel)) (by decide +kernel)
      (by decide +kernel) opens counted (by decide +kernel) closes fed
  exact ⟨looped, unrolled, stopped, fed, ran, surface, report⟩

end Machine

end Plotter
