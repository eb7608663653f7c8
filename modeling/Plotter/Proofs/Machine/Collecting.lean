import Plotter.Proofs.Machine.Feeding

/-!
# Open blocks

The header of a loop or a method opens a block, also if something is wrong with it.  While the
block is open, what a line does depends on nothing but its keyword and the block.  Loops and methods
are collected in the same way, so `Collects` names what the two have in common, and the lemmas
below hold of both: a line of another kind is kept, an opening line makes the block discarded and is
counted, a closing line is counted down, and the closing line of a block that is discarded ends it.

The journal records every line, and nothing depends on it.  `Leads` says which machine some lines
lead to, up to the journal, and that they are fed without a failure.
-/

namespace Plotter

namespace Statement

/-- The keyword at the start of a block line decides what it is classified as. -/
theorem classify_of_keyword {kind : BlockKind} {closing : Bool} {line : Line}
    (keyword : line.keyword? = (block kind closing []).keyword?) :
    ∃ arguments, classify line.text = .ok (.block kind closing arguments) := by
  cases cut : Text.words line.text with
  | nil =>
    have missing : line.keyword? = none := by simp [Line.keyword?, Line.words, cut]
    rw [missing] at keyword
    cases closing <;> cases keyword
  | cons word arguments =>
    have spelled : line.keyword? = Keyword.ofWord? word := by simp [Line.keyword?, Line.words, cut]
    rw [spelled] at keyword
    refine ⟨arguments, ?_⟩
    cases closing <;> simp [classify, cut, keyword, keyword?]

theorem classify_of_opens {kind : BlockKind} {line : Line} (opens : line.opens kind = true) :
    ∃ arguments, classify line.text = .ok (.block kind false arguments) :=
  classify_of_keyword (by simpa [Line.opens, keyword?] using opens)

theorem classify_of_closes {kind : BlockKind} {line : Line} (closes : line.closes kind = true) :
    ∃ arguments, classify line.text = .ok (.block kind true arguments) :=
  classify_of_keyword (by simpa [Line.closes, keyword?] using closes)

end Statement

namespace Machine

variable {ε : Type} {settings : Settings} {m m₁ m₂ m₃ : Machine ε} {line : Line}

/-- The machine in another mode. -/
def inMode (m : Machine ε) (mode : Mode) : Machine ε :=
  m.modifyState fun s => { s with mode := mode }

theorem inMode_self {mode : Mode} (already : m.state.mode = mode) : m.inMode mode = m := by
  subst already
  rfl

theorem Alike.inMode {m₁ m₂ : Machine ε} {earlier : Mode} (alike : m₁.Alike (m₂.inMode earlier))
    (mode : Mode) : (m₁.inMode mode).Alike (m₂.inMode mode) :=
  alike.modifyState fun s => { s with mode := mode }

/-- The machine with a fault in its report. -/
def withFault (m : Machine ε) (line : Line) (cause : Cause) : Machine ε :=
  m.modifyState fun s => s.addDiagnostic (Fault.diagnostic ⟨cause, line⟩)

/-! ### Lines and where they lead -/

/-- The lines are fed without a failure, and they lead to the second machine, but for the
journal. -/
def Leads (settings : Settings) (lines : List Line) (m m' : Machine ε) : Prop :=
  ∃ last, feedLines settings lines m = (last, none) ∧ last.Alike m'

/-- A line does the same to machines that differ in their journals. -/
theorem feedLine_alike (settings : Settings) (line : Line) (alike : m₁.Alike m₂) :
    (feedLine settings line m₁).1.Alike (feedLine settings line m₂).1 ∧
      (feedLine settings line m₁).2 = (feedLine settings line m₂).2 := by
  have same : (take settings line m₁).Alike (take settings line m₂) :=
    Outcome.alike_of_follows (step_follows guarded_any (Or.inl rfl) trivial
      (Or.inl (by simp)) trivial alike)
  unfold feedLine settled
  rw [same.stop]
  split
  · exact ⟨same.machine, rfl⟩
  next f _ =>
    -- The diagnostic depends on the fault alone, so the machines stay alike when it is recorded.
    have reported := same.machine.modifyState fun s => s.addDiagnostic f.diagnostic
    exact ⟨⟨reported.state, reported.surface⟩, rfl⟩
  · exact ⟨same.machine, rfl⟩

theorem feedLines_alike {lines : List Line} {last : Machine ε} (alike : m₁.Alike m₂)
    (fed : feedLines settings lines m₂ = (last, none)) :
    ∃ other, feedLines settings lines m₁ = (other, none) ∧ other.Alike last := by
  induction lines generalizing m₁ m₂ with
  | nil =>
    cases fed
    exact ⟨m₁, rfl, alike⟩
  | cons line rest ih =>
    obtain ⟨next₂, first, later⟩ := feedLines_cons fed
    obtain ⟨same, stop⟩ := feedLine_alike settings line alike
    rcases first₁ : feedLine settings line m₁ with ⟨next₁, failure⟩
    rw [first, first₁] at same stop
    obtain rfl : failure = none := stop
    obtain ⟨other, rest₁, alike⟩ := ih same later
    exact ⟨other, by simp [feedLines, first₁, rest₁], alike⟩

namespace Leads

theorem nil (m : Machine ε) : Leads settings [] m m := ⟨m, rfl, rfl, rfl⟩

theorem append {first second : List Line} (before : Leads settings first m₁ m₂)
    (after : Leads settings second m₂ m₃) : Leads settings (first ++ second) m₁ m₃ := by
  obtain ⟨next, fed, alike⟩ := before
  obtain ⟨last, later, likewise⟩ := after
  obtain ⟨other, rest, same⟩ := feedLines_alike alike later
  refine ⟨other, ?_, same.trans likewise⟩
  rw [feedLines_append_eq, fed]
  exact rest

theorem cons {rest : List Line} (before : Leads settings [line] m₁ m₂)
    (after : Leads settings rest m₂ m₃) : Leads settings (line :: rest) m₁ m₃ :=
  before.append after

/-- A line that ends well. -/
theorem of_done {m' next : Machine ε} (taken : take settings line m = next.done)
    (alike : next.Alike m') : Leads settings [line] m m' :=
  ⟨next, by simp [feedLines, feedLine_of_done taken], alike⟩

/-- A line that ends in a fault leaves a diagnostic. -/
theorem of_fault {m' next : Machine ε} {at_ : Line} {cause : Cause}
    (taken : take settings line m = next.fault at_ cause) (alike : next.Alike m') :
    Leads settings [line] m (m'.withFault at_ cause) := by
  have reported := alike.modifyState fun s => s.addDiagnostic (Fault.diagnostic ⟨cause, at_⟩)
  refine ⟨next.reportFault {} (Fault.diagnostic ⟨cause, at_⟩), ?_, reported.state, reported.surface⟩
  simp [feedLines, feedLine_of_fault taken]

/-- A line that is fed leads where it was fed to. -/
theorem alike_of_fed {m' next : Machine ε} (leads : Leads settings [line] m m')
    (fed : feedLine settings line m = (next, none)) : next.Alike m' := by
  obtain ⟨last, taken, alike⟩ := leads
  simp only [feedLines, fed, Prod.mk.injEq, and_true] at taken
  rw [taken]
  exact alike

end Leads

/-! ### Headers -/

section Headers

variable (settings) {arguments : List Text}

/-- Under a closed gate the count of a loop is not looked at. -/
theorem leads_of_loop_ungated (idle : m.state.mode = .idle) (closed : m.state.gateOpen = false)
    (opens : Statement.classify line.text = .ok (.block .loop false arguments)) :
    Leads settings [line] m (m.inMode (.loop { header := 0, openedAt := line })) := by
  have gate : (m.log {} (.line .idle line.text)).state.gateOpen = false := closed
  have opened : take settings line m =
      ((m.log {} (.line .idle line.text)).inMode
        (.loop { header := 0, openedAt := line })).done := by
    simp [take_eq, stepWith, classified, opens, idle, start, openLoop, gate, Mode.activity, inMode]
  exact .of_done opened ⟨rfl, rfl⟩

theorem leads_of_loop_counted {count : Nat} (idle : m.state.mode = .idle)
    (gate : m.state.gateOpen = true)
    (opens : Statement.classify line.text = .ok (.block .loop false arguments))
    (counted : Evaluation.loopCount m.state.store arguments = .ok count) :
    Leads settings [line] m (m.inMode (.loop { header := count, openedAt := line })) := by
  have opened : take settings line m =
      ((m.log {} (.line .idle line.text)).inMode
        (.loop { header := count, openedAt := line })).done := by
    simp [take_eq, stepWith, classified, opens, idle, start, openLoop, log, gate, counted,
      Mode.activity, inMode]
  exact .of_done opened ⟨rfl, rfl⟩

/-- A loop without a count is opened all the same, to be discarded. -/
theorem leads_of_loop_uncounted {cause : Cause} (idle : m.state.mode = .idle)
    (gate : m.state.gateOpen = true)
    (opens : Statement.classify line.text = .ok (.block .loop false arguments))
    (uncounted : Evaluation.loopCount m.state.store arguments = .error (.cause cause)) :
    Leads settings [line] m
      ((m.inMode (.loop { header := 0, openedAt := line, discarded := true })).withFault line
        cause) := by
  have opened : take settings line m =
      ((m.log {} (.line .idle line.text)).inMode
        (.loop { header := 0, openedAt := line, discarded := true })).fault line cause := by
    simp [take_eq, stepWith, classified, opens, idle, start, openLoop, log, gate, uncounted,
      Mode.activity, inMode]
  exact .of_fault opened ⟨rfl, rfl⟩

theorem leads_of_method {header : Header} (idle : m.state.mode = .idle)
    (opens : line.opens .method = true) (parsed : Header.parse? line.text = some header) :
    Leads settings [line] m (m.inMode (.method { header := some header, openedAt := line })) := by
  obtain ⟨arguments, read⟩ := Statement.classify_of_opens opens
  have opened : take settings line m =
      ((m.log {} (.line .idle line.text)).inMode
        (.method { header := some header, openedAt := line })).done := by
    simp [take_eq, stepWith, classified, read, idle, start, openMethod, parsed, Mode.activity,
      inMode]
  exact .of_done opened ⟨rfl, rfl⟩

/-- A method without a name and parameters is opened all the same, to be discarded. -/
theorem leads_of_method_malformed (idle : m.state.mode = .idle)
    (opens : line.opens .method = true) (malformed : Header.parse? line.text = none) :
    Leads settings [line] m
      ((m.inMode (.method { header := none, openedAt := line, discarded := true })).withFault line
        (.malformedHeader .method)) := by
  obtain ⟨arguments, read⟩ := Statement.classify_of_opens opens
  have opened : take settings line m =
      ((m.log {} (.line .idle line.text)).inMode
        (.method { header := none, openedAt := line, discarded := true })).fault line
          (.malformedHeader .method) := by
    simp [take_eq, stepWith, classified, read, idle, start, openMethod, malformed, Mode.activity,
      inMode]
  exact .of_fault opened ⟨rfl, rfl⟩

end Headers

/-! ### Open blocks -/

section Blocks

variable {α : Type} {kind : BlockKind} {nestedCause : Cause} {rewrap : Block α → Mode}
  {block : Block α} {statement : Statement}

/-- While a block of the kind is open, every line that can be classified is collected. -/
def Collects (ε : Type) (settings : Settings) (kind : BlockKind) (nestedCause : Cause)
    (rewrap : Block α → Mode) : Prop :=
  ∀ {m : Machine ε} {block : Block α} {line : Line} {statement : Statement},
    m.state.mode = rewrap block → Statement.classify line.text = .ok statement →
    ∃ close, take settings line m =
      collect kind nestedCause block rewrap close {} line statement
        (m.log {} (.line m.state.mode.activity line.text))

theorem collects_loop (settings : Settings) :
    Collects ε settings .loop .nestedLoop Mode.loop := by
  intro m block line statement looping read
  refine ⟨closeLoop (inner settings.maxCallDepth.text settings.maxCallDepth.toNat)
    settings.maxCallDepth.text {} block, ?_⟩
  simp only [take_eq, stepWith, classified, read, looping]

theorem collects_method (settings : Settings) :
    Collects ε settings .method .nestedMethod Mode.method := by
  intro m block line statement defining read
  refine ⟨closeMethod {} block, ?_⟩
  simp only [take_eq, stepWith, classified, read, defining]

namespace Collects

variable (collects : Collects ε settings kind nestedCause rewrap)
  (mode : m.state.mode = rewrap block)

include collects mode

/-- A line that ends well and turns the block. -/
theorem turn {turned : Mode} (read : Statement.classify line.text = .ok statement)
    (collected : ∀ close (noted : Machine ε),
      collect kind nestedCause block rewrap close {} line statement noted =
        (noted.inMode turned).done) :
    Leads settings [line] m (m.inMode turned) := by
  obtain ⟨close, taken⟩ := collects mode read
  exact .of_done (taken.trans (collected close _)) ⟨rfl, rfl⟩

/-- A line of another kind is kept. -/
theorem keep (read : Statement.classify line.text = .ok statement)
    (other : line.isOf kind = false) :
    Leads settings [line] m (m.inMode (rewrap (block.keep line))) := by
  have different : statement.isOf kind = false := by rw [Statement.isOf_classify read, other]
  refine collects.turn mode read fun close noted => ?_
  cases statement with
  | block found closing arguments =>
    have different : found ≠ kind := by simpa [Statement.isOf] using different
    simp [collect, different, inMode]
  | _ => rfl

/-- An opening line in a block that is discarded is counted. -/
theorem deepen (opens : line.opens kind = true) (discarded : block.discarded = true) :
    Leads settings [line] m (m.inMode (rewrap { block with nested := block.nested + 1 })) := by
  obtain ⟨arguments, read⟩ := Statement.classify_of_opens opens
  refine collects.turn mode read fun close noted => ?_
  simp [collect, discarded, inMode]

/-- A closing line closes the innermost block. -/
theorem raise (closes : line.closes kind = true) (inner : 0 < block.nested) :
    Leads settings [line] m (m.inMode (rewrap { block with nested := block.nested - 1 })) := by
  obtain ⟨arguments, read⟩ := Statement.classify_of_closes closes
  refine collects.turn mode read fun close noted => ?_
  simp [collect, inner, inMode]

/-- The first opening line in a block is a fault, and the block is discarded for it. -/
theorem nest (opens : line.opens kind = true) (live : block.discarded = false) :
    Leads settings [line] m
      ((m.inMode (rewrap { block with nested := block.nested + 1, discarded := true })).withFault
        line nestedCause) := by
  obtain ⟨arguments, read⟩ := Statement.classify_of_opens opens
  obtain ⟨close, taken⟩ := collects mode read
  have nested : take settings line m =
      ((m.log {} (.line m.state.mode.activity line.text)).inMode
        (rewrap { block with nested := block.nested + 1, discarded := true })).fault line
          nestedCause := by
    rw [taken]
    simp [collect, live, inMode]
  exact .of_fault nested ⟨rfl, rfl⟩

/-- The closing line of a block that is discarded ends it. -/
theorem drop (closes : line.closes kind = true) (outermost : block.nested = 0)
    (discarded : block.discarded = true) : Leads settings [line] m (m.inMode .idle) := by
  obtain ⟨arguments, read⟩ := Statement.classify_of_closes closes
  obtain ⟨close, taken⟩ := collects mode read
  have dropped : take settings line m =
      (((m.log {} (.line m.state.mode.activity line.text)).log {}
        (.discarded kind block.openedAt.number)).inMode .idle).done := by
    rw [taken]
    simp [collect, outermost, discarded, inMode]
  exact .of_done dropped ⟨rfl, rfl⟩

/-- Lines of other kinds are all kept, in their order. -/
theorem keepAll {lines : List Line} (live : block.discarded = false)
    (tidy : ∀ line ∈ lines, line.Tidy) (others : ∀ line ∈ lines, line.isOf kind = false) :
    Leads settings lines m (m.inMode (rewrap { block with body := block.body ++ lines })) := by
  induction lines generalizing m block with
  | nil =>
    rw [List.append_nil, inMode_self mode]
    exact .nil m
  | cons line rest ih =>
    obtain ⟨tidyLine, tidyRest⟩ := List.forall_mem_cons.mp tidy
    obtain ⟨other, othersRest⟩ := List.forall_mem_cons.mp others
    obtain ⟨statement, read⟩ := Statement.classify_of_trimmed tidyLine.trimmed
    have kept : block.keep line = { block with body := block.body ++ [line] } := by
      simp [Block.keep, live]
    have first := collects.keep mode read other
    rw [kept] at first
    have later := ih (m := m.inMode (rewrap { block with body := block.body ++ [line] })) rfl
      live tidyRest othersRest
    rw [List.append_assoc] at later
    exact first.cons later

end Collects

end Blocks

end Machine

end Plotter
