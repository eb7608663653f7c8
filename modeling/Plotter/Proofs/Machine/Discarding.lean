import Mathlib.Data.List.Infix
import Plotter.Proofs.Machine.Collecting
import Plotter.Surface.Recording

/-!
# Blocks that are discarded

A block is discarded if its header is wrong, or if a block of the same kind is opened in it.  The
fault is reported once, at the header or at the first inner opening line, and the block is read on
to its own closing line.  To find that line the blocks of the same kind that are opened on the way
are counted, and nothing else is looked at.

`Balanced` says of lines that they close what they open.  Its depth is the number of blocks that
were open before, so that it can be followed line by line along with the count of the block.
-/

namespace Plotter

namespace Line

variable {kind : BlockKind} {line : Line}

theorem closes_eq_false (opens : line.opens kind = true) : line.closes kind = false := by
  have keyword : line.keyword? = some (.opening kind) := by simpa [Line.opens] using opens
  simp [closes, keyword]

theorem opens_eq_false (closes : line.closes kind = true) : line.opens kind = false := by
  have keyword : line.keyword? = some (.closing kind) := by simpa [Line.closes] using closes
  simp [opens, keyword]

theorem isOf_eq_false (unopened : line.opens kind = false) (unclosed : line.closes kind = false) :
    line.isOf kind = false := by
  have either : line.isOf kind = (line.opens kind || line.closes kind) := rfl
  rw [either, unopened, unclosed, Bool.or_false]

end Line

/-- Lines that close the blocks of the kind that they open and, besides these, as many as the depth
says. -/
structure Balanced (kind : BlockKind) (depth : Nat) (lines : List Line) : Prop where
  /-- No closing line comes too early. -/
  within : ∀ front, front <+: lines →
    front.countP (Line.closes kind) ≤ depth + front.countP (Line.opens kind)
  total : lines.countP (Line.closes kind) = depth + lines.countP (Line.opens kind)

instance (kind : BlockKind) (depth : Nat) (lines : List Line) :
    Decidable (Balanced kind depth lines) :=
  decidable_of_iff
    ((∀ front ∈ lines.inits,
        front.countP (Line.closes kind) ≤ depth + front.countP (Line.opens kind)) ∧
      lines.countP (Line.closes kind) = depth + lines.countP (Line.opens kind))
    ⟨fun balanced => ⟨fun front isFront => balanced.1 front ((List.mem_inits _ _).mpr isFront),
        balanced.2⟩,
      fun balanced => ⟨fun front isFront => balanced.within front ((List.mem_inits _ _).mp isFront),
        balanced.total⟩⟩

namespace Balanced

variable {kind : BlockKind} {depth : Nat}

/-- What is balanced behind some lines, once these are counted. -/
theorem behind {deeper : Nat} {front rest : List Line}
    (balanced : Balanced kind depth (front ++ rest))
    (counted : deeper + front.countP (Line.closes kind) =
      depth + front.countP (Line.opens kind)) : Balanced kind deeper rest := by
  constructor
  · intro part isPart
    have longer : front ++ part <+: front ++ rest := (List.prefix_append_right_inj front).mpr isPart
    have bound := balanced.within (front ++ part) longer
    rw [List.countP_append, List.countP_append] at bound
    omega
  · have total := balanced.total
    rw [List.countP_append, List.countP_append] at total
    omega

theorem pos_of_closes {line : Line} {rest : List Line}
    (balanced : Balanced kind depth (line :: rest)) (closes : line.closes kind = true) :
    0 < depth := by
  have bound := balanced.within [line] (by simp)
  simp only [List.countP_singleton, closes, Line.opens_eq_false closes, if_true] at bound
  exact bound

theorem behind_opening {line : Line} {rest : List Line}
    (balanced : Balanced kind depth (line :: rest)) (opens : line.opens kind = true) :
    Balanced kind (depth + 1) rest := by
  have front : Balanced kind depth ([line] ++ rest) := balanced
  refine front.behind ?_
  simp [opens, Line.closes_eq_false opens]

/-- As long as nothing is open and nothing is opened, nothing is closed. -/
theorem behind_unopened {front rest : List Line} (balanced : Balanced kind 0 (front ++ rest))
    (unopened : ∀ line ∈ front, line.opens kind = false) :
    (∀ line ∈ front, line.isOf kind = false) ∧ Balanced kind 0 rest := by
  have opened : front.countP (Line.opens kind) = 0 := by
    rw [List.countP_eq_zero]
    intro line member
    simp [unopened line member]
  have closed : front.countP (Line.closes kind) = 0 := by
    have bound := balanced.within front (List.prefix_append front rest)
    omega
  constructor
  · intro line member
    have unclosed : line.closes kind = false := by
      simpa using List.countP_eq_zero.mp closed line member
    exact Line.isOf_eq_false (unopened line member) unclosed
  · refine behind balanced ?_
    rw [opened, closed]

end Balanced

namespace Machine

section Blocks

variable {ε α : Type} {settings : Settings} {m : Machine ε} {kind : BlockKind}
  {nestedCause : Cause} {rewrap : Block α → Mode} {block : Block α}
  (collects : Collects ε settings kind nestedCause rewrap) (mode : m.state.mode = rewrap block)

include collects mode

namespace Collects

/-- A line of a block that is discarded changes the count of inner blocks and nothing else. -/
theorem recount {line : Line} (discarded : block.discarded = true) (tidy : line.Tidy)
    (inner : line.closes kind = true → 0 < block.nested) :
    ∃ nested, Leads settings [line] m (m.inMode (rewrap { block with nested := nested })) ∧
      nested + [line].countP (Line.closes kind) =
        block.nested + [line].countP (Line.opens kind) := by
  by_cases opens : line.opens kind = true
  · refine ⟨block.nested + 1, collects.deepen mode opens discarded, ?_⟩
    simp [opens, Line.closes_eq_false opens]
  · by_cases closes : line.closes kind = true
    · have deep := inner closes
      refine ⟨block.nested - 1, collects.raise mode closes deep, ?_⟩
      simp [opens, closes]
      omega
    · -- The line is of another kind, and a block that is discarded does not keep it.
      obtain ⟨statement, read⟩ := Statement.classify_of_trimmed tidy.trimmed
      have other : line.isOf kind = false :=
        Line.isOf_eq_false (by simpa using opens) (by simpa using closes)
      have kept := collects.keep mode read other
      have dropped : block.keep line = block := by simp [Block.keep, discarded]
      rw [dropped] at kept
      refine ⟨block.nested, kept, ?_⟩
      simp [opens, closes]

/-- A block that is discarded is read to its own closing line. -/
theorem discard {lines : List Line} {closing : Line} (discarded : block.discarded = true)
    (tidy : ∀ line ∈ lines, line.Tidy) (balanced : Balanced kind block.nested lines)
    (closes : closing.closes kind = true) :
    Leads settings (lines ++ [closing]) m (m.inMode .idle) := by
  -- The count of the block and the depth of the lines that are left go together.
  induction lines generalizing m block with
  | nil =>
    have outermost : block.nested = 0 := by
      have total := balanced.total
      simp only [List.countP_nil] at total
      omega
    exact collects.drop mode closes outermost discarded
  | cons line rest ih =>
    obtain ⟨tidyLine, tidyRest⟩ := List.forall_mem_cons.mp tidy
    obtain ⟨nested, first, counted⟩ := collects.recount mode discarded tidyLine
      fun closes => balanced.pos_of_closes closes
    have front : Balanced kind block.nested ([line] ++ rest) := balanced
    have reopened : (m.inMode (rewrap { block with nested := nested })).state.mode =
        rewrap { block with nested := nested } := rfl
    exact first.cons (ih reopened discarded tidyRest (front.behind counted))

/-- A block in which another one is opened is reported there and discarded. -/
theorem interrupt {body : List Line} {inner closing : Line} (live : block.discarded = false)
    (outermost : block.nested = 0) (tidy : ∀ line ∈ body, line.Tidy)
    (balanced : Balanced kind 0 body) (found : body.find? (Line.opens kind) = some inner)
    (closes : closing.closes kind = true) :
    Leads settings (body ++ [closing]) m ((m.inMode .idle).withFault inner nestedCause) := by
  obtain ⟨opens, front, rest, rfl, unopened⟩ := List.find?_eq_some_iff_append.mp found
  have unopened : ∀ line ∈ front, line.opens kind = false := by simpa using unopened
  have tidyFront : ∀ line ∈ front, line.Tidy := fun line member => tidy line (by simp [member])
  have tidyRest : ∀ line ∈ rest, line.Tidy := fun line member => tidy line (by simp [member])
  obtain ⟨others, opening⟩ := balanced.behind_unopened unopened
  -- Up to the inner opening line all lines are kept, and behind it one more block is open.
  have kept := collects.keepAll mode live tidyFront others
  have nested := collects.nest
    (m := m.inMode (rewrap { block with body := block.body ++ front })) rfl opens live
  have deeper : Balanced kind (block.nested + 1) rest := by
    rw [outermost]
    exact opening.behind_opening opens
  have dropped := collects.discard
    (m := (m.inMode (rewrap { block with
      body := block.body ++ front, nested := block.nested + 1, discarded := true })).withFault
        inner nestedCause) rfl rfl tidyRest deeper closes
  rw [List.append_assoc]
  exact kept.append (nested.cons dropped)

end Collects

end Blocks

/-! ### Whole blocks -/

section Rejected

variable {ε α : Type} {settings : Settings} {m : Machine ε} {kind : BlockKind}
  {nestedCause : Cause} {rewrap : Block α → Mode} {block : Block α} {header closing : Line}
  {body : List Line}

/-- A block whose header is a fault has no effect but for the fault. -/
theorem Collects.rejected {cause : Cause} (collects : Collects ε settings kind nestedCause rewrap)
    (idle : m.state.mode = .idle)
    (opened : Leads settings [header] m ((m.inMode (rewrap block)).withFault header cause))
    (discarded : block.discarded = true) (outermost : block.nested = 0)
    (tidy : ∀ line ∈ body, line.Tidy) (balanced : Balanced kind 0 body)
    (closes : closing.closes kind = true) :
    Leads settings (header :: body ++ [closing]) m (m.withFault header cause) := by
  rw [← outermost] at balanced
  have dropped := collects.discard (m := (m.inMode (rewrap block)).withFault header cause) rfl
    discarded tidy balanced closes
  have whole := opened.cons dropped
  -- The fault stays in the report, and the mode is what it was.
  have back : ((m.inMode (rewrap block)).withFault header cause).inMode .idle =
      (m.inMode .idle).withFault header cause := rfl
  rwa [back, inMode_self idle] at whole

/-- A block in which another one is opened has no effect but for the fault. -/
theorem Collects.interrupted {inner : Line}
    (collects : Collects ε settings kind nestedCause rewrap) (idle : m.state.mode = .idle)
    (opened : Leads settings [header] m (m.inMode (rewrap block)))
    (live : block.discarded = false) (outermost : block.nested = 0)
    (tidy : ∀ line ∈ body, line.Tidy) (balanced : Balanced kind 0 body)
    (found : body.find? (Line.opens kind) = some inner) (closes : closing.closes kind = true) :
    Leads settings (header :: body ++ [closing]) m (m.withFault inner nestedCause) := by
  have interrupted := collects.interrupt (m := m.inMode (rewrap block)) rfl live outermost tidy
    balanced found closes
  have whole := opened.cons interrupted
  have back : (m.inMode (rewrap block)).inMode .idle = m.inMode .idle := rfl
  rwa [back, inMode_self idle] at whole

/-- The header of a loop opens it if it has a count or if the count is not looked at. -/
theorem leads_of_loop (settings : Settings) {arguments : List Text} (idle : m.state.mode = .idle)
    (opens : Statement.classify header.text = .ok (.block .loop false arguments))
    (counted : m.state.gateOpen = true →
      ∃ count, Evaluation.loopCount m.state.store arguments = .ok count) :
    ∃ count, Leads settings [header] m
      (m.inMode (.loop { header := count, openedAt := header })) := by
  cases gate : m.state.gateOpen with
  | false => exact ⟨0, leads_of_loop_ungated settings idle gate opens⟩
  | true =>
    obtain ⟨count, evaluated⟩ := counted gate
    exact ⟨count, leads_of_loop_counted settings idle gate opens evaluated⟩

/-- A block that is rejected is skipped to its own closing line.  It leaves one diagnostic, that of
its header if there is anything wrong with it and that of the first inner opening line otherwise,
and nothing else is changed: the machine is idle again, with its state and its drawing as before. -/
theorem rejected_block_skipped (idle : m.state.mode = .idle) (tidy : ∀ line ∈ body, line.Tidy) :
    (∀ arguments, Statement.classify header.text = .ok (.block .loop false arguments) →
      closing.closes .loop = true → Balanced .loop 0 body →
      (∀ cause, m.state.gateOpen = true →
        Evaluation.loopCount m.state.store arguments = .error (.cause cause) →
        Leads settings (header :: body ++ [closing]) m (m.withFault header cause)) ∧
      ∀ inner, (m.state.gateOpen = true →
          ∃ count, Evaluation.loopCount m.state.store arguments = .ok count) →
        body.find? (Line.opens .loop) = some inner →
        Leads settings (header :: body ++ [closing]) m (m.withFault inner .nestedLoop) ∧
          Cause.nestedLoop.code = "E304".toList) ∧
    (header.opens .method = true → closing.closes .method = true → Balanced .method 0 body →
      (Header.parse? header.text = none →
        Leads settings (header :: body ++ [closing]) m
          (m.withFault header (.malformedHeader .method)) ∧
          (Cause.malformedHeader .method).code = "E105".toList) ∧
      ∀ inner, (Header.parse? header.text).isSome = true →
        body.find? (Line.opens .method) = some inner →
        Leads settings (header :: body ++ [closing]) m (m.withFault inner .nestedMethod) ∧
          Cause.nestedMethod.code = "E305".toList) := by
  constructor
  · intro arguments opens closes balanced
    constructor
    · intro cause gate uncounted
      have opened := leads_of_loop_uncounted settings idle gate opens uncounted
      exact Collects.rejected (collects_loop settings) idle opened rfl rfl tidy balanced closes
    · intro inner counted found
      obtain ⟨count, opened⟩ := leads_of_loop settings idle opens counted
      exact ⟨Collects.interrupted (collects_loop settings) idle opened rfl rfl tidy balanced found
        closes, rfl⟩
  · intro opens closes balanced
    constructor
    · intro malformed
      have opened := leads_of_method_malformed settings idle opens malformed
      exact ⟨Collects.rejected (collects_method settings) idle opened rfl rfl tidy balanced closes,
        rfl⟩
    · intro inner parsed found
      obtain ⟨signature, parsed⟩ := Option.isSome_iff_exists.mp parsed
      have opened := leads_of_method settings idle opens parsed
      exact ⟨Collects.interrupted (collects_method settings) idle opened rfl rfl tidy balanced found
        closes, rfl⟩

private def loopBlock (header : String) : List Line :=
  ⟨header.toList, 1, none⟩ :: [⟨"circle 5".toList, 2, none⟩, ⟨"loop 2".toList, 3, none⟩,
    ⟨"bogus".toList, 4, none⟩, ⟨"endloop".toList, 5, none⟩, ⟨"endif".toList, 6, none⟩] ++
    [⟨"endloop".toList, 7, none⟩]

private def methodBlock (header : String) : List Line :=
  ⟨header.toList, 1, none⟩ :: [⟨"endloop".toList, 2, none⟩, ⟨"method b()".toList, 3, none⟩,
    ⟨"method c(".toList, 4, none⟩, ⟨"endmethod".toList, 5, none⟩,
    ⟨"endmethod".toList, 6, none⟩] ++ [⟨"endmethod".toList, 7, none⟩]

/-- Each of the two blocks with a header that is wrong and with one that is not. -/
theorem rejected_block_skipped_nested :
    let m := create {} Recording.surface
    Leads {} (loopBlock "loop n") m
      (m.withFault ⟨"loop n".toList, 1, none⟩ (.undefinedVariable "n".toList)) ∧
    Leads {} (loopBlock "loop 2") m (m.withFault ⟨"loop 2".toList, 3, none⟩ .nestedLoop) ∧
    Leads {} (methodBlock "method") m
      (m.withFault ⟨"method".toList, 1, none⟩ (.malformedHeader .method)) ∧
    Leads {} (methodBlock "method a()") m
      (m.withFault ⟨"method b()".toList, 3, none⟩ .nestedMethod) := by
  intro m
  have idle : m.state.mode = .idle := rfl
  refine ⟨?_, ?_, ?_, ?_⟩
  · exact ((rejected_block_skipped idle (by decide)).1 ["n".toList] rfl (by decide) (by decide)).1
      _ rfl rfl
  · exact (((rejected_block_skipped idle (by decide)).1 ["2".toList] rfl (by decide)
      (by decide)).2 _ (fun _ => ⟨2, rfl⟩) (by decide)).1
  · exact (((rejected_block_skipped idle (by decide)).2 (by decide) (by decide) (by decide)).1
      (by decide)).1
  · exact (((rejected_block_skipped idle (by decide)).2 (by decide) (by decide) (by decide)).2
      _ (by decide) (by decide)).1

end Rejected

end Machine

end Plotter
