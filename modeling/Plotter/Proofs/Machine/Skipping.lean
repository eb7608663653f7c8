import Plotter.Proofs.Machine.Unrolling
import Plotter.Surface.Recording

/-!
# Branches that are not taken

Under a closed gate a line is passed over, unless it is a block line.  A conditional is opened and
closed all the same, so that the lines of the outer branch are told from those of the inner one,
but its condition is not looked at.  A loop is collected under the count zero, whatever its header
says, and its lines, block lines of conditionals and methods included, are dropped with it.

So lines whose conditionals and loops are closed among themselves leave the machine as it was.
-/

namespace Plotter

/-- Lines that open and close their own conditionals and loops.  The lines of a loop are any lines
but those that open or close loops. -/
inductive SelfContained : List Line → Prop where
  | nil : SelfContained []
  | plain {line : Line} {rest : List Line} (noBlock : ∀ kind, line.isOf kind = false)
      (after : SelfContained rest) : SelfContained (line :: rest)
  | conditional {opening closing : Line} {branch rest : List Line}
      (opens : opening.opens .conditional = true) (inside : SelfContained branch)
      (closes : closing.closes .conditional = true) (after : SelfContained rest) :
      SelfContained (opening :: branch ++ closing :: rest)
  | loop {header closing : Line} {body rest : List Line} (opens : header.opens .loop = true)
      (inside : ∀ line ∈ body, line.isOf .loop = false)
      (closes : closing.closes .loop = true) (after : SelfContained rest) :
      SelfContained (header :: body ++ closing :: rest)

namespace Machine

variable {ε : Type} {settings : Settings} {m : Machine ε} {line : Line}

section Lines

/-! ### Lines under a closed gate -/

variable (settings)

/-- A line that is no block line does nothing. -/
theorem leads_of_plain (idle : m.state.mode = .idle) (closed : m.state.gateOpen = false)
    (tidy : line.Tidy) (noBlock : ∀ kind, line.isOf kind = false) :
    Leads settings [line] m m := by
  obtain ⟨statement, read⟩ := Statement.classify_of_trimmed tidy.trimmed
  have skipped : take settings line m =
      ((m.log {} (.line .idle line.text)).log {} (.skipped line.text)).done := by
    cases statement with
    | block kind closing arguments =>
      -- Only a block line is classified as one.
      have isOf : line.isOf kind = true := by
        rw [← Statement.isOf_classify read kind]
        simp [Statement.isOf]
      rw [noBlock kind] at isOf
      cases isOf
    | _ =>
      have gate : (m.log {} (.line .idle line.text)).state.gateOpen = false := closed
      simp [take_eq, stepWith, classified, read, idle, start, execute, gate, Mode.activity]
  exact .of_done skipped ⟨rfl, rfl⟩

/-- A conditional opens a branch that is not taken. -/
theorem leads_of_opening (idle : m.state.mode = .idle) (closed : m.state.gateOpen = false)
    (opens : line.opens .conditional = true) :
    Leads settings [line] m (m.modifyState fun s => s.push false line) := by
  obtain ⟨arguments, read⟩ := Statement.classify_of_opens opens
  have gate : (m.log {} (.line .idle line.text)).state.gateOpen = false := closed
  have pushed : take settings line m =
      ((m.log {} (.line .idle line.text)).modifyState fun s => s.push false line).done := by
    simp [take_eq, stepWith, classified, read, idle, start, execute, openBranch, gate,
      Mode.activity]
  exact .of_done pushed ⟨rfl, rfl⟩

/-- The line that closes a conditional drops the innermost branch. -/
theorem leads_of_closing {branch : Branch} {outer : List Branch} (idle : m.state.mode = .idle)
    (opened : m.state.conditions = branch :: outer) (closes : line.closes .conditional = true) :
    Leads settings [line] m (m.modifyState fun s => { s with conditions := outer }) := by
  obtain ⟨arguments, read⟩ := Statement.classify_of_closes closes
  have conditions : (m.log {} (.line .idle line.text)).state.conditions = branch :: outer := opened
  have popped : take settings line m =
      ((m.log {} (.line .idle line.text)).modifyState fun s =>
        { s with conditions := outer }).done := by
    simp [take_eq, stepWith, classified, read, idle, start, execute, closeBranch, conditions,
      Mode.activity]
  exact .of_done popped ⟨rfl, rfl⟩

/-- A loop that is to run no time is closed and nothing more. -/
theorem leads_of_unrepeated {block : Block Nat} (looping : m.state.mode = .loop block)
    (live : block.discarded = false) (outermost : block.nested = 0) (never : block.header = 0)
    (closes : line.closes .loop = true) : Leads settings [line] m (m.inMode .idle) := by
  obtain ⟨arguments, read⟩ := Statement.classify_of_closes closes
  have closed : take settings line m =
      (((m.log {} (.line .collectingLoop line.text)).inMode .idle).log {}
        (.replaying block.body.length 0)).done := by
    -- Nothing is replayed, so there is nothing to be restored either.
    rw [take_closing looping live outermost read]
    simp [closeLoop, never, repeated, restoring, done, inMode]
  exact .of_done closed ⟨rfl, rfl⟩

end Lines

/-! ### Blocks under a closed gate -/

/-- A conditional around lines that change nothing changes nothing. -/
theorem leads_of_conditional {opening closing : Line} {branch : List Line}
    (idle : m.state.mode = .idle) (closed : m.state.gateOpen = false)
    (opens : opening.opens .conditional = true) (closes : closing.closes .conditional = true)
    (inside : Leads settings branch (m.modifyState fun s => s.push false opening)
      (m.modifyState fun s => s.push false opening)) :
    Leads settings (opening :: branch ++ [closing]) m m := by
  have first := leads_of_opening settings idle closed opens
  have last : Leads settings [closing] (m.modifyState fun s => s.push false opening) m :=
    leads_of_closing settings idle rfl closes
  exact first.cons (inside.append last)

/-- A loop under a closed gate is read to its end and has no effect. -/
theorem leads_of_skipped_loop {header closing : Line} {body : List Line}
    (idle : m.state.mode = .idle) (closed : m.state.gateOpen = false)
    (opens : header.opens .loop = true)
    (tidy : ∀ line ∈ body, line.Tidy) (inside : ∀ line ∈ body, line.isOf .loop = false)
    (closes : closing.closes .loop = true) :
    Leads settings (header :: body ++ [closing]) m m := by
  obtain ⟨arguments, read⟩ := Statement.classify_of_opens opens
  have first := leads_of_loop_ungated settings idle closed read
  have kept := Collects.keepAll (collects_loop settings)
    (m := m.inMode (.loop { header := 0, openedAt := header })) rfl rfl tidy inside
  have last := leads_of_unrepeated settings
    (m := m.inMode (.loop { header := 0, openedAt := header, body := [] ++ body })) rfl rfl rfl rfl
    closes
  -- Nothing but the mode has changed on the way, and it is idle again.
  have back : (m.inMode (.loop { header := 0, openedAt := header, body := [] ++ body })).inMode
      .idle = m := inMode_self idle
  rw [back] at last
  exact first.cons (kept.append last)

/-- Self-contained lines under a closed gate have no effect at all: they are fed without a failure,
they leave no diagnostic, and the state and the drawing stay as they are. -/
theorem untaken_lines_inert (idle : m.state.mode = .idle) (closed : m.state.gateOpen = false)
    {lines : List Line} (tidy : ∀ line ∈ lines, line.Tidy) (contained : SelfContained lines) :
    ∃ last, feedLines settings lines m = (last, none) ∧ last.state = m.state ∧
      last.surface = m.surface := by
  suffices inert : Leads settings lines m m by
    obtain ⟨last, fed, alike⟩ := inert
    exact ⟨last, fed, alike.state, alike.surface⟩
  induction contained generalizing m with
  | nil => exact .nil m
  | plain noBlock _ ih =>
    obtain ⟨tidyLine, tidyRest⟩ := List.forall_mem_cons.mp tidy
    exact (leads_of_plain settings idle closed tidyLine noBlock).cons (ih idle closed tidyRest)
  | @conditional opening closing branch rest opens _ closes _ ihBranch ihRest =>
    have tidyBranch : ∀ line ∈ branch, line.Tidy := fun line member => tidy line (by simp [member])
    have tidyRest : ∀ line ∈ rest, line.Tidy := fun line member => tidy line (by simp [member])
    -- The branch is opened under a closed gate, so the gate is closed inside it as well.
    have inside : Leads settings branch (m.modifyState fun s => s.push false opening)
        (m.modifyState fun s => s.push false opening) := ihBranch idle rfl tidyBranch
    have block : Leads settings (opening :: branch ++ [closing]) m m :=
      leads_of_conditional idle closed opens closes inside
    have after := block.append (ihRest idle closed tidyRest)
    simpa using after
  | @loop header closing body rest opens inside closes _ ih =>
    have tidyBody : ∀ line ∈ body, line.Tidy := fun line member => tidy line (by simp [member])
    have tidyRest : ∀ line ∈ rest, line.Tidy := fun line member => tidy line (by simp [member])
    have block : Leads settings (header :: body ++ [closing]) m m :=
      leads_of_skipped_loop idle closed opens tidyBody inside closes
    have after := block.append (ih idle closed tidyRest)
    simpa using after

/-- A conditional with a loop and another conditional in it, and nothing that could be run. -/
private def untakenLines : List Line :=
  [⟨"bogus 1 2".toList, 3, none⟩, ⟨"if )".toList, 4, none⟩, ⟨"loop many".toList, 5, none⟩,
    ⟨"endif".toList, 6, none⟩, ⟨"method".toList, 7, none⟩, ⟨"endloop".toList, 8, none⟩,
    ⟨"if y".toList, 9, none⟩, ⟨"nowhere(1)".toList, 10, none⟩, ⟨"endif".toList, 11, none⟩,
    ⟨"endif".toList, 12, none⟩]

theorem untaken_lines_inert_nested :
    let m := (feed {} "x = 1\nif x > 2".toList none (create {} Recording.surface)).1
    m.state.gateOpen = false ∧ SelfContained untakenLines ∧
      ∃ last, feedLines {} untakenLines m = (last, none) ∧ last.state = m.state ∧
        last.surface = m.surface := by
  intro m
  have contained : SelfContained untakenLines := by
    refine .plain (fun kind => by cases kind <;> decide) ?_
    refine @SelfContained.conditional _ _ [_, _, _, _, _, _, _] _ (by decide) ?_ (by decide) .nil
    refine @SelfContained.loop _ _ [_, _] _ (by decide) (by decide) (by decide) ?_
    refine @SelfContained.conditional _ _ [_] _ (by decide) ?_ (by decide) .nil
    exact .plain (fun kind => by cases kind <;> decide) .nil
  have closed : m.state.gateOpen = false := by decide +kernel
  have idle : m.state.mode = .idle := Mode.eq_idle (by decide +kernel)
  exact ⟨closed, contained, untaken_lines_inert idle closed (by decide) contained⟩

end Machine

end Plotter
