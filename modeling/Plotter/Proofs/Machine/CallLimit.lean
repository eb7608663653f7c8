import Plotter.Proofs.Machine.Stopping

/-!
# The limit of nested calls

A run under a higher limit does what the run under the lower one does, for as long as no call is
refused under the lower one.  The room for further calls is looked at in one place only, and where
it has run out the line ends in a fault that no call and no replay around it takes back.  So the
fault comes out at the line that was fed and is reported, and what is reported stays in the report.

The comparison is of two machines that are alike, line by line.  Either they stay alike, or the
first of them has a refused call in its report from then on.

## Main result

`call_limit_only_cuts`: if the run under the lower limit reports no refused call, the higher limit
changes nothing.
-/

namespace Plotter

def Settings.limited (settings : Settings) (limit : Count) : Settings :=
  { settings with maxCallDepth := limit }

/-- The code under which a call is reported for which there is no room. -/
def refusedCall : Text := "E307".toList

namespace Machine

variable {ε α : Type} {lower higher : Count} {m m₁ m₂ : Machine ε}

/-- A refused call is in the report. -/
def Refused (m : Machine ε) : Prop := ∃ d ∈ m.diagnostics, d.code = refusedCall

/-- Two machines have come to the same end, unless the first of them has refused a call. -/
def EndAlike (ended₁ ended₂ : Machine ε × α) : Prop :=
  ended₁.1.Refused ∨ ended₁.1.Alike ended₂.1 ∧ ended₁.2 = ended₂.2

/-! ### What is reported stays in the report -/

theorem Refused.of_prefix (refused : m₁.Refused) (grown : m₁.diagnostics <+: m₂.diagnostics) :
    m₂.Refused := by
  obtain ⟨d, member, code⟩ := refused
  exact ⟨d, grown.subset member, code⟩

theorem Refused.feedLine (refused : m.Refused) (settings : Settings) (line : Line) :
    (feedLine settings line m).1.Refused := by
  apply refused.of_prefix
  rcases feedLine_diagnostics settings line m with same | ⟨d, added⟩
  · exact ⟨[], by rw [same, List.append_nil]⟩
  · exact ⟨[d], added.symm⟩

theorem Refused.feedLines (refused : m.Refused) (settings : Settings) (lines : List Line) :
    (feedLines settings lines m).1.Refused :=
  feedLines_keeps (fun line _ _ refused => refused.feedLine settings line) refused

theorem Refused.runStopping (refused : m.Refused) (settings : Settings) (lines : List Line) :
    (runStopping settings lines m).1.Refused :=
  runStopping_keeps (fun line _ _ refused => refused.feedLine settings line)
    (fun _ _ refused => refused) refused

theorem Refused.finish (refused : m.Refused) : m.finish.Refused := by
  apply refused.of_prefix
  simp only [diagnostics, finish_state]
  exact List.prefix_append _ _

/-! ### One line under two limits -/

theorem take_follows (fewer : lower.toNat ≤ higher.toNat) (settings : Settings) (line : Line)
    (alike : m₁.Alike m₂) :
    (take (settings.limited lower) line m₁).Follows (fun c => c.code = refusedCall)
      (take (settings.limited higher) line m₂) := by
  have rooms : Rooms (.faults fun c => c.code = refusedCall) lower.text higher.text lower.toNat
      higher.toNat := by
    refine Or.inr ⟨fewer, fun name line => ?_⟩
    exact ⟨⟨.callDepth name lower.text, line⟩, rfl, rfl⟩
  apply follows_iff_inStep.mpr
  exact step_inStep (companions_same _) guarded_any rooms trivial (Or.inl Iff.rfl) trivial
    alike.inStep

theorem feedLine_limited (fewer : lower.toNat ≤ higher.toNat) (settings : Settings) (line : Line)
    (alike : m₁.Alike m₂) :
    EndAlike (feedLine (settings.limited lower) line m₁)
      (feedLine (settings.limited higher) line m₂) := by
  rcases take_follows fewer settings line alike with ⟨f, faulted, refused⟩ | ⟨machines, stops⟩
  · -- The fault of the first machine is reported at the end of the line.
    left
    have fed : feedLine (settings.limited lower) line m₁ =
        ((feedLine (settings.limited lower) line m₁).1, none) := by
      simp only [feedLine, settled, faulted]
    refine ⟨f.diagnostic, ?_, refused⟩
    rw [diagnostics, diagnostics_of_fault faulted fed]
    exact List.mem_append_right _ (List.mem_singleton_self _)
  · right
    simp only [feedLine, settled, ← stops]
    split
    · exact ⟨machines, rfl⟩
    next f _ =>
      have reported := machines.modifyState fun s => s.addDiagnostic f.diagnostic
      exact ⟨⟨reported.state, reported.surface⟩, rfl⟩
    · exact ⟨machines, rfl⟩

/-! ### Lines and whole runs under two limits -/

theorem feedLines_limited (fewer : lower.toNat ≤ higher.toNat) (settings : Settings)
    (lines : List Line) (alike : m₁.Alike m₂) :
    EndAlike (feedLines (settings.limited lower) lines m₁)
      (feedLines (settings.limited higher) lines m₂) := by
  induction lines generalizing m₁ m₂ with
  | nil => exact Or.inr ⟨alike, rfl⟩
  | cons line rest ih =>
    have here := feedLine_limited fewer settings line alike
    simp only [feedLines]
    generalize feedLine (settings.limited lower) line m₁ = fed₁ at here ⊢
    generalize feedLine (settings.limited higher) line m₂ = fed₂ at here ⊢
    obtain ⟨next₁, failure₁⟩ := fed₁
    obtain ⟨next₂, failure₂⟩ := fed₂
    rcases here with refused | ⟨alike, ⟨⟩⟩
    · left
      cases failure₁ with
      | none => exact refused.feedLines _ rest
      | some f => exact refused
    · cases failure₁ with
      | none => exact ih alike
      | some f => exact Or.inr ⟨alike, rfl⟩

theorem runStopping_limited (fewer : lower.toNat ≤ higher.toNat) (settings : Settings)
    (lines : List Line) (alike : m₁.Alike m₂) :
    EndAlike (runStopping (settings.limited lower) lines m₁)
      (runStopping (settings.limited higher) lines m₂) := by
  induction lines generalizing m₁ m₂ with
  | nil => exact Or.inr ⟨alike, rfl⟩
  | cons line rest ih =>
    have here := feedLine_limited fewer settings line alike
    simp only [runStopping, ← alike.state]
    generalize feedLine (settings.limited lower) line m₁ = fed₁ at here ⊢
    generalize feedLine (settings.limited higher) line m₂ = fed₂ at here ⊢
    obtain ⟨next₁, failure₁⟩ := fed₁
    obtain ⟨next₂, failure₂⟩ := fed₂
    rcases here with refused | ⟨alike, ⟨⟩⟩
    · left
      cases failure₁ with
      | some f => exact refused
      | none =>
        dsimp only
        split
        · exact refused
        · exact refused.runStopping _ rest
    · cases failure₁ with
      | some f => exact Or.inr ⟨alike, rfl⟩
      | none =>
        -- Whether the line left a diagnostic can be seen from the state.
        have states : next₁.state = next₂.state := alike.state
        simp only [← states]
        split
        · exact Or.inr ⟨⟨alike.state, alike.surface⟩, rfl⟩
        · exact ih alike

theorem Alike.finish (alike : m₁.Alike m₂) : m₁.finish.Alike m₂.finish := by
  constructor
  · rw [finish_state, finish_state, alike.state]
  · rw [finish_surface, finish_surface, alike.surface]

theorem Alike.concluded (alike : m₁.Alike m₂) (stopped : Bool) :
    EndAlike (m₁, (.ok (m₁.result stopped) : Except Failure Result))
      (m₂, .ok (m₂.result stopped)) := by
  refine Or.inr ⟨alike, ?_⟩
  simp only [Machine.result, alike.state]

theorem runLines_limited (fewer : lower.toNat ≤ higher.toNat) (settings : Settings)
    (lines : List Line) (alike : m₁.Alike m₂) :
    EndAlike (runLines (settings.limited lower) lines m₁)
      (runLines (settings.limited higher) lines m₂) := by
  have sameStops : (settings.limited lower).stopOnError = (settings.limited higher).stopOnError :=
    rfl
  unfold runLines
  rw [sameStops]
  split
  · have ran := runStopping_limited fewer settings lines alike
    generalize runStopping (settings.limited lower) lines m₁ = ran₁ at ran ⊢
    generalize runStopping (settings.limited higher) lines m₂ = ran₂ at ran ⊢
    obtain ⟨last₁, stopped₁, failure₁⟩ := ran₁
    obtain ⟨last₂, stopped₂, failure₂⟩ := ran₂
    rcases ran with refused | ⟨alike, ⟨⟩⟩
    · left
      cases failure₁ with
      | some f => exact refused
      | none =>
        cases stopped₁ with
        | true => exact refused
        | false => exact refused.finish
    · cases failure₁ with
      | some f => exact Or.inr ⟨alike, rfl⟩
      | none =>
        cases stopped₁ with
        | true => exact (alike.modifyState State.discardBlocks).concluded true
        | false => exact alike.finish.concluded false
  · have fed := feedLines_limited fewer settings lines alike
    generalize feedLines (settings.limited lower) lines m₁ = fed₁ at fed ⊢
    generalize feedLines (settings.limited higher) lines m₂ = fed₂ at fed ⊢
    obtain ⟨last₁, failure₁⟩ := fed₁
    obtain ⟨last₂, failure₂⟩ := fed₂
    rcases fed with refused | ⟨alike, ⟨⟩⟩
    · left
      cases failure₁ with
      | some f => exact refused
      | none => exact refused.finish
    · cases failure₁ with
      | some f => exact Or.inr ⟨alike, rfl⟩
      | none => exact alike.finish.concluded false

/-- A higher limit of nested calls makes no difference to a run that reports no refused call under
the lower one: it comes to the same end, with the same result and the same diagnostics in it, in
the same state and with the same drawing.  This holds also if the end is a failure. -/
theorem call_limit_only_cuts (settings : Settings) (lower higher : Count)
    (fewer : lower.toNat ≤ higher.toNat) (source : Text) (filename : Option Text) (m : Machine ε)
    (unrefused : ∀ d ∈ (run (settings.limited lower) source filename m).1.diagnostics,
      d.code ≠ refusedCall) :
    let cut := run (settings.limited lower) source filename m
    let full := run (settings.limited higher) source filename m
    full.2 = cut.2 ∧ full.1.state = cut.1.state ∧ full.1.surface = cut.1.surface := by
  intro cut full
  -- The limit is no part of a fresh state, so both runs start from the same machine.
  have fresh : (reset (settings.limited lower) m).Alike (reset (settings.limited higher) m) :=
    ⟨rfl, rfl⟩
  rcases runLines_limited fewer settings (Line.ofSource source filename) fresh with
    ⟨d, member, code⟩ | ⟨alike, same⟩
  · exact absurd code (unrefused d member)
  · exact ⟨same.symm, alike.state.symm, alike.surface.symm⟩

/-- A method that calls another one, with a mistake behind it. -/
private def callOfCall (limit : Nat) : Machine Recorded × Except Failure Result :=
  run (Settings.limited {} (.whole limit))
    "method a()\ncircle 2\nendmethod\nmethod b()\na()\na(1)\nendmethod\nb()".toList none
    (create {} Recording.surface)

/-- Under a limit of one the inner call is refused.  Under a limit of two only the mistake is
reported, and thirty levels more change nothing. -/
theorem call_limit_only_cuts_at_two :
    (callOfCall 1).1.diagnostics.map Diagnostic.code = [refusedCall] ∧
      (callOfCall 2).1.diagnostics.map Diagnostic.code = ["E203".toList] ∧
      (callOfCall 32).2 = (callOfCall 2).2 ∧
      (callOfCall 32).1.state = (callOfCall 2).1.state ∧
      (callOfCall 32).1.surface = (callOfCall 2).1.surface := by
  have reported : (callOfCall 2).1.diagnostics.map Diagnostic.code = ["E203".toList] := by
    decide +kernel
  have unrefused : ∀ d ∈ (callOfCall 2).1.diagnostics, d.code ≠ refusedCall := by
    intro d member
    have known : d.code ∈ ["E203".toList] := by
      rw [← reported]
      exact List.mem_map_of_mem member
    rw [List.mem_singleton.mp known]
    decide
  refine ⟨by decide +kernel, reported, ?_⟩
  unfold callOfCall at unrefused ⊢
  exact call_limit_only_cuts {} (.whole 2) (.whole 32) (by decide) _ _ _ unrefused

end Machine

end Plotter
