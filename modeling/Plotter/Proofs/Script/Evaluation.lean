import Plotter.Proofs.Outcome
import Plotter.Proofs.Text.Literal
import Plotter.Script.Evaluation
import Plotter.Script.Parameters
import Plotter.Script.Substitution

/-!
# What evaluation can fail at

A literal is recognised before it is read, so the only thing that can go wrong in reading it is
the number of its digits.  Expressions, conditions and loop counts therefore fail at nothing but
numbers that are too long; everything else that is wrong with them is a cause to report.

The same holds of the words of a command: those that a check has passed are as many as the command
takes, and they are literals where it wants integers.
-/

namespace Plotter

namespace Evaluation

variable {store : Dictionary Int} {f : Failure}

theorem literal_failure {t : Text} (recognised : Text.isInteger t = true)
    (failed : literal t = .error (.failure f)) : f = .numeral .tooManyDigits := by
  unfold literal at failed
  rcases Text.readInteger_literal recognised with ⟨n, read⟩ | long
  · simp [read] at failed
  · simpa [long, eq_comm] using failed

theorem term_failure {t : Text} (failed : term store t = .error (.failure f)) :
    f = .numeral .tooManyDigits := by
  unfold term at failed
  split at failed
  next recognised => exact literal_failure recognised failed
  · split at failed
    · split at failed <;> simp at failed
    · simp at failed

theorem sum_failure {terms : List Term} (failed : sum store terms = .error (.failure f)) :
    f = .numeral .tooManyDigits := by
  induction terms with
  | nil => simp [sum] at failed
  | cons first rest ih =>
    simp only [sum] at failed
    rcases bind_eq_error failed with value | ⟨_, _, later⟩
    · exact term_failure value
    · rcases bind_eq_error later with others | ⟨_, _, summed⟩
      · exact ih others
      · cases summed

theorem expression_failure {t : Text} (failed : expression store t = .error (.failure f)) :
    f = .numeral .tooManyDigits := by
  unfold expression at failed
  split at failed
  · exact sum_failure failed
  · simp at failed

theorem condition_failure {t : Text} (failed : condition store t = .error (.failure f)) :
    f = .numeral .tooManyDigits := by
  unfold condition at failed
  split at failed
  · simp at failed
  next c _ =>
    split at failed
    · simp at failed
    · split at failed
      · simp [wrongOperand] at failed
      · split at failed
        · simp at failed
        · split at failed
          next recognised =>
            cases read : literal c.right with
            | ok n =>
              rw [read] at failed
              cases failed
            | error p =>
              rw [read] at failed
              cases failed
              exact literal_failure recognised read
          · simp [wrongOperand] at failed

theorem writeInteger_error {n : Int} {e : NumeralError} (failed : Text.writeInteger n = .error e) :
    e = .tooManyDigits := by
  unfold Text.writeInteger at failed
  split at failed
  · simpa [eq_comm] using failed
  · cases failed

theorem loopCount_failure {arguments : List Text}
    (failed : loopCount store arguments = .error (.failure f)) : f = .numeral .tooManyDigits := by
  unfold loopCount at failed
  split at failed
  next argument =>
    rcases bind_eq_error failed with value | ⟨count, _, later⟩
    · exact term_failure value
    · split at later
      · -- A count below zero is shown in the report, and showing it can fail as well.
        unfold negativeCount at later
        split at later
        · simp at later
        next written =>
          rw [writeInteger_error written] at later
          simpa [eq_comm] using later
      · cases later
  · simp at failed

end Evaluation

namespace Substitution

variable {store : Dictionary Int}

theorem words_error {texts : List Text} {e : NumeralError}
    (failed : words store texts = .error e) : e = .tooManyDigits := by
  induction texts with
  | nil => cases failed
  | cons word rest ih =>
    have others {first : Text}
        (failed : (words store rest >>= fun others => pure (first :: others)) = .error e) :
        e = .tooManyDigits := by
      rcases bind_eq_error failed with inRest | ⟨_, _, joined⟩
      · exact ih inRest
      · cases joined
    simp only [words] at failed
    split at failed
    · rcases bind_eq_error failed with written | ⟨_, _, later⟩
      · exact Evaluation.writeInteger_error written
      · exact others later
    · exact others failed

/-- A word that names no variable stays at the front. -/
theorem words_head {word : Text} {rest replaced : List Text} (unset : store.get? word = none)
    (done : words store (word :: rest) = .ok replaced) : ∃ later, replaced = word :: later := by
  simp only [words, unset] at done
  obtain ⟨_, ⟨⟩, later⟩ := bind_eq_ok done
  obtain ⟨others, _, joined⟩ := bind_eq_ok later
  cases joined
  exact ⟨others, rfl⟩

end Substitution

namespace Primitive

theorem isInteger_of_checkTypes {word : Text} {position count : Nat} {arguments : List Text}
    (passed : checkTypes word position (List.replicate count .integer) arguments = none)
    (length : arguments.length = count) : ∀ a ∈ arguments, Text.isInteger a = true := by
  induction arguments generalizing position count with
  | nil => simp
  | cons argument rest ih =>
    subst length
    simp only [List.length_cons, List.replicate_succ, checkTypes] at passed
    split at passed
    next recognised =>
      intro a member
      rcases List.mem_cons.mp member with rfl | later
      · exact recognised
      · exact ih passed rfl a later
    · split at passed <;> cases passed

/-- The words that have passed the check fill one of the shapes of the command. -/
theorem shape_of_check {p : Primitive} {word : Text} {arguments : List Text}
    (passed : p.check word arguments = none) :
    ∃ shape ∈ p.shapes, shape.length = arguments.length ∧
      checkTypes word 1 shape arguments = none := by
  unfold check at passed
  split at passed
  next shape found =>
    exact ⟨shape, List.mem_of_find?_eq_some found, by simpa using List.find?_some found, passed⟩
  · split at passed <;> cases passed

end Primitive

end Plotter
