import Plotter.Proofs.Script.Evaluation
import Plotter.Proofs.Script.Expansion
import Plotter.Proofs.Script.Literal

/-!
# The value of a condition

A condition compares a variable with a literal.  Its operator is read as the longest run of
comparison characters, and one of them is given back if nothing else is left for the right operand.
Neither can lead to a comparison that the text does not hold, and neither can miss one: a literal
has no comparison character in it, so the run ends where the operator does, and what is given back
is no literal.

## Main result

`condition_exact`: when a condition has a value and which one, and that all others are reported.
-/

namespace Plotter

/-- The text is the three parts of the condition with any blanks between them. -/
def Condition.WrittenAs (c : Condition) (t : Text) : Prop :=
  ∃ gap gap' : Text, gap.IsGap ∧ gap'.IsGap ∧
    t = c.left ++ (gap ++ (c.operator ++ (gap' ++ c.right)))

namespace Comparison

/-- How a comparison is written. -/
def operator : Comparison → Text
  | .greater => ['>']
  | .less => ['<']
  | .equal => ['=', '=']

/-- What a comparison says of two numbers. -/
def Relates : Comparison → Int → Int → Prop
  | .greater, a, b => a > b
  | .less, a, b => a < b
  | .equal, a, b => a = b

theorem holds_iff (comparison : Comparison) (a b : Int) :
    comparison.holds a b = true ↔ comparison.Relates a b := by
  cases comparison <;> simp [holds, Relates]

theorem ofOperator?_eq_some_iff {t : Text} {comparison : Comparison} :
    ofOperator? t = some comparison ↔ t = comparison.operator := by
  constructor
  · intro found
    unfold ofOperator? at found
    split at found
    next same =>
      cases found
      exact same
    · split at found
      next same =>
        cases found
        exact same
      · split at found
        next same =>
          cases found
          exact same
        · cases found
  · rintro rfl
    cases comparison <;> decide

end Comparison

namespace Condition

variable {t : Text} {c : Condition}

theorem isOperatorChar_iff {c : Char} :
    isOperatorChar c = true ↔ ((c = '<' ∨ c = '>') ∨ c = '=') ∨ c = '!' := by
  simp [isOperatorChar]

theorem isLeftChar_of_isBlank {c : Char} (blank : Text.isBlank c = true) :
    isLeftChar c = false := by
  simp [isLeftChar, blank]

theorem isLeftChar_of_isOperatorChar {c : Char} (compares : isOperatorChar c = true) :
    isLeftChar c = false := by
  simp [isLeftChar, compares]

theorem isBlank_of_isOperatorChar {c : Char} (compares : isOperatorChar c = true) :
    Text.isBlank c = false := by
  rcases isOperatorChar_iff.mp compares with ((rfl | rfl) | rfl) | rfl <;> rfl

theorem isOperatorChar_of_isBlank {c : Char} (blank : Text.isBlank c = true) :
    isOperatorChar c = false := by
  by_contra compares
  have visible := isBlank_of_isOperatorChar (by simpa using compares)
  rw [blank] at visible
  cases visible

/-- Parts that can be told apart are found again. -/
theorem ofTrimmed?_of_parts {left gap operator gap' right : Text} (left_ : left ≠ [])
    (inLeft : ∀ c ∈ left, isLeftChar c = true) (blank : gap.IsGap) (operator_ : operator ≠ [])
    (inOperator : ∀ c ∈ operator, isOperatorChar c = true) (blank' : gap'.IsGap)
    (visible : right.isVisible = true)
    (ends : ∀ c, right.head? = some c → isOperatorChar c = false) :
    ofTrimmed? (left ++ (gap ++ (operator ++ (gap' ++ right)))) =
      some ⟨left, operator, right⟩ := by
  obtain ⟨right_, shown⟩ := Text.isVisible_iff.mp visible
  have compares : ∀ c, (operator ++ (gap' ++ right)).head? = some c →
      isOperatorChar c = true := by
    rw [List.head?_append_of_ne_nil _ operator_]
    exact fun c first => inOperator c (List.mem_of_head? first)
  -- Each part is the longest run of its class, since the next part or a gap starts outside of it.
  obtain ⟨left_eq, behind⟩ := Text.span_append inLeft
    (Text.head?_gap_append blank (fun c => isLeftChar_of_isBlank)
      fun c first => isLeftChar_of_isOperatorChar (compares c first))
  have afterLeft := Text.trimStart_gap_append blank fun c first =>
    isBlank_of_isOperatorChar (compares c first)
  obtain ⟨operator_eq, behind'⟩ := Text.span_append inOperator
    (Text.head?_gap_append blank' (fun c => isOperatorChar_of_isBlank) ends)
  have afterOperator := Text.trimStart_gap_append blank' fun c first =>
    shown c (List.mem_of_head? first)
  simp only [ofTrimmed?, left_eq, behind, afterLeft, operator_eq, behind', afterOperator]
  simpa [left_, operator_, right_] using shown

private theorem isOperatorChar_of_shareOperator {left operator : Text}
    (inside : ∀ d ∈ operator, isOperatorChar d = true)
    (shared : shareOperator left operator = some c) :
    ∃ d, isOperatorChar d = true ∧ c.right = [d] := by
  unfold shareOperator at shared
  split at shared
  next last found =>
    split at shared
    · cases shared
    · cases shared
      exact ⟨last, inside last (List.mem_of_getLast? found), rfl⟩
  · cases shared

/-- The parts that are found are those of the text, unless a comparison character had to be given
back for the right operand. -/
theorem writtenAs_of_ofTrimmed? (found : ofTrimmed? t = some c) :
    (c.WrittenAs t ∧ ∀ d ∈ c.right, Text.isBlank d = false) ∨
      ∃ d, isOperatorChar d = true ∧ c.right = [d] := by
  simp only [ofTrimmed?] at found
  split at found
  · cases found
  · split at found
    · right
      exact isOperatorChar_of_shareOperator (fun d => List.mem_takeWhile_imp) found
    · split at found
      · cases found
      next visible =>
        left
        cases found
        -- Between the parts stand the blanks that were dropped.
        obtain ⟨gap, blank, behind⟩ := Text.exists_gap_trimStart (t.dropWhile isLeftChar)
        obtain ⟨gap', blank', behind'⟩ := Text.exists_gap_trimStart
          ((Text.trimStart (t.dropWhile isLeftChar)).dropWhile isOperatorChar)
        refine ⟨⟨gap, gap', blank, blank', ?_⟩, ?_⟩
        · rw [← behind', List.takeWhile_append_dropWhile, ← behind,
            List.takeWhile_append_dropWhile]
        · simpa using visible

end Condition

namespace Evaluation

open Condition

/-- The condition compares a variable with a literal, and this is what the store holds. -/
structure Compares (store : Dictionary Int) (c : Condition) (comparison : Comparison)
    (value : Int) (literal : Literal) : Prop where
  named : isName c.left = true
  bound : store.get? c.left = some value
  operator : c.operator = comparison.operator
  right : c.right = literal.text

variable {store : Dictionary Int} {t : Text} {c : Condition} {comparison : Comparison}
  {value : Int} {literal : Literal}

/-! ### The parts of a comparison -/

theorem isLeftChar_of_isName {name : Text} (named : isName name = true) :
    name ≠ [] ∧ ∀ d ∈ name, isLeftChar d = true := by
  obtain ⟨nonempty, letters, _⟩ := isName_iff.mp named
  refine ⟨nonempty, fun d member => ?_⟩
  have letter := letters d member
  have visible := Substitution.isBlank_of_isRunChar (Substitution.isRunChar_of_isLetter letter)
  have other : isOperatorChar d = false := by
    by_contra compares
    rcases isOperatorChar_iff.mp (by simpa using compares) with ((rfl | rfl) | rfl) | rfl
    all_goals cases letter
  simp [isLeftChar, visible, other]

theorem isOperatorChar_of_operator (comparison : Comparison) :
    comparison.operator ≠ [] ∧ ∀ d ∈ comparison.operator, isOperatorChar d = true := by
  cases comparison <;> simp [Comparison.operator, isOperatorChar]

theorem isOperatorChar_of_isDigit {d : Char} (digit : Text.isDigit d = true) :
    isOperatorChar d = false := by
  by_contra compares
  rcases isOperatorChar_iff.mp (by simpa using compares) with ((rfl | rfl) | rfl) | rfl
  all_goals exact absurd digit (by decide)

/-- A literal has no blank and no comparison character in it. -/
theorem literal_chars (literal : Literal) :
    literal.text ≠ [] ∧
      ∀ d ∈ literal.text, Text.isBlank d = false ∧ isOperatorChar d = false := by
  obtain ⟨sign, digits, wellFormed⟩ := literal
  obtain ⟨nonempty, all⟩ := Text.isDigits_iff.mp wellFormed
  have row : ∀ d ∈ digits, Text.isBlank d = false ∧ isOperatorChar d = false := fun d member =>
    ⟨Text.isBlank_of_isDigit (all d member), isOperatorChar_of_isDigit (all d member)⟩
  cases sign with
  | none => exact ⟨nonempty, row⟩
  | some sign =>
    refine ⟨List.cons_ne_nil _ _, List.forall_mem_cons.mpr ⟨?_, row⟩⟩
    cases sign <;> decide

/-! ### Conditions -/

theorem parse?_of_compares (written : c.WrittenAs (Text.trim t))
    (compares : Compares store c comparison value literal) : Condition.parse? t = some c := by
  obtain ⟨named, _, operator, right⟩ := compares
  obtain ⟨gap, gap', blank, blank', shape⟩ := written
  obtain ⟨left_, inLeft⟩ := isLeftChar_of_isName named
  obtain ⟨operator_, inOperator⟩ := isOperatorChar_of_operator comparison
  obtain ⟨right_, chars⟩ := literal_chars literal
  rw [← operator] at operator_ inOperator
  rw [← right] at right_ chars
  rw [Condition.parse?, shape]
  apply ofTrimmed?_of_parts left_ inLeft blank operator_ inOperator blank'
  · exact Text.isVisible_iff.mpr ⟨right_, fun d member => (chars d member).1⟩
  · exact fun d first => (chars d (List.mem_of_head? first)).2

/-- The truth of a comparison, if its literal can be read. -/
theorem condition_of_compares (written : c.WrittenAs (Text.trim t))
    (compares : Compares store c comparison value literal) :
    condition store t =
      if literal.Readable then .ok (comparison.holds value literal.value)
      else .error (.failure (.numeral .tooManyDigits)) := by
  have parsed := parse?_of_compares written compares
  obtain ⟨named, bound, operator, right⟩ := compares
  have known := Comparison.ofOperator?_eq_some_iff.mpr operator
  simp only [condition, parsed, known, named, bound, right, literal.isInteger_text,
    literal.literal_text]
  by_cases readable : literal.Readable
  · simp [readable, Except.map]
  · simp [readable, Except.map]

/-- What is not reported is a comparison. -/
theorem exists_compares (unreported : ∀ cause, condition store t ≠ .error (.cause cause)) :
    ∃ c comparison value literal,
      Condition.WrittenAs c (Text.trim t) ∧ Compares store c comparison value literal := by
  unfold condition at unreported
  split at unreported
  · exact absurd rfl (unreported _)
  next c parsed =>
    split at unreported
    · exact absurd rfl (unreported _)
    next comparison operator =>
      split at unreported
      · exact absurd rfl (unreported _)
      next named =>
        split at unreported
        · exact absurd rfl (unreported _)
        next value bound =>
          split at unreported
          next recognised =>
            rcases writtenAs_of_ofTrimmed? parsed with ⟨written, visible⟩ | ⟨d, given, right⟩
            · have unbroken : '\n' ∉ c.right := fun member =>
                absurd (visible '\n' member) (by decide)
              obtain ⟨literal, right⟩ := Literal.exists_text_eq recognised unbroken
              exact ⟨c, comparison, value, literal, written, by simpa using named, bound,
                Comparison.ofOperator?_eq_some_iff.mp operator, right.symm⟩
            · -- A comparison character that was given back is no literal.
              rw [right] at recognised
              rcases isOperatorChar_iff.mp given with ((rfl | rfl) | rfl) | rfl
              all_goals exact absurd recognised (by decide)
          · exact absurd rfl (unreported _)

/-- A condition has a value exactly when its trimmed text is a variable, a comparison and a literal
with any blanks between them, and the value says whether the comparison relates the two numbers.
Every other text is reported, but for a literal that is too long to be read. -/
theorem condition_exact (store : Dictionary Int) (t : Text) :
    (∀ truth, condition store t = .ok truth ↔
      ∃ c comparison value literal, Condition.WrittenAs c (Text.trim t) ∧
        Compares store c comparison value literal ∧ literal.Readable ∧
        (truth = true ↔ comparison.Relates value literal.value)) ∧
    ((¬ ∃ c comparison value literal, Condition.WrittenAs c (Text.trim t) ∧
        Compares store c comparison value literal) →
      ∃ cause, condition store t = .error (.cause cause)) ∧
    ∀ c comparison value literal, Condition.WrittenAs c (Text.trim t) →
      Compares store c comparison value literal → ¬ literal.Readable →
      condition store t = .error (.failure (.numeral .tooManyDigits)) := by
  refine ⟨fun truth => ?_, ?_, ?_⟩
  · constructor
    · intro evaluated
      have unreported : ∀ cause, condition store t ≠ .error (.cause cause) := by simp [evaluated]
      obtain ⟨c, comparison, value, literal, written, compares⟩ := exists_compares unreported
      rw [condition_of_compares written compares] at evaluated
      split at evaluated
      next readable =>
        cases evaluated
        exact ⟨c, comparison, value, literal, written, compares, readable,
          comparison.holds_iff _ _⟩
      · cases evaluated
    · rintro ⟨c, comparison, value, literal, written, compares, readable, meaning⟩
      rw [condition_of_compares written compares, if_pos readable, Except.ok.injEq,
        Bool.eq_iff_iff, comparison.holds_iff]
      exact meaning.symm
  · intro other
    by_contra unreported
    exact other (exists_compares fun cause reported => unreported ⟨cause, reported⟩)
  · intro c comparison value literal written compares long
    rw [condition_of_compares written compares, if_neg long]

/-- A variable that is worth five. -/
private def five : Dictionary Int := Dictionary.empty.set "x".toList 5

/-- Without a gap the operator still ends where the literal starts.  In the second text the last
comparison character is read as the right operand, which is no literal. -/
theorem condition_exact_of_splits :
    condition five " x==+5 ".toList = .ok true ∧
      ∃ cause, condition five "x >=".toList = .error (.cause cause) := by
  constructor
  · let parts : Condition := ⟨"x".toList, "==".toList, "+5".toList⟩
    let literal : Literal := ⟨some .plus, "5".toList, by decide⟩
    have written : parts.WrittenAs (Text.trim " x==+5 ".toList) :=
      ⟨[], [], by simp [Text.IsGap], by simp [Text.IsGap], by decide⟩
    have compares : Compares five parts .equal 5 literal :=
      ⟨by decide, by decide, by decide, rfl⟩
    apply ((condition_exact _ _).1 true).mpr
    exact ⟨parts, .equal, 5, literal, written, compares, by decide, fun _ => rfl, fun _ => rfl⟩
  · apply (condition_exact _ _).2.1
    rintro ⟨c, comparison, value, literal, written, compares⟩
    have evaluated := condition_of_compares written compares
    have reported : condition five "x >=".toList =
        .error (wrongOperand 3 "an integer".toList "=".toList) := rfl
    rw [reported] at evaluated
    split at evaluated
    · cases evaluated
    · cases evaluated

end Evaluation

end Plotter
