import Plotter.Proofs.Script.Evaluation
import Plotter.Proofs.Script.Literal
import Plotter.Proofs.Text.LowerCase

/-!
# The value of an expression

A row of digits is worth the number it denotes, and a name what the store holds under it.  The
value of a chain is the sum of its terms, each under its sign.  Nothing else has a value, and what
is reported depends on the first thing that is wrong: a text that is no chain is reported as a
whole, before any term is looked at, and otherwise the leftmost term without a value is.

A row of more digits than can be read is the one thing here that no report is about.

## Main result

`expression_exact`: when an expression has a value and which one, and what comes of all others.
-/

namespace Plotter

namespace Evaluation

open Expression

/-- What a term is worth. -/
inductive HasValue (store : Dictionary Int) : Text → Int → Prop
  | digits {row : Text} (wellFormed : Text.isDigits row = true)
      (readable : row.length ≤ Text.maxDigits) : HasValue store row (Text.digitsValue row)
  | name {name : Text} {value : Int} (named : isName name = true)
      (bound : store.get? name = some value) : HasValue store name value

/-- What several terms are worth together, each under its sign. -/
inductive Sums (store : Dictionary Int) : List Term → Int → Prop
  | nil : Sums store [] 0
  | cons {t : Term} {terms : List Term} {value others : Int} (here : HasValue store t.text value)
      (later : Sums store terms others) : Sums store (t :: terms) (t.sign.apply value + others)

/-- What is wrong with a term that has no value: a name is not defined, a row of digits is too
long, and any other text is no term at all. -/
def flaw (t : Text) : Problem :=
  if isName t then .cause (.undefinedVariable t)
  else if Text.isDigits t then .failure (.numeral .tooManyDigits)
  else .cause (.invalidTerm t)

variable {store : Dictionary Int} {t : Text} {value : Int} {terms : List Term}

/-! ### Literals and names -/

/-- No literal is a name: it holds a digit, or it starts with a sign. -/
theorem isInteger_of_isName (named : isName t = true) : Text.isInteger t = false := by
  obtain ⟨nonempty, letters, _⟩ := isName_iff.mp named
  by_contra literal
  have unbroken : '\n' ∉ t := fun member => absurd (letters '\n' member) (by decide)
  obtain ⟨⟨sign, digits, wellFormed⟩, rfl⟩ :=
    Literal.exists_text_eq (by simpa using literal) unbroken
  cases sign with
  | none =>
    obtain ⟨some_, all⟩ := Text.isDigits_iff.mp wellFormed
    obtain ⟨c, rest, rfl⟩ := List.exists_cons_of_ne_nil some_
    have digit := Text.isLetter_of_isDigit (all c (List.mem_cons_self ..))
    rw [letters c (List.mem_cons_self ..)] at digit
    cases digit
  | some sign =>
    have letter := letters sign.char (List.mem_cons_self ..)
    cases sign <;> cases letter

theorem isName_of_isDigits (digits : Text.isDigits t = true) : isName t = false := by
  by_contra named
  have literal := (Literal.mk none t digits).isInteger_text
  rw [show (Literal.mk none t digits).text = t from rfl,
    isInteger_of_isName (by simpa using named)] at literal
  cases literal

/-- A term has no sign of its own, so a literal in its place is a row of digits. -/
theorem isDigits_of_isInteger (isTerm : IsTerm t) (literal : Text.isInteger t = true) :
    Text.isDigits t = true := by
  obtain ⟨_, inside⟩ := isTerm
  have unbroken : '\n' ∉ t := fun member => absurd (inside '\n' member) (by decide)
  obtain ⟨⟨sign, digits, wellFormed⟩, rfl⟩ := Literal.exists_text_eq literal unbroken
  cases sign with
  | none => exact wellFormed
  | some sign =>
    have out := isTermChar_char sign
    rw [inside sign.char (List.mem_cons_self ..)] at out
    cases out

/-! ### Terms -/

theorem term_of_isDigits (digits : Text.isDigits t = true) :
    term store t =
      if t.length ≤ Text.maxDigits then .ok (Text.digitsValue t : Int)
      else .error (.failure (.numeral .tooManyDigits)) := by
  have literal : Text.isInteger t = true := (Literal.mk none t digits).isInteger_text
  rw [term, if_pos literal]
  exact (Literal.mk none t digits).literal_text

theorem term_of_bound (named : isName t = true) (bound : store.get? t = some value) :
    term store t = .ok value := by
  simp [term, isInteger_of_isName named, named, bound]

theorem term_of_unbound (named : isName t = true) (unbound : store.get? t = none) :
    term store t = .error (.cause (.undefinedVariable t)) := by
  simp [term, isInteger_of_isName named, named, unbound]

theorem term_of_hasValue (worth : HasValue store t value) : term store t = .ok value := by
  cases worth with
  | digits wellFormed readable => rw [term_of_isDigits wellFormed, if_pos readable]
  | name named bound => exact term_of_bound named bound

theorem term_of_valueless (isTerm : IsTerm t) (worthless : ¬ ∃ value, HasValue store t value) :
    term store t = .error (flaw t) := by
  by_cases named : isName t = true
  · cases found : store.get? t with
    | some value => exact absurd ⟨value, .name named found⟩ worthless
    | none => rw [term_of_unbound named found, flaw, if_pos named]
  · by_cases digits : Text.isDigits t = true
    · have long : ¬ t.length ≤ Text.maxDigits := fun readable =>
        worthless ⟨_, .digits digits readable⟩
      rw [term_of_isDigits digits, if_neg long, flaw, if_neg named, if_pos digits]
    · have other : ¬ Text.isInteger t = true := fun literal =>
        digits (isDigits_of_isInteger isTerm literal)
      rw [term, if_neg other, if_neg named, flaw, if_neg named, if_neg digits]

theorem term_eq_ok_iff (isTerm : IsTerm t) :
    term store t = .ok value ↔ HasValue store t value := by
  constructor
  · intro evaluated
    by_cases worth : ∃ value, HasValue store t value
    · obtain ⟨found, worth⟩ := worth
      rw [term_of_hasValue worth] at evaluated
      cases evaluated
      exact worth
    · rw [term_of_valueless isTerm worth] at evaluated
      cases evaluated
  · exact term_of_hasValue

/-! ### Sums -/

theorem sum_eq_ok_iff (isTerm : ∀ x ∈ terms, IsTerm x.text) :
    sum store terms = .ok value ↔ Sums store terms value := by
  induction terms generalizing value with
  | nil =>
    constructor
    · intro summed
      cases summed
      exact .nil
    · intro sums
      cases sums
      rfl
  | cons next terms ih =>
    obtain ⟨first, others⟩ := List.forall_mem_cons.mp isTerm
    constructor
    · intro summed
      simp only [sum] at summed
      obtain ⟨here, evaluated, rest⟩ := bind_eq_ok summed
      obtain ⟨later, added, total⟩ := bind_eq_ok rest
      cases total
      exact .cons ((term_eq_ok_iff first).mp evaluated) ((ih others).mp added)
    · intro sums
      cases sums with
      | cons here later =>
        rw [sum, term_of_hasValue here, (ih others).mpr later]
        rfl

/-- The terms before the leftmost bad one have been evaluated, those behind it are never
reached. -/
theorem sum_of_bad {before after : List Term} {bad : Term} (isTerm : IsTerm bad.text)
    (good : ∀ x ∈ before, ∃ value, HasValue store x.text value)
    (worthless : ¬ ∃ value, HasValue store bad.text value) :
    sum store (before ++ bad :: after) = .error (flaw bad.text) := by
  induction before with
  | nil =>
    rw [List.nil_append, sum, term_of_valueless isTerm worthless]
    rfl
  | cons next before ih =>
    obtain ⟨⟨value, here⟩, others⟩ := List.forall_mem_cons.mp good
    rw [List.cons_append, sum, term_of_hasValue here, ih others]
    rfl

/-! ### Expressions -/

theorem expression_of_writtenAs {c : Chain} (written : c.WrittenAs t) :
    expression store t = sum store c.terms := by
  rw [expression, terms?_of_writtenAs written]

theorem expression_of_malformed (unwritten : ¬ ∃ c : Chain, c.WrittenAs t) :
    expression store t = .error (.cause (.invalidTerm (shownExpression t))) := by
  rw [expression, terms?_eq_none_iff.mpr unwritten]

/-- An expression has a value exactly when its text is a way of writing a chain of terms that have
values, and the value is their sum.  A text that is no way of writing a chain is reported as an
invalid term.  Of all other texts the leftmost term without a value is reported: as an undefined
variable if it is a name, and as an invalid term if it is neither a name nor a row of digits.  A
row of digits has no value only if it is too long to be read, which is a failure. -/
theorem expression_exact (store : Dictionary Int) (t : Text) :
    (∀ value, expression store t = .ok value ↔
      ∃ c : Chain, c.WrittenAs t ∧ Sums store c.terms value) ∧
    ((¬ ∃ c : Chain, c.WrittenAs t) →
      expression store t = .error (.cause (.invalidTerm (shownExpression t)))) ∧
    ∀ c : Chain, c.WrittenAs t → ∀ before bad after, c.terms = before ++ bad :: after →
      (∀ x ∈ before, ∃ value, HasValue store x.text value) →
      (¬ ∃ value, HasValue store bad.text value) →
      expression store t = .error (flaw bad.text) := by
  refine ⟨fun value => ?_, expression_of_malformed, ?_⟩
  · constructor
    · intro evaluated
      by_cases written : ∃ c : Chain, c.WrittenAs t
      · obtain ⟨c, written⟩ := written
        rw [expression_of_writtenAs written] at evaluated
        exact ⟨c, written, (sum_eq_ok_iff (isTerm_of_writtenAs written)).mp evaluated⟩
      · rw [expression_of_malformed written] at evaluated
        cases evaluated
    · rintro ⟨c, written, sums⟩
      rw [expression_of_writtenAs written]
      exact (sum_eq_ok_iff (isTerm_of_writtenAs written)).mpr sums
  · intro c written before bad after parts good worthless
    have isTerm := isTerm_of_writtenAs written bad (by simp [parts])
    rw [expression_of_writtenAs written, parts]
    exact sum_of_bad isTerm good worthless

/-- Two terms without a sign between them are no chain.  In a chain with two bad terms the first one
counts, whatever the other is. -/
theorem expression_exact_of_bad_terms :
    (¬ ∃ c : Chain, c.WrittenAs "x 1".toList) ∧
      expression .empty "x 1".toList = .error (.cause (.invalidTerm "x 1".toList)) ∧
      (Chain.mk (some .minus) "7".toList
        [⟨.plus, "y".toList⟩, ⟨.minus, "pen".toList⟩]).WrittenAs " -7 +y- pen".toList ∧
      expression .empty " -7 +y- pen".toList = .error (.cause (.undefinedVariable "y".toList)) := by
  have malformed : ¬ ∃ c : Chain, c.WrittenAs "x 1".toList :=
    terms?_eq_none_iff.mp (by decide)
  have written : (Chain.mk (some .minus) "7".toList
      [⟨.plus, "y".toList⟩, ⟨.minus, "pen".toList⟩]).WrittenAs " -7 +y- pen".toList :=
    writtenAs_iff.mpr (by decide)
  refine ⟨malformed, (expression_exact _ _).2.1 malformed, written, ?_⟩
  refine (expression_exact _ _).2.2 _ written [⟨.minus, "7".toList⟩] ⟨.plus, "y".toList⟩
    [⟨.minus, "pen".toList⟩] rfl ?_ ?_
  · exact List.forall_mem_singleton.mpr ⟨7, .digits (by decide) (by decide)⟩
  · rintro ⟨value, worth⟩
    cases worth with
    | digits wellFormed _ => cases wellFormed
    | name _ bound => cases bound

end Evaluation

end Plotter
