import Plotter.Proofs.Script.Listing
import Plotter.Proofs.Script.Substitution

/-!
# The recognisers agree

A line is looked at by five recognisers: for keywords, for assignments, for calls, for headers and
for arithmetic.  They are written independently of each other, with rules of their own for letters,
blanks and case, and other parts of a program ask them one by one.  No text is claimed by two of
them, what they say fits together with what the line is classified as, and every line is classified.

An assignment of arithmetic is one that cannot go wrong once its names are defined, however long its
numbers are.  Only a number too long to be read has no value.

## Main result

`recognisers_partition_lines`: what each recogniser says about a text, for all texts.

## Proof strategy

A text starts with a keyword, or it is an assignment, or a call, or none of these.  In each case the
others are excluded (`classify_of_spelled`, `classify_of_isAssignment`, `classify_of_parse?` and
`classify_of_unrecognised`), and everything else is read off the case.
-/

namespace Plotter

open Expression

/-! ### Arithmetic -/

namespace Evaluation

variable {store : Dictionary Int} {terms : List Term}

theorem exists_sums (worth : ∀ x ∈ terms, ∃ value, HasValue store x.text value) :
    ∃ total, Sums store terms total := by
  induction terms with
  | nil => exact ⟨0, .nil⟩
  | cons first terms ih =>
    obtain ⟨⟨value, here⟩, others⟩ := List.forall_mem_cons.mp worth
    obtain ⟨total, later⟩ := ih others
    exact ⟨_, .cons here later⟩

/-- No report is about a row of digits, nor about a name that is defined. -/
theorem sum_ne_cause (cause : Cause)
    (operands : ∀ x ∈ terms, Text.isDigits x.text = true ∨ ∃ value, HasValue store x.text value) :
    sum store terms ≠ .error (.cause cause) := by
  induction terms with
  | nil => exact nofun
  | cons first terms ih =>
    obtain ⟨here, others⟩ := List.forall_mem_cons.mp operands
    intro failed
    rcases bind_eq_error failed with first_ | ⟨value, _, rest⟩
    · rcases here with digits | ⟨value, worth⟩
      · rw [term_of_isDigits digits] at first_
        split at first_ <;> cases first_
      · rw [term_of_hasValue worth] at first_
        cases first_
    · rcases bind_eq_error rest with later | ⟨_, _, ⟨⟩⟩
      exact ih others later

/-- Without undefined names there is nothing to report, and without overlong numbers nothing fails. -/
theorem expression_of_defined {t : Text} {c : Chain} (written : c.WrittenAs t)
    (operands : ∀ x ∈ c.terms, Text.isDigits x.text = true ∨ isName x.text = true)
    (defined : ∀ x ∈ c.terms, isName x.text = true → ∃ value, store.get? x.text = some value) :
    (∀ cause, expression store t ≠ .error (.cause cause)) ∧
      ((∀ x ∈ c.terms, Text.isDigits x.text = true → x.text.length ≤ Text.maxDigits) →
        ∃ value, expression store t = .ok value ∧ Sums store c.terms value) := by
  rw [expression_of_writtenAs written]
  constructor
  · refine fun cause => sum_ne_cause cause fun x member => (operands x member).imp id fun named => ?_
    obtain ⟨value, bound⟩ := defined x member named
    exact ⟨value, .name named bound⟩
  · intro readable
    have worth : ∀ x ∈ c.terms, ∃ value, HasValue store x.text value := by
      intro x member
      rcases operands x member with digits | named
      · exact ⟨_, .digits digits (readable x member digits)⟩
      · obtain ⟨value, bound⟩ := defined x member named
        exact ⟨value, .name named bound⟩
    obtain ⟨total, sums⟩ := exists_sums worth
    exact ⟨total, (sum_eq_ok_iff (isTerm_of_writtenAs written)).mpr sums, sums⟩

end Evaluation

namespace Statement

variable {t : Text}

/-! ### The cases -/

/-- A trimmed text of the shape of an assignment is one. -/
theorem classify_of_isAssignment (trimmed : Text.trim t = t) (assigns : isAssignment t = true) :
    ∃ name expression, sides? t = some (name, expression) ∧ isName name = true ∧
      classify t = .ok (.assignment name (Text.trim expression)) := by
  obtain ⟨word, arguments, cut, free⟩ := words_of_isAssignment assigns
  obtain ⟨⟨name, expression⟩, shape, named⟩ :=
    (Option.any_eq_true _ _).mp (Bool.and_eq_true_iff.mp assigns).2
  refine ⟨name, expression, shape, named, ?_⟩
  simp [classify, cut, free, ofPlainLine, trimmed, assigns, shape]

/-- What no recogniser claims is invalid. -/
theorem classify_of_unrecognised (trimmed : Text.trim t = t)
    (wordless : ∀ word, (Text.words t).head? = some word → Keyword.ofWord? word = none)
    (bare : isAssignment t = false) (uncalled : Call.parse? t = none) :
    classify t = .ok (.invalid (Text.words t).head? (Text.words t).tail) := by
  cases cut : Text.words t with
  | nil => simp [classify, cut]
  | cons word arguments =>
    have free := wordless word (by simp [cut])
    simp [classify, cut, free, ofPlainLine, trimmed, bare, uncalled]

/-- What the recognisers say about a text that is classified as a statement. -/
inductive Recognised (t : Text) : Statement → Prop
  | keyword {word : Text} {arguments : List Text} {keyword : Keyword}
      (cut : Text.words t = word :: arguments) (found : Keyword.ofWord? word = some keyword)
      (bare : isAssignment t = false) (uncalled : Call.parse? t = none) :
      Recognised t (ofKeyword arguments keyword)
  | assignment {name expression : Text} (assigns : isAssignment t = true)
      (uncalled : Call.parse? t = none) (shape : sides? t = some (name, expression)) :
      Recognised t (.assignment name (Text.trim expression))
  | call {invocation : Call} (bare : isAssignment t = false)
      (parsed : Call.parse? t = some invocation) : Recognised t (.call invocation)
  | invalid (bare : isAssignment t = false) (uncalled : Call.parse? t = none) :
      Recognised t (.invalid (Text.words t).head? (Text.words t).tail)

/-- One recogniser at most claims a text, and it is classified as this one says. -/
theorem recognised_of_classify {statement : Statement} (trimmed : Text.trim t = t)
    (read : classify t = .ok statement) : Recognised t statement := by
  by_cases spelled : ∃ word keyword, (Text.words t).head? = some word ∧
      Keyword.ofWord? word = some keyword
  · obtain ⟨word, keyword, first, found⟩ := spelled
    obtain ⟨arguments, cut⟩ := List.head?_eq_some_iff.mp first
    rw [classify_of_spelled trimmed cut found] at read
    cases read
    exact .keyword cut found (isAssignment_of_spelled cut found) (parse?_of_spelled cut found)
  · cases parsed : Call.parse? t with
    | some invocation =>
      rw [classify_of_parse? trimmed parsed] at read
      cases read
      exact .call (isAssignment_of_parse? parsed) parsed
    | none =>
      by_cases assigns : isAssignment t = true
      · obtain ⟨name, expression, shape, _, classified⟩ := classify_of_isAssignment trimmed assigns
        rw [classified] at read
        cases read
        exact .assignment assigns parsed shape
      · have bare : isAssignment t = false := by simpa using assigns
        have wordless : ∀ word, (Text.words t).head? = some word → Keyword.ofWord? word = none :=
          fun word first => Option.eq_none_iff_forall_ne_some.mpr fun keyword found =>
            spelled ⟨word, keyword, first, found⟩
        rw [classify_of_unrecognised trimmed wordless bare parsed] at read
        cases read
        exact .invalid bare parsed

/-- The first word of a header is its keyword. -/
theorem words_of_header {header : Header} (written : header.WrittenAs t) :
    ∃ word arguments, Text.words t = word :: arguments ∧
      Keyword.ofWord? word = some (.opening .method) := by
  obtain ⟨spelled, blank, apart, _⟩ := written
  have found := Keyword.ofWord?_eq_some_iff (k := .opening .method).mpr spelled
  obtain ⟨nonempty, letters⟩ := Keyword.letters_of_ofWord? found
  have visible := Text.isVisible_iff.mpr
    ⟨nonempty, fun c member => Text.isBlank_of_isLetter (letters c member)⟩
  obtain ⟨c, gap, rfl⟩ := List.exists_cons_of_ne_nil apart
  refine ⟨_, _, Text.words_append visible ?_, found⟩
  rintro _ ⟨⟩
  exact blank c (List.mem_cons_self ..)

/-- An arithmetic assignment has two terms or more, and each is a row of digits or a name. -/
theorem terms_of_isArithmetic (trimmed : Text.trim t = t) (arithmetic : isArithmetic t = .ok true) :
    ∃ name expression, isAssignment t = true ∧ sides? t = some (name, expression) ∧
      ∃ c : Chain, c.WrittenAs (Text.trim expression) ∧ 2 ≤ c.terms.length ∧
        ∀ x ∈ c.terms, Text.isDigits x.text = true ∨ isName x.text = true := by
  unfold isArithmetic at arithmetic
  rw [trimmed] at arithmetic
  split at arithmetic
  next assigns =>
    split at arithmetic
    · cases arithmetic
    next name expression shape =>
      split at arithmetic
      next terms parsed =>
        simp only [Except.ok.injEq, Bool.and_eq_true, decide_eq_true_eq, List.all_eq_true] at arithmetic
        obtain ⟨c, written, rfl⟩ := terms?_eq_some_iff.mp parsed
        refine ⟨name, expression, assigns, shape, c, ?_, arithmetic.1, fun x member => ?_⟩
        · rwa [writtenAs_iff, tokens_trim, ← writtenAs_iff]
        · exact Evaluation.operand_cases (isTerm_of_writtenAs written x member) (arithmetic.2 x member)
      · cases arithmetic
  · cases arithmetic

theorem isArithmetic_of_trimmed (trimmed : Text.trim t = t) :
    ∃ arithmetic, isArithmetic t = .ok arithmetic := by
  unfold isArithmetic
  rw [trimmed]
  split
  next assigns =>
    obtain ⟨name, expression, shape, _⟩ := classify_of_isAssignment trimmed assigns
    simp only [shape]
    split <;> exact ⟨_, rfl⟩
  · exact ⟨_, rfl⟩

/-! ### All recognisers -/

/-- Every text is classified.  It is an assignment or a call exactly when the recogniser of these
says so, and then with the call that is read.  A text that starts with a keyword is the block line or
the drawing command of this keyword, and neither an assignment nor a call.  A header opens a
definition.  What is none of this is invalid.

When the right side of an assignment is recognised as arithmetic, no store that defines its names
leads to a report when it is evaluated; it has a value, the sum of its terms, if none of its rows of
digits is too long. -/
theorem recognisers_partition_lines (s : Text) :
    ∃ statement, classify (Text.trim s) = .ok statement ∧
      (statement.kind = .assignment ↔ isAssignment (Text.trim s) = true) ∧
      (∀ invocation,
        statement = .call invocation ↔ Call.parse? (Text.trim s) = some invocation) ∧
      (∀ word arguments keyword, Text.words (Text.trim s) = word :: arguments →
        Keyword.ofWord? word = some keyword →
        statement = ofKeyword arguments keyword ∧ isAssignment (Text.trim s) = false ∧
          Call.parse? (Text.trim s) = none) ∧
      (∀ header, Header.parse? (Text.trim s) = some header →
        ∃ arguments, statement = .block .method false arguments) ∧
      (isAssignment (Text.trim s) = false → Call.parse? (Text.trim s) = none →
        (∀ word, (Text.words (Text.trim s)).head? = some word → Keyword.ofWord? word = none) →
        statement =
          .invalid (Text.words (Text.trim s)).head? (Text.words (Text.trim s)).tail) ∧
      ∃ arithmetic, isArithmetic (Text.trim s) = .ok arithmetic ∧
        (arithmetic = true → ∃ name expression, statement = .assignment name expression ∧
          ∃ c : Chain, c.WrittenAs expression ∧ 2 ≤ c.terms.length ∧
            ∀ store : Dictionary Int,
              (∀ x ∈ c.terms, isName x.text = true → ∃ value, store.get? x.text = some value) →
              (∀ cause, Evaluation.expression store expression ≠ .error (.cause cause)) ∧
              ((∀ x ∈ c.terms, Text.isDigits x.text = true → x.text.length ≤ Text.maxDigits) →
                ∃ value, Evaluation.expression store expression = .ok value ∧
                  Evaluation.Sums store c.terms value)) := by
  have trimmed := Text.trim_trim s
  generalize Text.trim s = t at trimmed
  obtain ⟨statement, read⟩ := classify_of_trimmed trimmed
  have recognised := recognised_of_classify trimmed read
  -- A keyword in front decides everything, also for a line that a header is read from.
  have spelled : ∀ word arguments keyword, Text.words t = word :: arguments →
      Keyword.ofWord? word = some keyword → statement = ofKeyword arguments keyword := by
    intro word arguments keyword cut found
    rw [classify_of_spelled trimmed cut found] at read
    exact (Except.ok.inj read).symm
  refine ⟨statement, read, ?_, ?_, ?_, ?_, ?_, ?_⟩
  · cases recognised with
    | @keyword _ _ keyword _ _ bare _ =>
      cases keyword <;> simp [kind, ofKeyword, bare]
    | assignment assigns _ _ => simp [kind, assigns]
    | call bare _ => simp [kind, bare]
    | invalid bare _ => simp [kind, bare]
  · intro invocation
    cases recognised with
    | @keyword _ _ keyword _ _ _ uncalled =>
      cases keyword <;> simp [ofKeyword, uncalled]
    | assignment _ uncalled _ => simp [uncalled]
    | call _ parsed => simp [parsed]
    | invalid _ uncalled => simp [uncalled]
  · intro word arguments keyword cut found
    exact ⟨spelled word arguments keyword cut found, isAssignment_of_spelled cut found,
      parse?_of_spelled cut found⟩
  · intro header parsed
    obtain ⟨word, arguments, cut, found⟩ :=
      words_of_header ((Header.parse?_eq_some_iff_of_trimmed trimmed).mp parsed)
    exact ⟨arguments, spelled word arguments _ cut found⟩
  · intro bare uncalled wordless
    rw [classify_of_unrecognised trimmed wordless bare uncalled] at read
    exact (Except.ok.inj read).symm
  · obtain ⟨arithmetic, answered⟩ := isArithmetic_of_trimmed trimmed
    refine ⟨arithmetic, answered, ?_⟩
    rintro rfl
    obtain ⟨name, expression, assigns, shape, c, written, two, operands⟩ :=
      terms_of_isArithmetic trimmed answered
    obtain ⟨_, _, shape', _, classified⟩ := classify_of_isAssignment trimmed assigns
    rw [shape] at shape'
    cases shape'
    rw [classified] at read
    exact ⟨name, Text.trim expression, (Except.ok.inj read).symm, c, written, two, fun store =>
      Evaluation.expression_of_defined written operands⟩

/-- A keyword in front of an equals sign is a command with wrong arguments, and a keyword that an
equals sign is stuck to is no keyword. -/
theorem recognisers_partition_lines_of_keywords :
    let store : Dictionary Int := ⟨[("y".toList, 3)]⟩
    classify (Text.trim "Pen = 3".toList) = .ok (.command .pen ["=".toList, "3".toList]) ∧
      (∃ arguments, classify (Text.trim " METHOD f(a)".toList) =
        .ok (.block .method false arguments)) ∧
      classify (Text.trim "if=5".toList) = .ok (.invalid (some "if=5".toList) []) ∧
      ∃ value, Evaluation.expression store "y - 2".toList = .ok value := by
  intro store
  refine ⟨?_, ?_, ?_, ?_⟩
  · obtain ⟨_, read, _, _, keyword, _⟩ := recognisers_partition_lines "Pen = 3".toList
    rw [read, (keyword "Pen".toList ["=".toList, "3".toList] (.command .pen) (by decide)
      (by decide)).1]
    rfl
  · obtain ⟨_, read, _, _, _, header, _⟩ := recognisers_partition_lines " METHOD f(a)".toList
    obtain ⟨arguments, rfl⟩ := header ⟨"f".toList, ["a".toList]⟩ (by decide)
    exact ⟨arguments, read⟩
  · obtain ⟨_, read, _, _, _, _, other, _⟩ := recognisers_partition_lines "if=5".toList
    have wordless : ∀ word, (Text.words (Text.trim "if=5".toList)).head? = some word →
        Keyword.ofWord? word = none := by
      rintro _ ⟨⟩
      decide
    rw [read, other (by decide) (by decide) wordless]
    rfl
  · obtain ⟨_, read, _, _, _, _, _, arithmetic, answered, runs⟩ :=
      recognisers_partition_lines "x = y - 2".toList
    have true_ : isArithmetic (Text.trim "x = y - 2".toList) = .ok true := rfl
    rw [true_] at answered
    cases answered
    obtain ⟨name, expression, rfl, c, written, _, evaluated⟩ := runs rfl
    have classified : classify (Text.trim "x = y - 2".toList) =
        .ok (.assignment "x".toList "y - 2".toList) := rfl
    rw [classified] at read
    cases read
    have terms : some c.terms = some [⟨.plus, "y".toList⟩, ⟨.minus, "2".toList⟩] :=
      (terms?_of_writtenAs written).symm.trans (by decide)
    rw [Option.some.inj terms] at evaluated
    obtain ⟨_, sums⟩ := evaluated store (List.forall_mem_cons.mpr ⟨fun _ => ⟨3, rfl⟩,
      List.forall_mem_singleton.mpr fun named => absurd named (by decide)⟩)
    obtain ⟨value, done, _⟩ := sums (by decide)
    exact ⟨value, done⟩

end Statement

end Plotter
