import Plotter.Proofs.Script.Expression
import Plotter.Proofs.Script.Passing

/-!
# Arguments in expressions

The parameters of a method never become variables: what a call passes is put into the text of an
expression before the expression is looked at.  This is nevertheless what binding the parameters
would come to.  An expression with its parameters replaced has the value, or the defect, that it has
over a store in which every parameter is bound to what its argument is worth.

A sign is where text and meaning part.  It is no part of a term, so a signed literal put in behind a
sign makes two signs in a row, which no chain has.  Such an expression is reported and never has
another value than the one meant.

## Main result

`expression_parameters`: both facts, for chains of any length and any number of parameters.

## Proof strategy

Signs and blanks belong to no run, so replacing parameters commutes with cutting into tokens: a sign
stays, and a term becomes the tokens of what is put in (`tokens_parameters`).
-/

namespace Plotter

open Expression Substitution

/-! ### Expanded terms -/

namespace Substitution

variable {mapping : Dictionary Text} {t : Text}

/-- Where no letter stands nothing is replaced. -/
theorem parameters_of_unlettered (unlettered : ∀ c ∈ t, Text.isLetter c = false) :
    parameters mapping t = t := by
  induction t using Text.run_induction isRunChar with
  | nil => rfl
  | outside c rest out ih =>
    rw [parameters_cons_of_not out, ih (List.forall_mem_cons.mp unlettered).2]
  | run front rest nonempty inside ends ih =>
    obtain ⟨here, later⟩ := List.forall_mem_append.mp unlettered
    obtain ⟨c, front, rfl⟩ := List.exists_cons_of_ne_nil nonempty
    have other : ¬ (c :: front).all Text.isLetter = true := by
      simp [here c (List.mem_cons_self ..)]
    rw [parameters_append nonempty inside ends, replacement, if_neg other, ih later]

theorem parameters_of_isDigits (digits : Text.isDigits t = true) : parameters mapping t = t :=
  parameters_of_unlettered fun c member =>
    Text.isLetter_of_isDigit ((Text.isDigits_iff.mp digits).2 c member)

/-- A name is a run of its own, so it is replaced or stays. -/
theorem parameters_of_isName (named : isName t = true) :
    parameters mapping t = (mapping.get? t).getD t := by
  obtain ⟨nonempty, letters, _⟩ := isName_iff.mp named
  have inside : ∀ c ∈ t, isRunChar c = true :=
    fun c member => isRunChar_of_isLetter (letters c member)
  rw [parameters_run nonempty inside, replacement, if_pos (List.all_eq_true.mpr letters)]

/-! ### Expanded chains -/

/-- What a token becomes. -/
def expandedToken (mapping : Dictionary Text) : ExprToken → List ExprToken
  | .sign s => [.sign s]
  | .term t => tokens (parameters mapping t)

theorem isRunChar_char (s : Sign) : isRunChar s.char = false := by
  cases s <;> decide

theorem isRunChar_of_not_isTermChar {c : Char} (out : isTermChar c = false) :
    isRunChar c = false := by
  rcases char_cases c with blank | ⟨s, rfl⟩ | inside
  · exact isRunChar_of_isBlank blank
  · exact isRunChar_char s
  · rw [inside] at out
    cases out

/-- The tokens of an expanded text are what becomes of the tokens of the text. -/
theorem tokens_parameters (mapping : Dictionary Text) (t : Text) :
    tokens (parameters mapping t) = (tokens t).flatMap (expandedToken mapping) := by
  induction t using Text.run_induction isTermChar with
  | nil => rfl
  | outside c rest out ih =>
    -- The character stays: a blank gives no token before and after, a sign gives the same one.
    rw [parameters_cons_of_not (isRunChar_of_not_isTermChar out)]
    rcases char_cases c with blank | ⟨s, rfl⟩ | inside
    · rw [tokens_cons_of_isBlank blank, tokens_cons_of_isBlank blank, ih]
    · rw [tokens_cons_sign, tokens_cons_sign, ih]
      rfl
    · rw [inside] at out
      cases out
  | run front rest nonempty inside ends ih =>
    -- What follows a term belongs to no run, so nothing that is put in grows together with it.
    have apart : ∀ c, rest.head? = some c → isRunChar c = false :=
      fun c first => isRunChar_of_not_isTermChar (ends c first)
    have ends' : ∀ c, (parameters mapping rest).head? = some c → isTermChar c = false := by
      rwa [head?_parameters_of_outside apart]
    rw [parameters_append_of_outside front apart, tokens_append_of_outside _ ends', ih,
      tokens_append_of_isTerm ⟨nonempty, inside⟩ ends]
    rfl

end Substitution

def Term.expanded (mapping : Dictionary Text) (t : Term) : Term :=
  { t with text := parameters mapping t.text }

def Chain.expanded (mapping : Dictionary Text) (c : Chain) : Chain where
  lead := c.lead
  first := parameters mapping c.first
  rest := c.rest.map (Term.expanded mapping)

namespace Expression

variable {mapping : Dictionary Text} {c : Chain} {t : Text}

theorem terms_expanded (mapping : Dictionary Text) (c : Chain) :
    (c.expanded mapping).terms = c.terms.map (Term.expanded mapping) := rfl

theorem tokens_of_isTerm (isTerm : IsTerm t) : tokens t = [.term t] := by
  have cut : tokens (t ++ []) = .term t :: tokens [] := tokens_append_of_isTerm isTerm (by simp)
  rwa [List.append_nil] at cut

/-- If every term becomes a term then the chain becomes a chain. -/
theorem writtenAs_parameters (written : c.WrittenAs t)
    (isTerm : ∀ x ∈ c.terms, IsTerm (parameters mapping x.text)) :
    (c.expanded mapping).WrittenAs (parameters mapping t) := by
  obtain ⟨lead, first, rest⟩ := c
  obtain ⟨head, others⟩ := List.forall_mem_cons.mp isTerm
  have later : (rest.flatMap Term.tokens).flatMap (expandedToken mapping) =
      (rest.map (Term.expanded mapping)).flatMap Term.tokens := by
    rw [List.flatMap_assoc, List.flatMap_map]
    refine List.flatMap_congr fun x member => ?_
    simp [Term.tokens, Term.expanded, expandedToken, tokens_of_isTerm (others x member)]
  rw [writtenAs_iff, tokens_parameters, writtenAs_iff.mp written]
  cases lead with
  | none => simp [Chain.tokens, Chain.expanded, expandedToken, tokens_of_isTerm head, later]
  | some sign => simp [Chain.tokens, Chain.expanded, expandedToken, tokens_of_isTerm head, later]

/-- Blanks at the two ends of a text belong to no token. -/
theorem tokens_trim (t : Text) : tokens (Text.trim t) = tokens t := by
  obtain ⟨gap, blank, start⟩ := Text.exists_gap_trimStart t
  obtain ⟨gap', blank', stop⟩ := Text.exists_gap_trimEnd (Text.trimStart t)
  have none : tokens gap' = [] := by
    have cut := tokens_gap_append blank' []
    rwa [List.append_nil] at cut
  have ends : ∀ c, gap'.head? = some c → isTermChar c = false :=
    fun c first => isTermChar_of_isBlank (blank' c (List.mem_of_head? first))
  calc tokens (Text.trim t)
      = tokens (Text.trim t) ++ tokens gap' := by rw [none, List.append_nil]
    _ = tokens (Text.trimStart t) := by
        rw [← tokens_append_of_outside _ ends, Text.trim, ← stop]
    _ = tokens t := by rw [← tokens_gap_append blank, ← start]

theorem isTerm_of_isName (named : isName t = true) : IsTerm t := by
  obtain ⟨nonempty, letters, _⟩ := isName_iff.mp named
  refine ⟨nonempty, fun c member => ?_⟩
  by_contra out
  have unlettered := isLetter_of_not_isRunChar (isRunChar_of_not_isTermChar (by simpa using out))
  rw [letters c member] at unlettered
  cases unlettered

theorem isTerm_of_isDigits (digits : Text.isDigits t = true) : IsTerm t := by
  obtain ⟨nonempty, all⟩ := Text.isDigits_iff.mp digits
  refine ⟨nonempty, fun c member => ?_⟩
  rcases char_cases c with blank | ⟨s, rfl⟩ | inside
  · rw [Text.isBlank_of_isDigit (all c member)] at blank
    cases blank
  · have digit := all _ member
    cases s <;> exact absurd digit (by decide)
  · exact inside

end Expression

namespace Evaluation

variable {mapping : Dictionary Text} {store : Dictionary Int} {c : Chain} {t : Text}

theorem isTerm_of_hasValue {value : Int} (worth : HasValue store t value) : IsTerm t := by
  cases worth with
  | digits wellFormed _ => exact isTerm_of_isDigits wellFormed
  | name named _ => exact isTerm_of_isName named

/-! ### Bound parameters -/

/-- The store with every parameter bound to what its argument is worth. -/
def rebound (mapping : Dictionary Text) (store : Dictionary Int) : Dictionary Int :=
  mapping.entries.foldr (fun (name, argument) bound =>
    match term store argument with
    | .ok value => bound.set name value
    | .error _ => bound) store

/-- An entry under another name is of no consequence. -/
theorem get?_rebound_cons {key name argument : Text} (other : key ≠ name)
    (entries : List (Text × Text)) :
    (rebound ⟨(key, argument) :: entries⟩ store).get? name =
      (rebound ⟨entries⟩ store).get? name := by
  simp only [rebound, List.foldr_cons]
  split
  · rw [Dictionary.get?_set, if_neg other]
  · rfl

theorem get?_rebound_of_some {name argument : Text} {value : Int}
    (found : mapping.get? name = some argument) (worth : HasValue store argument value) :
    (rebound mapping store).get? name = some value := by
  obtain ⟨entries⟩ := mapping
  rw [Dictionary.get?] at found
  induction entries with
  | nil => cases found
  | cons entry entries ih =>
    simp only [Dictionary.lookup] at found
    split at found
    next same =>
      -- The first entry counts, and it is bound last.
      cases found
      simp only [rebound, List.foldr_cons, term_of_hasValue worth, Dictionary.get?_set, if_pos same]
    next other => exact (get?_rebound_cons other entries).trans (ih found)

theorem get?_rebound_of_none {name : Text} (free : mapping.get? name = none) :
    (rebound mapping store).get? name = store.get? name := by
  obtain ⟨entries⟩ := mapping
  rw [Dictionary.get?] at free
  induction entries with
  | nil => rfl
  | cons entry entries ih =>
    simp only [Dictionary.lookup] at free
    split at free
    · cases free
    next other => exact (get?_rebound_cons other entries).trans (ih free)

theorem operand_cases (isTerm : IsTerm t) (operand : isOperand t = true) :
    Text.isDigits t = true ∨ isName t = true := by
  rcases Bool.or_eq_true_iff.mp operand with literal | named
  · exact Or.inl (isDigits_of_isInteger isTerm literal)
  · exact Or.inr named

/-- Every argument is worth something. -/
def Valued (mapping : Dictionary Text) (store : Dictionary Int) : Prop :=
  ∀ name argument, mapping.get? name = some argument → ∃ value, HasValue store argument value

theorem isTerm_parameters (valued : Valued mapping store) (isTerm : IsTerm t)
    (operand : isOperand t = true) : IsTerm (parameters mapping t) := by
  rcases operand_cases isTerm operand with digits | named
  · rwa [parameters_of_isDigits digits]
  · rw [parameters_of_isName named]
    cases found : mapping.get? t with
    | none => exact isTerm
    | some argument =>
      obtain ⟨_, worth⟩ := valued t argument found
      exact isTerm_of_hasValue worth

/-- A term becomes what the bound store makes of it: a literal stays, a name that is no parameter is
looked up as before, and a parameter gives way to what it is bound to. -/
theorem term_parameters (valued : Valued mapping store) (isTerm : IsTerm t)
    (operand : isOperand t = true) :
    term store (parameters mapping t) = term (rebound mapping store) t := by
  rcases operand_cases isTerm operand with digits | named
  · rw [parameters_of_isDigits digits, term_of_isDigits digits, term_of_isDigits digits]
  · rw [parameters_of_isName named]
    cases found : mapping.get? t with
    | none => simp only [Option.getD_none, term, get?_rebound_of_none found]
    | some argument =>
      obtain ⟨value, worth⟩ := valued t argument found
      rw [Option.getD_some, term_of_hasValue worth,
        term_of_bound named (get?_rebound_of_some found worth)]

theorem sum_parameters (valued : Valued mapping store) {terms : List Term}
    (isTerm : ∀ x ∈ terms, IsTerm x.text) (operands : ∀ x ∈ terms, isOperand x.text = true) :
    sum store (terms.map (Term.expanded mapping)) = sum (rebound mapping store) terms := by
  induction terms with
  | nil => rfl
  | cons next terms ih =>
    obtain ⟨first, others⟩ := List.forall_mem_cons.mp isTerm
    obtain ⟨here, later⟩ := List.forall_mem_cons.mp operands
    have same : term store (next.expanded mapping).text = term (rebound mapping store) next.text :=
      term_parameters valued first here
    rw [List.map_cons, sum, sum, same, ih others later]
    rfl

/-! ### Signs and rows that are too long -/

/-- What stands in front of a term that has a sign, and what behind it. -/
theorem exists_tokens_of_mem_signedTerms {x : Term} (member : x ∈ c.signedTerms) :
    ∃ before after, c.tokens = before ++ .sign x.sign :: .term x.text :: after := by
  have split (front : List ExprToken) {terms : List Term} (inTerms : x ∈ terms) :
      ∃ before after, front ++ terms.flatMap Term.tokens =
        before ++ .sign x.sign :: .term x.text :: after := by
    obtain ⟨early, late, rfl⟩ := List.append_of_mem inTerms
    refine ⟨front ++ early.flatMap Term.tokens, late.flatMap Term.tokens, ?_⟩
    simp [Term.tokens]
  obtain ⟨lead, first, rest⟩ := c
  cases lead with
  | none => exact split [.term first] member
  | some sign => exact split [] member

/-- What starts with a sign cannot be put in behind a sign. -/
theorem terms?_of_signed {x : Term} {s : Sign} {rest : Text} (written : c.WrittenAs t)
    (member : x ∈ c.signedTerms) (named : isName x.text = true)
    (signed : mapping.get? x.text = some (s.char :: rest)) :
    terms? (parameters mapping t) = none := by
  obtain ⟨before, after, cut⟩ := exists_tokens_of_mem_signedTerms member
  have put : expandedToken mapping (.term x.text) = .sign s :: tokens rest := by
    rw [expandedToken, parameters_of_isName named, signed, Option.getD_some, tokens_cons_sign]
  rw [terms?, tokens_parameters, writtenAs_iff.mp written, cut, List.flatMap_append,
    List.flatMap_cons, List.flatMap_cons, put]
  exact chain?_of_doubled _ _ x.sign s

theorem mem_tokens_iff {text : Text} :
    .term text ∈ c.tokens ↔ ∃ x ∈ c.terms, x.text = text := by
  obtain ⟨lead, first, rest⟩ := c
  cases lead <;> simp [Chain.tokens, Chain.terms, Term.tokens, eq_comm]

theorem hasValue_of_sums {terms : List Term} {total : Int} (sums : Sums store terms total) :
    ∀ x ∈ terms, ∃ value, HasValue store x.text value := by
  induction sums with
  | nil => simp
  | cons here _ ih => exact List.forall_mem_cons.mpr ⟨⟨_, here⟩, ih⟩

/-- Where a row that is too long is put in there is no value. -/
theorem expression_of_long {x : Term} {row : Text} (written : c.WrittenAs t) (member : x ∈ c.terms)
    (named : isName x.text = true) (put : mapping.get? x.text = some row)
    (digits : Text.isDigits row = true) (long : Text.maxDigits < row.length) (value : Int) :
    expression store (parameters mapping t) ≠ .ok value := by
  intro evaluated
  by_cases chained : ∃ c' : Chain, c'.WrittenAs (parameters mapping t)
  · obtain ⟨c', written'⟩ := chained
    rw [expression_of_writtenAs written'] at evaluated
    have sums := (sum_eq_ok_iff (isTerm_of_writtenAs written')).mp evaluated
    -- The row is a term of the new chain, so it would have a value.
    have kept : .term row ∈ c'.tokens := by
      rw [← writtenAs_iff.mp written', tokens_parameters, writtenAs_iff.mp written]
      refine List.mem_flatMap.mpr ⟨.term x.text, mem_tokens_iff.mpr ⟨x, member, rfl⟩, ?_⟩
      rw [expandedToken, parameters_of_isName named, put, Option.getD_some,
        tokens_of_isTerm (isTerm_of_isDigits digits)]
      exact List.mem_singleton_self _
    obtain ⟨y, inTerms, rfl⟩ := mem_tokens_iff.mp kept
    obtain ⟨_, worth⟩ := hasValue_of_sums sums y inTerms
    cases worth with
    | digits _ readable => exact absurd readable (Nat.not_le.mpr long)
    | name named' _ =>
      rw [isName_of_isDigits digits] at named'
      cases named'
  · rw [expression_of_malformed chained] at evaluated
    cases evaluated

/-! ### Expressions -/

/-- Parameters may be replaced in an expression before it is evaluated, as given or trimmed.  If
every argument is a name with a value or a row of digits that can be read, the outcome is that of
the expression itself over the store in which the parameters are bound.  If what is put in behind a
sign starts with a sign, as a signed literal does, the expression is reported as malformed.  And if
a row of digits is put in that is too long to be read and so worth nothing, there is no value
either. -/
theorem expression_parameters (c : Chain) (t given : Text) (written : c.WrittenAs t)
    (same : given = t ∨ given = Text.trim t) (mapping : Dictionary Text) (store : Dictionary Int) :
    ((∀ x ∈ c.terms, isOperand x.text = true) → Valued mapping store →
      expression store (parameters mapping given) = expression (rebound mapping store) t) ∧
    (∀ x ∈ c.signedTerms, isName x.text = true →
      ∀ s rest, mapping.get? x.text = some (Sign.char s :: rest) →
      expression store (parameters mapping given) =
        .error (.cause (.invalidTerm (shownExpression (parameters mapping given))))) ∧
    ∀ x ∈ c.terms, isName x.text = true →
      ∀ row, mapping.get? x.text = some row → Text.isDigits row = true →
      Text.maxDigits < row.length →
      ∀ value, expression store (parameters mapping given) ≠ .ok value := by
  have written' : c.WrittenAs given := by
    rcases same with rfl | rfl
    · exact written
    · rw [writtenAs_iff, tokens_trim]
      exact writtenAs_iff.mp written
  have isTerm := isTerm_of_writtenAs written
  refine ⟨?_, ?_, ?_⟩
  · intro operands valued
    have expanded := writtenAs_parameters written' fun x member =>
      isTerm_parameters valued (isTerm x member) (operands x member)
    rw [expression_of_writtenAs expanded, expression_of_writtenAs written, terms_expanded]
    exact sum_parameters valued isTerm operands
  · intro x member named s rest signed
    rw [expression, terms?_of_signed written' member named signed]
  · intro x member named row put digits long
    exact expression_of_long written' member named put digits long

/-- Parameters are replaced at once, so an argument may be the name of another parameter.  The name
without a value is the one that is reported.  A minus in front of `-3` is not taken for a plus, and
a row of one digit too many is not cut. -/
theorem expression_parameters_of_swap :
    let store : Dictionary Int := ⟨[("b".toList, 2)]⟩
    let swap : Dictionary Text := ⟨[("a".toList, "b".toList), ("b".toList, "7".toList)]⟩
    let row : Text := List.replicate 4301 '7'
    expression store (parameters swap (Text.trim " a-b + c ".toList)) =
      expression (rebound swap store) " a-b + c ".toList ∧
    expression store "b-7 + c".toList = .error (.cause (.undefinedVariable "c".toList)) ∧
    expression store (parameters ⟨[("a".toList, "-3".toList)]⟩ "b-a".toList) =
      .error (.cause (.invalidTerm "b--3".toList)) ∧
    ∀ value, expression store (parameters ⟨[("a".toList, row)]⟩ "b-a".toList) ≠ .ok value := by
  intro store swap row
  have written : (Chain.mk none "a".toList
      [⟨.minus, "b".toList⟩, ⟨.plus, "c".toList⟩]).WrittenAs " a-b + c ".toList :=
    writtenAs_iff.mpr (by decide)
  have short : (Chain.mk none "b".toList [⟨.minus, "a".toList⟩]).WrittenAs "b-a".toList :=
    writtenAs_iff.mpr (by decide)
  have valued : Valued swap store := by
    intro name argument found
    rcases List.mem_cons.mp (Dictionary.mem_of_get? found) with entry | entry
    · cases entry
      exact ⟨2, .name (by decide) (by decide)⟩
    · cases List.mem_singleton.mp entry
      exact ⟨7, .digits (by decide) (by decide)⟩
  have long : Text.maxDigits < row.length := by
    rw [List.length_replicate]
    decide
  have digits : Text.isDigits row = true := by
    refine Text.isDigits_iff.mpr ⟨List.ne_nil_of_length_pos (Nat.zero_lt_of_lt long), ?_⟩
    intro c member
    cases List.eq_of_mem_replicate member
    decide
  refine ⟨?_, rfl, ?_, ?_⟩
  · exact (expression_parameters _ _ _ written (Or.inr rfl) swap store).1 (by decide) valued
  · exact (expression_parameters _ _ _ short (Or.inl rfl) _ store).2.1 ⟨.minus, "a".toList⟩
      (by decide) (by decide) .minus ['3'] rfl
  · exact (expression_parameters _ _ _ short (Or.inl rfl) _ store).2.2 ⟨.minus, "a".toList⟩
      (by decide) (by decide) row rfl digits long

end Evaluation

end Plotter
