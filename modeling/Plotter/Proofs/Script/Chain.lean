import Plotter.Proofs.Text.Run
import Plotter.Script.Expression

/-!
# The grammar of expressions

An expression is a chain: terms joined by single signs, with one more sign in front or without it,
and any blanks around the tokens.  `Chain.WrittenAs` says so of texts and mentions no token.  What
stands around a term in such a text is a blank, a sign or an end of the text, so a term is always a
maximal run.

## Main result

`terms?_eq_some_iff`: the terms that are found in a text are those of a chain that it is a way of
writing.

## Proof strategy

Cutting a text into tokens forgets its blanks and nothing else.  A text is a way of writing a chain
exactly when its tokens are those of the chain (`writtenAs_iff`), so everything that the automaton
does can be looked at on lists of tokens.
-/

namespace Plotter

/-- How a sign is written. -/
def Sign.char : Sign → Char
  | .plus => '+'
  | .minus => '-'

/-- The parts of an expression: the sign in front, if there is one, the first term, and the others
with the signs that join them. -/
structure Chain where
  lead : Option Sign
  first : Text
  rest : List Term
  deriving DecidableEq, Repr

namespace Expression

/-- A term as it stands in a text. -/
def IsTerm (t : Text) : Prop := t ≠ [] ∧ ∀ c ∈ t, isTermChar c = true

/-- A text of further terms, each behind a sign of its own. -/
inductive FurtherTerms : List Term → Text → Prop
  | done {gap : Text} (blank : gap.IsGap) : FurtherTerms [] gap
  | more {gap inner first rest : Text} {sign : Sign} {terms : List Term} (blank : gap.IsGap)
      (blank' : inner.IsGap) (isTerm : IsTerm first) (others : FurtherTerms terms rest) :
      FurtherTerms (⟨sign, first⟩ :: terms) (gap ++ sign.char :: (inner ++ (first ++ rest)))

end Expression

open Expression

/-- The text is a way of writing the chain.  With a sign in front the first term is written like a
further one. -/
inductive Chain.WrittenAs : Chain → Text → Prop
  | unsigned {gap first rest : Text} {terms : List Term} (blank : gap.IsGap)
      (isTerm : IsTerm first) (others : FurtherTerms terms rest) :
      WrittenAs ⟨none, first, terms⟩ (gap ++ (first ++ rest))
  | signed {sign : Sign} {first t : Text} {terms : List Term}
      (all : FurtherTerms (⟨sign, first⟩ :: terms) t) : WrittenAs ⟨some sign, first, terms⟩ t

/-- All terms of a chain.  The first one counts as added when no sign is in front. -/
def Chain.terms (c : Chain) : List Term := ⟨c.lead.getD .plus, c.first⟩ :: c.rest

/-- The terms of a chain that a sign stands in front of. -/
def Chain.signedTerms (c : Chain) : List Term :=
  match c.lead with
  | none => c.rest
  | some sign => ⟨sign, c.first⟩ :: c.rest

/-! ### Tokens -/

def Term.tokens (t : Term) : List ExprToken := [.sign t.sign, .term t.text]

def Chain.tokens (c : Chain) : List ExprToken :=
  match c.lead with
  | none => .term c.first :: c.rest.flatMap Term.tokens
  | some sign => .sign sign :: .term c.first :: c.rest.flatMap Term.tokens

namespace Expression

variable {t rest : Text} {toks : List ExprToken} {terms : List Term}

theorem isTermChar_of_isBlank {c : Char} (blank : Text.isBlank c = true) :
    isTermChar c = false := by
  simp [isTermChar, blank]

theorem isTermChar_char (s : Sign) : isTermChar s.char = false := by
  cases s <;> decide

/-- Every character is a blank, a sign or part of a term. -/
theorem char_cases (c : Char) :
    Text.isBlank c = true ∨ (∃ s : Sign, c = s.char) ∨ isTermChar c = true := by
  by_cases blank : Text.isBlank c = true
  · exact Or.inl blank
  · by_cases plus : c = '+'
    · exact Or.inr (Or.inl ⟨.plus, plus⟩)
    · by_cases minus : c = '-'
      · exact Or.inr (Or.inl ⟨.minus, minus⟩)
      · right
        right
        simp [isTermChar, blank, plus, minus]

private theorem tokenOf?_of_isBlank {c : Char} (blank : Text.isBlank c = true) :
    tokenOf? [c] = none := by
  unfold tokenOf?
  split
  next plus =>
    cases plus
    cases blank
  next minus =>
    cases minus
    cases blank
  · simp [isTermChar_of_isBlank blank]

private theorem tokenOf?_of_isTerm (isTerm : IsTerm t) : tokenOf? t = some (.term t) := by
  obtain ⟨_, inside⟩ := isTerm
  unfold tokenOf?
  split
  · exact absurd (inside '+' (by simp)) (by decide)
  · exact absurd (inside '-' (by simp)) (by decide)
  · simp only [List.all_eq_true.mpr inside, ite_true]

theorem tokens_cons_of_isBlank {c : Char} (blank : Text.isBlank c = true) (t : Text) :
    tokens (c :: t) = tokens t := by
  simp [tokens, Text.pieces_cons_of_not (isTermChar_of_isBlank blank), tokenOf?_of_isBlank blank]

theorem tokens_cons_sign (s : Sign) (t : Text) : tokens (s.char :: t) = .sign s :: tokens t := by
  cases s <;> simp [tokens, Text.pieces_cons_of_not, isTermChar, Sign.char, tokenOf?]

theorem tokens_append_of_isTerm (isTerm : IsTerm t)
    (ends : ∀ c, rest.head? = some c → isTermChar c = false) :
    tokens (t ++ rest) = .term t :: tokens rest := by
  simp [tokens, Text.pieces_append isTerm.1 isTerm.2 ends, tokenOf?_of_isTerm isTerm]

/-- A text may be cut before a blank or a sign. -/
theorem tokens_append_of_outside (front : Text)
    (ends : ∀ c, rest.head? = some c → isTermChar c = false) :
    tokens (front ++ rest) = tokens front ++ tokens rest := by
  simp only [tokens, Text.pieces_append_of_outside front ends, List.filterMap_append]

theorem tokens_gap_append {gap : Text} (blank : gap.IsGap) (t : Text) :
    tokens (gap ++ t) = tokens t := by
  induction gap with
  | nil => rfl
  | cons c gap ih =>
    rw [List.cons_append, tokens_cons_of_isBlank (blank c (List.mem_cons_self ..))]
    exact ih fun d member => blank d (List.mem_cons_of_mem _ member)

/-- The text in front of the first token is blank. -/
theorem tokens_cases (t : Text) :
    (tokens t = [] ∧ t.IsGap) ∨
      (∃ gap s rest, gap.IsGap ∧ t = gap ++ Sign.char s :: rest ∧
        tokens t = .sign s :: tokens rest) ∨
      ∃ gap first rest, gap.IsGap ∧ IsTerm first ∧ t = gap ++ (first ++ rest) ∧
        tokens t = .term first :: tokens rest := by
  induction t using Text.run_induction isTermChar with
  | nil => exact Or.inl ⟨rfl, by simp [Text.IsGap]⟩
  | outside c t out ih =>
    rcases char_cases c with blank | ⟨s, rfl⟩ | inside
    · -- A blank goes into the gap, whatever comes behind it.
      have longer {gap : Text} (gapBlank : gap.IsGap) : Text.IsGap (c :: gap) :=
        List.forall_mem_cons.mpr ⟨blank, gapBlank⟩
      rw [tokens_cons_of_isBlank blank]
      rcases ih with ⟨none, all⟩ | ⟨gap, s, rest, gapBlank, rfl, cut⟩ |
        ⟨gap, first, rest, gapBlank, isTerm, rfl, cut⟩
      · exact Or.inl ⟨none, longer all⟩
      · exact Or.inr (Or.inl ⟨c :: gap, s, rest, longer gapBlank, rfl, cut⟩)
      · exact Or.inr (Or.inr ⟨c :: gap, first, rest, longer gapBlank, isTerm, rfl, cut⟩)
    · exact Or.inr (Or.inl ⟨[], s, t, by simp [Text.IsGap], rfl, tokens_cons_sign s t⟩)
    · rw [inside] at out
      cases out
  | run run rest nonempty inside ends _ =>
    have isTerm : IsTerm run := ⟨nonempty, inside⟩
    exact Or.inr (Or.inr ⟨[], run, rest, by simp [Text.IsGap], isTerm, rfl,
      tokens_append_of_isTerm isTerm ends⟩)

theorem isGap_of_tokens (cut : tokens t = []) : t.IsGap := by
  rcases tokens_cases t with ⟨_, blank⟩ | ⟨_, _, _, _, _, found⟩ | ⟨_, _, _, _, _, _, found⟩
  · exact blank
  · rw [found] at cut
    cases cut
  · rw [found] at cut
    cases cut

theorem exists_sign_of_tokens {s : Sign} (cut : tokens t = .sign s :: toks) :
    ∃ gap rest, gap.IsGap ∧ t = gap ++ s.char :: rest ∧ tokens rest = toks := by
  rcases tokens_cases t with ⟨found, _⟩ | ⟨gap, _, rest, blank, shape, found⟩ |
    ⟨_, _, _, _, _, _, found⟩
  · rw [found] at cut
    cases cut
  · rw [found] at cut
    cases cut
    exact ⟨gap, rest, blank, shape, rfl⟩
  · rw [found] at cut
    cases cut

theorem exists_term_of_tokens {first : Text} (cut : tokens t = .term first :: toks) :
    ∃ gap rest, gap.IsGap ∧ IsTerm first ∧ t = gap ++ (first ++ rest) ∧ tokens rest = toks := by
  rcases tokens_cases t with ⟨found, _⟩ | ⟨_, _, _, _, _, found⟩ |
    ⟨gap, _, rest, blank, isTerm, shape, found⟩
  · rw [found] at cut
    cases cut
  · rw [found] at cut
    cases cut
  · rw [found] at cut
    cases cut
    exact ⟨gap, rest, blank, isTerm, shape, rfl⟩

/-! ### Chains and their tokens -/

/-- Behind a term stands what belongs to no term. -/
theorem FurtherTerms.ends (others : FurtherTerms terms t) :
    ∀ c, t.head? = some c → isTermChar c = false := by
  cases others with
  | done blank => exact fun c first => isTermChar_of_isBlank (blank c (List.mem_of_head? first))
  | @more gap _ _ _ sign _ blank _ _ _ =>
    apply Text.head?_gap_append blank fun c => isTermChar_of_isBlank
    rintro _ ⟨⟩
    exact isTermChar_char sign

theorem FurtherTerms.tokens_eq (others : FurtherTerms terms t) :
    tokens t = terms.flatMap Term.tokens := by
  induction others with
  | done blank =>
    have cut := tokens_gap_append blank []
    rwa [List.append_nil] at cut
  | more blank blank' isTerm others ih =>
    rw [tokens_gap_append blank, tokens_cons_sign, tokens_gap_append blank',
      tokens_append_of_isTerm isTerm others.ends, ih]
    rfl

theorem furtherTerms_of_tokens (cut : tokens t = terms.flatMap Term.tokens) :
    FurtherTerms terms t := by
  induction terms generalizing t with
  | nil => exact .done (isGap_of_tokens cut)
  | cons next terms ih =>
    obtain ⟨gap, behind, blank, rfl, cut'⟩ := exists_sign_of_tokens cut
    obtain ⟨inner, rest, blank', isTerm, rfl, others⟩ := exists_term_of_tokens cut'
    exact .more blank blank' isTerm (ih others)

/-- A text is a way of writing a chain exactly when its tokens are those of the chain. -/
theorem writtenAs_iff {c : Chain} : c.WrittenAs t ↔ tokens t = c.tokens := by
  obtain ⟨lead, first, terms⟩ := c
  cases lead with
  | none =>
    constructor
    · rintro ⟨blank, isTerm, others⟩
      rw [tokens_gap_append blank, tokens_append_of_isTerm isTerm others.ends, others.tokens_eq]
      rfl
    · intro cut
      obtain ⟨gap, rest, blank, isTerm, rfl, others⟩ := exists_term_of_tokens cut
      exact .unsigned blank isTerm (furtherTerms_of_tokens others)
  | some sign =>
    constructor
    · intro written
      cases written with
      | signed all => exact all.tokens_eq
    · intro cut
      exact .signed (furtherTerms_of_tokens cut)

/-! ### The automaton -/

theorem moreTerms?_eq_some_iff :
    moreTerms? toks = some terms ↔ toks = terms.flatMap Term.tokens := by
  fun_induction moreTerms? toks generalizing terms with
  | case1 =>
    cases terms with
    | nil => simp
    | cons next terms => simp [Term.tokens]
  | case2 s t toks ih =>
    cases terms with
    | nil => simp
    | cons next terms =>
      obtain ⟨sign, text⟩ := next
      simp only [Option.map_eq_some_iff, List.cons.injEq, Term.mk.injEq, List.flatMap_cons,
        Term.tokens, List.cons_append, List.nil_append, ExprToken.sign.injEq,
        ExprToken.term.injEq]
      constructor
      · rintro ⟨found, parsed, ⟨rfl, rfl⟩, rfl⟩
        exact ⟨rfl, rfl, ih.mp parsed⟩
      · rintro ⟨rfl, rfl, cut⟩
        exact ⟨terms, ih.mpr cut, ⟨rfl, rfl⟩, rfl⟩
  | case3 toks nonempty noPair =>
    constructor
    · intro parsed
      cases parsed
    · rintro rfl
      cases terms with
      | nil => exact absurd rfl nonempty
      | cons next terms => exact absurd rfl (noPair next.sign next.text _)

theorem chain?_eq_some_iff :
    chain? toks = some terms ↔ ∃ c : Chain, toks = c.tokens ∧ c.terms = terms := by
  constructor
  · intro parsed
    unfold chain? at parsed
    split at parsed
    next sign first toks =>
      obtain ⟨rest, others, rfl⟩ := Option.map_eq_some_iff.mp parsed
      refine ⟨⟨some sign, first, rest⟩, ?_, rfl⟩
      rw [moreTerms?_eq_some_iff.mp others]
      rfl
    next first toks =>
      obtain ⟨rest, others, rfl⟩ := Option.map_eq_some_iff.mp parsed
      refine ⟨⟨none, first, rest⟩, ?_, rfl⟩
      rw [moreTerms?_eq_some_iff.mp others]
      rfl
    · cases parsed
  · rintro ⟨⟨lead, first, rest⟩, rfl, rfl⟩
    have others : moreTerms? (rest.flatMap Term.tokens) = some rest :=
      moreTerms?_eq_some_iff.mpr rfl
    cases lead with
    | none => simp [chain?, Chain.tokens, Chain.terms, others]
    | some sign => simp [chain?, Chain.tokens, Chain.terms, others]

/-- The terms of a text are the terms of a chain that it is a way of writing. -/
theorem terms?_eq_some_iff :
    terms? t = some terms ↔ ∃ c : Chain, c.WrittenAs t ∧ c.terms = terms := by
  simp only [terms?, chain?_eq_some_iff, writtenAs_iff]

theorem terms?_of_writtenAs {c : Chain} (written : c.WrittenAs t) : terms? t = some c.terms :=
  terms?_eq_some_iff.mpr ⟨c, written, rfl⟩

theorem FurtherTerms.isTerm (others : FurtherTerms terms t) : ∀ x ∈ terms, IsTerm x.text := by
  induction others with
  | done => simp
  | more _ _ isTerm _ ih => exact List.forall_mem_cons.mpr ⟨isTerm, ih⟩

theorem isTerm_of_writtenAs {c : Chain} (written : c.WrittenAs t) :
    ∀ x ∈ c.terms, IsTerm x.text := by
  cases written with
  | unsigned _ isTerm others => exact List.forall_mem_cons.mpr ⟨isTerm, others.isTerm⟩
  | signed all => exact all.isTerm

theorem terms?_eq_none_iff : terms? t = none ↔ ¬ ∃ c : Chain, c.WrittenAs t := by
  constructor
  · rintro none ⟨c, written⟩
    rw [terms?_of_writtenAs written] at none
    cases none
  · intro unwritten
    cases parsed : terms? t with
    | none => rfl
    | some terms =>
      obtain ⟨c, written, _⟩ := terms?_eq_some_iff.mp parsed
      exact absurd ⟨c, written⟩ unwritten

private theorem tokens_ne_doubled (terms : List Term) (before after : List ExprToken)
    (s s' : Sign) : terms.flatMap Term.tokens ≠ before ++ .sign s :: .sign s' :: after := by
  intro doubled
  induction terms generalizing before with
  | nil => simp at doubled
  | cons next terms ih =>
    -- The signs have even places, so two places in a row are not both theirs.
    match before, doubled with
    | [], doubled => cases doubled
    | [_], doubled => cases doubled
    | _ :: _ :: before, doubled =>
      apply ih before
      exact (List.cons.inj (List.cons.inj doubled).2).2

/-- No chain has two signs in a row. -/
theorem chain?_of_doubled (before after : List ExprToken) (s s' : Sign) :
    chain? (before ++ .sign s :: .sign s' :: after) = none := by
  rw [Option.eq_none_iff_forall_ne_some]
  intro terms parsed
  obtain ⟨⟨lead, first, rest⟩, cut, _⟩ := chain?_eq_some_iff.mp parsed
  cases lead with
  | none =>
    cases before with
    | nil => cases cut
    | cons token before =>
      apply tokens_ne_doubled rest before after s s'
      exact (List.cons.inj cut).2.symm
  | some sign =>
    apply tokens_ne_doubled (⟨sign, first⟩ :: rest) before after s s'
    exact cut.symm

end Expression

end Plotter
