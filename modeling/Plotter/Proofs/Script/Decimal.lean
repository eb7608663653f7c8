import Plotter.Proofs.Script.Condition
import Plotter.Proofs.Script.Substitution

/-!
# The decimal form of an integer

Integers are written by one function and read in several places: as the word of a command, as a term
behind a sign of its own, as the right side of a comparison and as the count of a loop.  The decimal
form is a literal, so all of these read the integer back, if it has no more digits than can be read.
It is written exactly then, and it is never a name.

So when the variables in a command are replaced, a decimal form that is already there stays, and it
makes no difference which variables have been replaced before, as long as their values can be
written at all (`words_of_respells`, `words_of_long`).
-/

namespace Plotter

namespace Text

/-! ### Digits -/

private theorem range_of_decimal {c : Char} (decimal : c.isDigit = true) :
    48 ≤ c.toNat ∧ c.toNat < 58 := by
  simp only [Char.isDigit, Bool.and_eq_true, decide_eq_true_eq, UInt32.le_iff_toNat_le] at decimal
  have low : 48 ≤ c.toNat := decimal.1
  have high : c.toNat ≤ 57 := decimal.2
  omega

theorem digitValue?_of_decimal {c : Char} (decimal : c.isDigit = true) :
    digitValue? c = some (c.toNat - '0'.toNat) := by
  simp [digitValue?, digitZeros, range_of_decimal decimal]

theorem isDecimal_of_mem_ofNat {n : Nat} {c : Char} (member : c ∈ ofNat n) : c.isDigit = true :=
  Nat.isDigit_of_mem_toDigits (by omega) (by omega) member

theorem isDigits_ofNat (n : Nat) : isDigits (ofNat n) = true := by
  refine isDigits_iff.mpr ⟨Nat.toDigits_ne_nil, fun c member => ?_⟩
  rw [isDigit, digitValue?_of_decimal (isDecimal_of_mem_ofNat member)]
  rfl

/-- The digits of a number are worth the number. -/
theorem digitsValue_ofNat (n : Nat) : digitsValue (ofNat n) = n := by
  -- On decimal digits the reader's fold is the one of the standard library, from any total on.
  have same : ∀ (row : Text), (∀ c ∈ row, c.isDigit = true) → ∀ total,
      row.foldl (fun total c => total * 10 + (digitValue? c).getD 0) total =
        Nat.ofDigitChars 10 row total := by
    intro row decimal
    induction row with
    | nil => exact fun _ => rfl
    | cons c row ih =>
      intro total
      obtain ⟨here, later⟩ := List.forall_mem_cons.mp decimal
      rw [List.foldl_cons, ih later, digitValue?_of_decimal here, Nat.ofDigitChars_cons,
        Option.getD_some, Nat.mul_comm]
  rw [digitsValue, same _ (fun c => isDecimal_of_mem_ofNat) 0, ofNat, Nat.ofDigitChars_ten_toDigits]

theorem length_ofNat_le_iff {n digits : Nat} (pos : 0 < digits) :
    (ofNat n).length ≤ digits ↔ n < Nat.pow 10 digits :=
  Nat.length_toDigits_le_iff (by omega) pos

/-- An integer with no more digits than can be written. -/
def Writable (v : Int) : Prop := v.natAbs < Nat.pow 10 maxDigits

instance (v : Int) : Decidable (Writable v) := inferInstanceAs (Decidable (_ < _))

theorem writable_of_lt_pow {v : Int} {digits : Nat} (small : v.natAbs < Nat.pow 10 digits)
    (few : digits ≤ maxDigits) : Writable v := by
  rw [Nat.pow_eq] at small
  rw [Writable, Nat.pow_eq]
  exact Nat.lt_of_lt_of_le small (Nat.pow_le_pow_right (by omega) few)

theorem writeInteger_eq (v : Int) :
    writeInteger v = if Writable v then .ok (ofInt v) else .error .tooManyDigits := by
  rw [writeInteger]
  by_cases short : Writable v
  · rw [if_neg (Nat.not_le.mpr short), if_pos short]
  · rw [if_pos (Nat.not_lt.mp short), if_neg short]

end Text

namespace Literal

/-- The literal that an integer is written as. -/
def ofInt : Int → Literal
  | .ofNat n => ⟨none, Text.ofNat n, Text.isDigits_ofNat n⟩
  | .negSucc n => ⟨some .minus, Text.ofNat (n + 1), Text.isDigits_ofNat (n + 1)⟩

variable (v : Int)

theorem text_ofInt : (ofInt v).text = Text.ofInt v := by
  cases v <;> rfl

theorem value_ofInt : (ofInt v).value = v := by
  cases v with
  | ofNat n => simp [ofInt, value, Sign.apply, Text.digitsValue_ofNat]
  | negSucc n => simp [ofInt, value, Sign.apply, Text.digitsValue_ofNat, Int.negSucc_eq]

theorem digits_ofInt : (ofInt v).digits = Text.ofNat v.natAbs := by
  cases v <;> rfl

/-- What can be written can be read. -/
theorem readable_ofInt_iff : (ofInt v).Readable ↔ Text.Writable v := by
  unfold Readable Text.Writable
  rw [digits_ofInt]
  exact Text.length_ofNat_le_iff (by decide)

end Literal

namespace Text

variable {v : Int}

theorem isInteger_ofInt (v : Int) : isInteger (ofInt v) = true := by
  rw [← Literal.text_ofInt]
  exact Literal.isInteger_text _

theorem readInteger_ofInt (v : Int) :
    readInteger (ofInt v) = if Writable v then .ok v else .error .tooManyDigits := by
  rw [← Literal.text_ofInt, Literal.readInteger_text]
  simp only [Literal.readable_ofInt_iff, Literal.value_ofInt]

theorem isVisible_ofInt (v : Int) : (ofInt v).isVisible = true := by
  rw [← Literal.text_ofInt]
  obtain ⟨nonempty, chars⟩ := Evaluation.literal_chars (Literal.ofInt v)
  exact isVisible_iff.mpr ⟨nonempty, fun d member => (chars d member).1⟩

/-- What has been put in for a variable is no variable. -/
theorem isName_ofInt (v : Int) : isName (ofInt v) = false := by
  by_contra named
  have literal := isInteger_ofInt v
  rw [Evaluation.isInteger_of_isName (by simpa using named)] at literal
  cases literal

/-- Lowering a decimal form leaves a digit in it. -/
theorem exists_decimal_mem_lower (v : Int) : ∃ c ∈ lower (ofInt v), c.isDigit = true := by
  obtain ⟨c, member⟩ := List.exists_mem_of_ne_nil (ofNat v.natAbs) Nat.toDigits_ne_nil
  have decimal := isDecimal_of_mem_ofNat member
  have range := range_of_decimal decimal
  have inText : c ∈ ofInt v := by
    cases v with
    | ofNat n => exact member
    | negSucc n => exact List.mem_cons_of_mem _ member
  have digit := (isDigits_iff.mp (isDigits_ofNat _)).2 c member
  exact ⟨c, mem_lower inText (by omega) (isLetter_of_isDigit digit), decimal⟩

theorem lower_ofInt_ne {word : Text} (unnumbered : word.any Char.isDigit = false) (v : Int) :
    lower (ofInt v) ≠ word := by
  rintro rfl
  obtain ⟨c, member, decimal⟩ := exists_decimal_mem_lower v
  exact List.any_eq_false.mp unnumbered c member decimal

end Text

/-- No decimal form names a colour. -/
theorem PenColor.ofWord?_ofInt (v : Int) : PenColor.ofWord? (Text.lower (Text.ofInt v)) = none := by
  refine Option.eq_none_iff_forall_ne_some.mpr fun color found => ?_
  have unnumbered : color.word.any Char.isDigit = false := by cases color <;> decide
  have spelled : color.word = Text.lower (Text.ofInt v) := by
    simpa using List.find?_some found
  exact Text.lower_ofInt_ne unnumbered v spelled.symm

open Expression

/-! ### Where it is read -/

namespace Evaluation

variable {store : Dictionary Int} {v : Int}

theorem term_ofInt (short : Text.Writable v) : term store (Text.ofInt v) = .ok v := by
  rw [term, if_pos (Text.isInteger_ofInt v), literal, Text.readInteger_ofInt, if_pos short]

/-- The sign of a literal is the sign in front of its digits. -/
theorem expression_text {l : Literal} (readable : l.Readable) :
    expression store l.text = .ok l.value := by
  obtain ⟨sign, digits, wellFormed⟩ := l
  have isTerm := isTerm_of_isDigits wellFormed
  have worth : HasValue store digits (Text.digitsValue digits) := .digits wellFormed readable
  have alone : FurtherTerms [] ([] : Text) := .done (List.forall_mem_nil _)
  have blank : Text.IsGap [] := List.forall_mem_nil _
  refine ((expression_exact store _).1 _).mpr ⟨⟨sign, digits, []⟩, ?_, ?_⟩
  · cases sign with
    | none => simpa [Literal.text] using Chain.WrittenAs.unsigned blank isTerm alone
    | some sign =>
      simpa [Literal.text] using
        Chain.WrittenAs.signed (FurtherTerms.more blank blank isTerm alone)
  · simpa [Chain.terms, Literal.value] using Sums.cons (t := ⟨sign.getD .plus, digits⟩) worth .nil

theorem expression_ofInt (short : Text.Writable v) :
    expression store (Text.ofInt v) = .ok v := by
  rw [← Literal.text_ofInt, expression_text ((Literal.readable_ofInt_iff v).mpr short),
    Literal.value_ofInt]

theorem condition_ofInt (short : Text.Writable v) {t name : Text} {comparison : Comparison}
    {value : Int} (named : isName name = true) (bound : store.get? name = some value)
    (written : Condition.WrittenAs ⟨name, comparison.operator, Text.ofInt v⟩ (Text.trim t)) :
    condition store t = .ok (comparison.holds value v) := by
  have compares : Compares store ⟨name, comparison.operator, Text.ofInt v⟩ comparison value
      (Literal.ofInt v) :=
    ⟨named, bound, rfl, (Literal.text_ofInt v).symm⟩
  rw [condition_of_compares written compares, if_pos ((Literal.readable_ofInt_iff v).mpr short),
    Literal.value_ofInt]

theorem loopCount_ofInt (short : Text.Writable v) (count : 0 ≤ v) :
    loopCount store [Text.ofInt v] = .ok v.toNat := by
  simp only [loopCount, term_ofInt short, bind, Except.bind]
  rw [if_neg (by omega)]
  rfl

end Evaluation

/-! ### Words that a value is written for -/

/-- A word is kept, or it names a variable and gives way to the decimal form of its value. -/
inductive Respells (store : Dictionary Int) (allowed : Int → Prop) : Text → Text → Prop
  | keep {word : Text} : Respells store allowed word word
  | value {name : Text} {v : Int} (bound : store.get? name = some v) (isAllowed : allowed v) :
      Respells store allowed name (Text.ofInt v)

/-- The second line has the words of the first, with values for some of its arguments. -/
def Line.Respelled (store : Dictionary Int) (allowed : Int → Prop) (line line' : Line) : Prop :=
  ∃ word arguments arguments', line.words = word :: arguments ∧ line'.words = word :: arguments' ∧
    List.Forall₂ (Respells store allowed) arguments arguments'

namespace Substitution

variable {store : Dictionary Int} {allowed : Int → Prop} {words₁ words₂ : List Text}

theorem words_cons_of_unset {word : Text} (unset : store.get? word = none) (rest : List Text) :
    words store (word :: rest) = (words store rest).map (word :: ·) := by
  rw [words, unset]
  cases words store rest <;> rfl

theorem words_cons_of_bound {name : Text} {v : Int} (bound : store.get? name = some v)
    (rest : List Text) :
    words store (name :: rest) =
      if Text.Writable v then (words store rest).map (Text.ofInt v :: ·)
      else .error .tooManyDigits := by
  simp only [words, bound, Text.writeInteger_eq]
  split
  · cases words store rest <;> rfl
  · rfl

theorem get?_of_unnamed (named : ∀ name ∈ store.names, isName name = true) {word : Text}
    (other : isName word = false) : store.get? word = none := by
  cases found : store.get? word with
  | none => rfl
  | some _ =>
    have member := named _ (List.mem_map_of_mem (Dictionary.mem_of_get? found))
    rw [other] at member
    cases member

/-- No decimal form is caught as a name. -/
theorem get?_ofInt (named : ∀ name ∈ store.names, isName name = true) (v : Int) :
    store.get? (Text.ofInt v) = none :=
  get?_of_unnamed named (Text.isName_ofInt v)

theorem words_ofInt (named : ∀ name ∈ store.names, isName name = true) (values : List Int) :
    words store (values.map Text.ofInt) = .ok (values.map Text.ofInt) := by
  induction values with
  | nil => rfl
  | cons v values ih =>
    rw [List.map_cons, words_cons_of_unset (get?_ofInt named v), ih]
    rfl

/-- Once the variables are replaced nothing tells a value from a variable. -/
theorem words_of_respells (named : ∀ name ∈ store.names, isName name = true)
    (respells : List.Forall₂ (Respells store Text.Writable) words₁ words₂) :
    words store words₂ = words store words₁ := by
  induction respells with
  | nil => rfl
  | cons first _ ih =>
    cases first with
    | keep => rw [words, words, ih]
    | value bound short =>
      rw [words_cons_of_unset (get?_ofInt named _), words_cons_of_bound bound, if_pos short, ih]

private theorem map_cons_ok {result : Except NumeralError (List Text)} {first : Text}
    {replaced : List Text} (done : result.map (first :: ·) = .ok replaced) :
    ∃ later, result = .ok later ∧ replaced = first :: later := by
  cases result with
  | error e => cases done
  | ok later =>
    cases done
    exact ⟨later, rfl, rfl⟩

theorem words_cons_ok {word : Text} {rest replaced : List Text}
    (done : words store (word :: rest) = .ok replaced) :
    ∃ first later, words store rest = .ok later ∧ replaced = first :: later := by
  cases found : store.get? word with
  | none =>
    rw [words_cons_of_unset found] at done
    exact ⟨word, map_cons_ok done⟩
  | some v =>
    rw [words_cons_of_bound found] at done
    split at done
    · exact ⟨Text.ofInt v, map_cons_ok done⟩
    · cases done

theorem words_cons_error {word : Text} {rest : List Text}
    (failed : words store rest = .error .tooManyDigits) :
    words store (word :: rest) = .error .tooManyDigits := by
  cases found : store.get? word with
  | none =>
    rw [words_cons_of_unset found, failed]
    rfl
  | some v =>
    rw [words_cons_of_bound found, failed]
    split <;> rfl

/-- If one of the values is too long, its variable cannot be replaced, and its decimal form stays. -/
theorem words_of_long (named : ∀ name ∈ store.names, isName name = true)
    (respells : List.Forall₂ (Respells store allowed) words₁ words₂)
    (long : ¬ List.Forall₂ (Respells store Text.Writable) words₁ words₂) :
    words store words₁ = .error .tooManyDigits ∧
      ∀ replaced, words store words₂ = .ok replaced →
        ∃ v, ¬ Text.Writable v ∧ Text.ofInt v ∈ replaced := by
  induction respells with
  | nil => exact absurd .nil long
  | @cons a b rest₁ rest₂ first _ ih =>
    -- Either a later value is too long, or the first one is.
    by_cases short : Respells store Text.Writable a b
    · obtain ⟨failed, stays⟩ := ih fun others => long (.cons short others)
      constructor
      · exact words_cons_error failed
      · intro replaced done
        obtain ⟨_, later, inRest, rfl⟩ := words_cons_ok done
        obtain ⟨v, long, member⟩ := stays later inRest
        exact ⟨v, long, List.mem_cons_of_mem _ member⟩
    · cases first with
      | keep => exact absurd .keep short
      | @value v bound _ =>
        have long : ¬ Text.Writable v := fun writable => short (.value bound writable)
        constructor
        · rw [words_cons_of_bound bound, if_neg long]
        · intro replaced done
          rw [words_cons_of_unset (get?_ofInt named v)] at done
          obtain ⟨later, _, rfl⟩ := map_cons_ok done
          exact ⟨v, long, List.mem_cons_self ..⟩

end Substitution

end Plotter
