import Mathlib.Data.List.DropRight
import Plotter.Text.Numeral

/-!
# Literals can be read

The recogniser of literals and the reader of numerals were written for different purposes: the
one wants an optional sign and digits before an optional line feed, the other drops blanks around
the numeral and underscores inside it.  Whatever the first accepts the second reads, unless there
are too many digits.
-/

namespace Plotter.Text

/-- No decade of digits meets a blank or the underscore. -/
private theorem digitZeros_apart : ∀ start ∈ digitZeros,
    (0x20 < start ∧ (start + 10 ≤ 0x5F ∨ 0x5F < start)) ∧ (start + 10 ≤ 0x85 ∨ 0x85 < start) ∧
      (start + 10 ≤ 0xA0 ∨ 0xA0 < start) ∧ (start + 10 ≤ 0x1680 ∨ 0x1680 < start) ∧
      (start + 10 ≤ 0x2000 ∨ 0x3000 < start) := by
  decide

private theorem exists_start_of_isDigit {c : Char} (digit : isDigit c = true) :
    ∃ start ∈ digitZeros, start ≤ c.toNat ∧ c.toNat < start + 10 := by
  simp only [isDigit, digitValue?, Option.isSome_map] at digit
  obtain ⟨start, found⟩ := Option.isSome_iff_exists.mp digit
  have within := List.find?_some found
  simp only [Bool.and_eq_true, decide_eq_true_eq] at within
  exact ⟨start, List.mem_of_find?_eq_some found, within⟩

private theorem digitZeros_unlettered :
    ∀ start ∈ digitZeros, start + 10 ≤ 0x41 ∨ 0x7A < start := by
  decide

/-- No digit is a letter. -/
theorem isLetter_of_isDigit {c : Char} (digit : isDigit c = true) : isLetter c = false := by
  obtain ⟨start, member, low, high⟩ := exists_start_of_isDigit digit
  have unlettered := digitZeros_unlettered start member
  simp only [isLetter, Bool.or_eq_false_iff, Bool.and_eq_false_iff, decide_eq_false_iff_not]
  constructor <;> simp <;> omega

/-- No digit is a blank. -/
theorem isBlank_of_isDigit {c : Char} (digit : isDigit c = true) : isBlank c = false := by
  obtain ⟨start, member, low, high⟩ := exists_start_of_isDigit digit
  have apart := digitZeros_apart start member
  simp only [isBlank, Bool.or_eq_false_iff, Bool.and_eq_false_iff, decide_eq_false_iff_not,
    beq_eq_false_iff_ne]
  omega

private theorem isMargin_of_isDigit {c : Char} (digit : isDigit c = true) : isMargin c = false := by
  simp [isMargin, isBlank_of_isDigit digit]

private theorem ne_underscore_of_isDigit {c : Char} (digit : isDigit c = true) : c ≠ '_' := by
  rintro rfl
  exact absurd digit (by decide)

/-- A row of digits without underscores is read as it stands. -/
private theorem ungroup_digits {row : Text} (nonempty : row ≠ [])
    (digits : ∀ c ∈ row, isDigit c = true) : ungroup row = some row := by
  induction row with
  | nil => exact absurd rfl nonempty
  | cons c rest ih =>
    have first : isDigit c = true := digits c (List.mem_cons_self ..)
    cases rest with
    | nil => simp [ungroup, first]
    | cons next rest =>
      have second : next ≠ '_' := ne_underscore_of_isDigit (digits next (by simp))
      have others := ih (by simp) fun d member => digits d (List.mem_cons_of_mem _ member)
      simp [ungroup, first, second, others]

private theorem dropFinalNewline_append (t : Text) :
    ∃ tail, t = dropFinalNewline t ++ tail ∧ ∀ c ∈ tail, isMargin c = true := by
  fun_induction dropFinalNewline t with
  | case1 => exact ⟨[], rfl, by simp⟩
  | case2 => exact ⟨['\n'], rfl, List.forall_mem_singleton.mpr (by decide)⟩
  | case3 c rest _ ih =>
    obtain ⟨tail, whole, blank⟩ := ih
    exact ⟨tail, congrArg (c :: ·) whole, blank⟩

private theorem splitSign_append (t : Text) :
    ∃ sign, t = sign ++ (splitSign t).2 ∧ ∀ c ∈ sign, isMargin c = false := by
  unfold splitSign
  split
  · exact ⟨['-'], rfl, List.forall_mem_singleton.mpr (by decide)⟩
  · exact ⟨['+'], rfl, List.forall_mem_singleton.mpr (by decide)⟩
  · exact ⟨[], rfl, by simp⟩

private theorem row_of_literal {t : Text} (literal : isInteger t = true) :
    (splitSign (dropFinalNewline t)).2 ≠ [] ∧
      ∀ c ∈ (splitSign (dropFinalNewline t)).2, isDigit c = true := by
  simpa [isInteger, isDigits] using literal

private theorem isMargin_of_literal {t : Text} (literal : isInteger t = true) :
    ∀ c ∈ dropFinalNewline t, isMargin c = false := by
  obtain ⟨sign, whole, marked⟩ := splitSign_append (dropFinalNewline t)
  intro c member
  rw [whole] at member
  rcases List.mem_append.mp member with inSign | inRow
  · exact marked c inSign
  · exact isMargin_of_isDigit ((row_of_literal literal).2 c inRow)

/-- The margins of a literal are its final line feed, if it has one. -/
private theorem dropMargins_literal {t : Text} (literal : isInteger t = true) :
    dropMargins t = dropFinalNewline t := by
  obtain ⟨tail, whole, blank⟩ := dropFinalNewline_append t
  have inner := isMargin_of_literal literal
  have nonempty : dropFinalNewline t ≠ [] := by
    intro empty
    exact (row_of_literal literal).1 (by rw [empty]; rfl)
  -- The literal proper starts and ends with a sign or a digit, so only what follows it goes.
  generalize dropFinalNewline t = core at *
  subst whole
  have front : (core ++ tail).dropWhile isMargin = core ++ tail := by
    obtain ⟨c, rest, rfl⟩ := List.exists_cons_of_ne_nil nonempty
    simp [inner c (by simp)]
  have back : core.rdropWhile isMargin = core := by
    rw [List.rdropWhile_eq_self_iff]
    intro _
    simp [inner _ (List.getLast_mem nonempty)]
  calc dropMargins (core ++ tail)
      = (core ++ tail).rdropWhile isMargin := by rw [dropMargins, front]; rfl
    _ = core.rdropWhile isMargin := by
        rw [List.rdropWhile, List.reverse_append,
          List.dropWhile_append_of_pos (by simpa using blank)]
        rfl
    _ = core := back

/-- A literal is read as its row of digits, if they are not too many, under its sign. -/
theorem readInteger_eq {t : Text} (literal : isInteger t = true) :
    readInteger t =
      let (negative, row) := splitSign (dropFinalNewline t)
      if maxDigits < row.length then .error .tooManyDigits
      else if negative then .ok (-(digitsValue row : Int))
      else .ok (digitsValue row) := by
  obtain ⟨nonempty, digits⟩ := row_of_literal literal
  simp only [readInteger, dropMargins_literal literal, ungroup_digits nonempty digits]

/-- A literal is read, unless it has too many digits. -/
theorem readInteger_literal {t : Text} (literal : isInteger t = true) :
    (∃ n, readInteger t = .ok n) ∨ readInteger t = .error .tooManyDigits := by
  simp only [readInteger_eq literal]
  split
  · exact Or.inr rfl
  · split
    · exact Or.inl ⟨_, rfl⟩
    · exact Or.inl ⟨_, rfl⟩

end Plotter.Text
