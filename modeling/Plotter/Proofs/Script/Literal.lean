import Plotter.Proofs.Script.Chain
import Plotter.Proofs.Text.Literal
import Plotter.Script.Evaluation

/-!
# Integer literals

A literal is a row of decimal digits with a sign in front or without.  The recogniser of literals
also admits a line feed at the end, but where expressions and conditions are cut into parts no
blank is left in a part, so there the literals are exactly the texts of a `Literal`.
-/

namespace Plotter

structure Literal where
  sign : Option Sign
  digits : Text
  wellFormed : Text.isDigits digits = true

namespace Literal

def text (l : Literal) : Text :=
  match l.sign with
  | none => l.digits
  | some sign => sign.char :: l.digits

/-- The number that a literal stands for. -/
def value (l : Literal) : Int := (l.sign.getD .plus).apply (Text.digitsValue l.digits)

/-- It has no more digits than can be read. -/
def Readable (l : Literal) : Prop := l.digits.length ≤ Text.maxDigits

instance (l : Literal) : Decidable l.Readable := inferInstanceAs (Decidable (_ ≤ _))

end Literal

namespace Text

variable {t : Text}

theorem isDigits_iff : isDigits t = true ↔ t ≠ [] ∧ ∀ c ∈ t, isDigit c = true := by
  simp [isDigits]

theorem notMem_of_isDigits {c : Char} (digits : isDigits t = true) (other : isDigit c = false) :
    c ∉ t := by
  intro member
  have digit := (isDigits_iff.mp digits).2 c member
  rw [other] at digit
  cases digit

theorem dropFinalNewline_append_of_notMem (unbroken : '\n' ∉ t) (rest : Text) :
    dropFinalNewline (t ++ rest) = t ++ dropFinalNewline rest := by
  induction t with
  | nil => rfl
  | cons c t ih =>
    rw [List.mem_cons, not_or] at unbroken
    rw [List.cons_append, dropFinalNewline, ih unbroken.2, List.cons_append]
    rintro rfl
    exact absurd rfl unbroken.1

theorem dropFinalNewline_of_notMem (unbroken : '\n' ∉ t) : dropFinalNewline t = t := by
  simpa [dropFinalNewline] using dropFinalNewline_append_of_notMem unbroken []

theorem head?_dropFinalNewline {c : Char} (first : (dropFinalNewline t).head? = some c) :
    t.head? = some c := by
  fun_cases dropFinalNewline t with
  | case1 => simp [dropFinalNewline] at first
  | case2 => simp [dropFinalNewline] at first
  | case3 d rest other => simpa [dropFinalNewline, other] using first

/-- A text that starts with neither sign has none to take off. -/
theorem splitSign_of_head? (unsigned : ∀ s : Sign, t.head? ≠ some s.char) :
    splitSign t = (false, t) := by
  unfold splitSign
  split
  · exact absurd rfl (unsigned .minus)
  · exact absurd rfl (unsigned .plus)
  · rfl

theorem splitSign_of_isDigits (digits : isDigits t = true) : splitSign t = (false, t) := by
  apply splitSign_of_head?
  intro s first
  refine notMem_of_isDigits digits ?_ (List.mem_of_head? first)
  cases s <;> decide

end Text

namespace Literal

theorem splitSign_text (l : Literal) :
    Text.splitSign (Text.dropFinalNewline l.text) = (l.sign == some .minus, l.digits) := by
  obtain ⟨sign, digits, wellFormed⟩ := l
  have unbroken : '\n' ∉ digits := Text.notMem_of_isDigits wellFormed (by decide)
  cases sign with
  | none =>
    rw [text, Text.dropFinalNewline_of_notMem unbroken, Text.splitSign_of_isDigits wellFormed]
    rfl
  | some sign =>
    have unbroken' : '\n' ∉ sign.char :: digits := by
      cases sign <;> simp [Sign.char, unbroken]
    rw [text, Text.dropFinalNewline_of_notMem unbroken']
    cases sign <;> rfl

theorem isInteger_text (l : Literal) : Text.isInteger l.text = true := by
  rw [Text.isInteger, splitSign_text]
  exact l.wellFormed

theorem readInteger_text (l : Literal) :
    Text.readInteger l.text = if l.Readable then .ok l.value else .error .tooManyDigits := by
  rw [Text.readInteger_eq l.isInteger_text, splitSign_text]
  obtain ⟨sign, digits, wellFormed⟩ := l
  by_cases readable : digits.length ≤ Text.maxDigits
  · have short : ¬ Text.maxDigits < digits.length := Nat.not_lt.mpr readable
    match sign with
    | none => simp [Readable, readable, short, value, Sign.apply]
    | some .plus => simp [Readable, readable, short, value, Sign.apply]
    | some .minus => simp [Readable, readable, short, value, Sign.apply]
  · have long : Text.maxDigits < digits.length := Nat.not_le.mp readable
    simp [Readable, readable, long]

/-- Whatever is recognised as a literal is one, if no line feed is in it. -/
theorem exists_text_eq {t : Text} (literal : Text.isInteger t = true) (unbroken : '\n' ∉ t) :
    ∃ l : Literal, l.text = t := by
  rw [Text.isInteger, Text.dropFinalNewline_of_notMem unbroken] at literal
  unfold Text.splitSign at literal
  split at literal
  next rest => exact ⟨⟨some .minus, rest, literal⟩, rfl⟩
  next rest => exact ⟨⟨some .plus, rest, literal⟩, rfl⟩
  · exact ⟨⟨none, t, literal⟩, rfl⟩

theorem literal_text (l : Literal) :
    Evaluation.literal l.text =
      if l.Readable then .ok l.value else .error (.failure (.numeral .tooManyDigits)) := by
  rw [Evaluation.literal, readInteger_text]
  by_cases readable : l.Readable <;> simp [readable]

end Literal

end Plotter
