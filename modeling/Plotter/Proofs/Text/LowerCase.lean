import Mathlib.Data.List.Basic
import Plotter.Script.Keyword

/-!
# Words that are lowered to keywords

Lowering is not one to one: the Kelvin sign is lowered to the letter k, and the capital I with a
dot to two characters.  No keyword has the letter k, and every other character beyond the
unaccented letters is lowered to something beyond them.  So a word that spells a keyword, in any
case, is a word of letters, and letters are lowered one by one.
-/

namespace Plotter

namespace Text

/-- A small letter other than k.  The keywords are made of these. -/
def isPlainSmall (c : Char) : Bool := 97 ≤ c.toNat && c.toNat ≤ 122 && c.toNat != 107

private theorem isPlainSmall_iff {c : Char} :
    isPlainSmall c = true ↔ (97 ≤ c.toNat ∧ c.toNat ≤ 122) ∧ c.toNat ≠ 107 := by
  simp [isPlainSmall]

private theorem isLetter_iff {c : Char} :
    isLetter c = true ↔ (97 ≤ c.toNat ∧ c.toNat ≤ 122) ∨ 65 ≤ c.toNat ∧ c.toNat ≤ 90 := by
  simp [isLetter]

private theorem isLetter_of_isPlainSmall {c : Char} (small : isPlainSmall c = true) :
    isLetter c = true :=
  isLetter_iff.mpr (Or.inl (isPlainSmall_iff.mp small).1)

private theorem toNat_ofNat (n : Nat) : (Char.ofNat n).toNat = n ∨ (Char.ofNat n).toNat = 0 := by
  by_cases valid : n.isValidChar
  · left
    rw [Char.ofNat, dif_pos valid]
    rfl
  · right
    rw [Char.ofNat, dif_neg valid]
    rfl

/-- Apart from the Kelvin sign, no run of the table leads down to the unaccented letters. -/
private theorem loweredRuns_high : ∀ run ∈ loweredRuns,
    run.last < 0x80 ∨ 0x80 ≤ (run.first : Int) + run.shift ∨
      (run.first = run.last ∧ (run.first : Int) + run.shift = 107) := by
  decide +kernel

/-- A character that is lowered to small letters other than k is a letter itself. -/
private theorem isLetter_of_lowerChar {c : Char}
    (small : ∀ d ∈ lowerChar c, isPlainSmall d = true) : isLetter c = true := by
  simp only [lowerChar] at small
  split at small
  next ascii =>
    split at small
    next capital =>
      simp only [Bool.and_eq_true, decide_eq_true_eq] at capital
      exact isLetter_iff.mpr (Or.inr capital)
    next => exact isLetter_of_isPlainSmall (small c (by simp))
  next beyond =>
    split at small
    -- The capital I with a dot leaves a dot behind, which is no letter.
    next => exact absurd (small (Char.ofNat 0x307) (by simp)) (by decide)
    next =>
      split at small
      next run found =>
        -- The image of a run lies beyond the letters, but for the Kelvin sign, which becomes k.
        have within := List.find?_some found
        simp only [Bool.and_eq_true, decide_eq_true_eq] at within
        have letter := isPlainSmall_iff.mp (small _ (List.mem_singleton_self _))
        have image := toNat_ofNat ((c.toNat : Int) + run.shift).toNat
        rcases loweredRuns_high run (List.mem_of_find?_eq_some found) with low | high | kelvin
        · omega
        · omega
        · omega
      next =>
        -- Outside of the table a character is lowered to itself.
        have letter := isPlainSmall_iff.mp (small c (by simp))
        omega

private theorem isLetter_of_lowerAfter {before t : Text}
    (small : ∀ d ∈ lowerAfter before t, isPlainSmall d = true) : ∀ c ∈ t, isLetter c = true := by
  induction t generalizing before with
  | nil => simp
  | cons c rest ih =>
    simp only [lowerAfter, List.mem_append] at small
    intro d member
    rcases List.mem_cons.mp member with rfl | later
    · have first : ∀ e ∈ _, isPlainSmall e = true := fun e found => small e (Or.inl found)
      split at first
      · -- Both forms of a lowered sigma are Greek.
        split at first
        · exact absurd (first _ (List.mem_singleton_self _)) (by decide)
        · exact absurd (first _ (List.mem_singleton_self _)) (by decide)
      · exact isLetter_of_lowerChar first
    · exact ih (fun e found => small e (Or.inr found)) d later

/-! ### Letters in either case -/

private theorem lowerChar_ascii :
    ∀ n : Fin 128, lowerChar (Char.ofNat n) = [(Char.ofNat n).toLower] := by
  decide

/-- Letters are lowered one by one. -/
theorem lower_of_letters {t : Text} (letters : ∀ c ∈ t, isLetter c = true) :
    lower t = t.map Char.toLower := by
  have after : ∀ before, lowerAfter before t = t.map Char.toLower := by
    induction t with
    | nil => exact fun _ => rfl
    | cons c rest ih =>
      intro before
      obtain ⟨letter, later⟩ := List.forall_mem_cons.mp letters
      have range := isLetter_iff.mp letter
      have noSigma : ¬ (c.toNat == 0x3A3) = true := by
        simp only [beq_iff_eq]
        omega
      have single := lowerChar_ascii ⟨c.toNat, by omega⟩
      rw [Char.ofNat_toNat] at single
      rw [lowerAfter, if_neg noSigma, single, ih later, List.map_cons, List.singleton_append]
  exact after []

/-- Lowering leaves every other character of the first block where it is. -/
theorem mem_lower {t : Text} {c : Char} (member : c ∈ t) (ascii : c.toNat < 128)
    (other : isLetter c = false) : c ∈ lower t := by
  have after : ∀ before, c ∈ lowerAfter before t := by
    induction t with
    | nil => cases member
    | cons d rest ih =>
      intro before
      rw [lowerAfter, List.mem_append]
      rcases List.mem_cons.mp member with rfl | later
      · left
        have noSigma : ¬ (c.toNat == 0x3A3) = true := by
          simp only [beq_iff_eq]
          omega
        have small : ¬ (65 ≤ c.toNat ∧ c.toNat ≤ 90) := fun capital => by
          rw [isLetter_iff.mpr (Or.inr capital)] at other
          cases other
        rw [if_neg noSigma]
        simp [lowerChar, ascii, small]
      · exact Or.inr (ih later _)
  exact after []

private theorem isLetter_of_toLower {c : Char} (small : isPlainSmall c.toLower = true) :
    isLetter c = true := by
  by_contra other
  have same : c.toLower = c := dif_neg fun capital => other (isLetter_iff.mpr (Or.inr capital))
  rw [same] at small
  exact other (isLetter_of_isPlainSmall small)

end Text

namespace Keyword

private theorem word_plain (k : Keyword) :
    k.word ≠ [] ∧ k.word.all Text.isPlainSmall = true := by
  cases k with
  | command p => cases p <;> decide
  | opening kind => cases kind <;> decide
  | closing kind => cases kind <;> decide

private theorem spelled_of_ofWord? {w : Text} {k : Keyword} (found : ofWord? w = some k) :
    Text.lower w = k.word := by
  have searched : all.find? (fun k => k.word == Text.lower w) = some k := found
  have spelled := List.find?_some searched
  exact (beq_iff_eq.mp spelled).symm

/-- A word that spells a keyword is a word of letters. -/
theorem letters_of_ofWord? {w : Text} {k : Keyword} (found : ofWord? w = some k) :
    w ≠ [] ∧ ∀ c ∈ w, Text.isLetter c = true := by
  have lowered := spelled_of_ofWord? found
  obtain ⟨nonempty, small⟩ := word_plain k
  rw [← lowered] at nonempty small
  constructor
  · rintro rfl
    exact nonempty rfl
  · exact Text.isLetter_of_lowerAfter (List.all_eq_true.mp small)

/-- A word is lowered to a keyword exactly when it is one, in either case for each letter. -/
theorem lower_eq_word_iff {w : Text} {k : Keyword} :
    Text.lower w = k.word ↔ w.map Char.toLower = k.word := by
  have small : ∀ c ∈ k.word, Text.isPlainSmall c = true := List.all_eq_true.mp (word_plain k).2
  constructor
  · intro lowered
    rw [← lowered] at small
    rw [← Text.lower_of_letters (Text.isLetter_of_lowerAfter small), lowered]
  · intro lowered
    rw [← lowered] at small
    rw [Text.lower_of_letters, lowered]
    exact fun c member => Text.isLetter_of_toLower (small _ (List.mem_map_of_mem member))

/-- A keyword may be written in any case, and only letters in either case spell one. -/
theorem ofWord?_eq_some_iff {w : Text} {k : Keyword} :
    ofWord? w = some k ↔ w.map Char.toLower = k.word := by
  rw [← lower_eq_word_iff]
  constructor
  · exact spelled_of_ofWord?
  · intro lowered
    rw [ofWord?, lowered]
    cases k with
    | command p => cases p <;> decide
    | opening kind => cases kind <;> decide
    | closing kind => cases kind <;> decide

end Keyword

theorem isName_iff {w : Text} :
    isName w = true ↔ w ≠ [] ∧ (∀ c ∈ w, Text.isLetter c = true) ∧ isReserved w = false := by
  simp [isName, and_assoc]

end Plotter
