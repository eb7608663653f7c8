import Plotter.Proofs.Script.Line
import Plotter.Proofs.Text.Lines

/-!
# The lines of a source

A source is cut into physical lines, and those that are neither blank nor a comment become the lines
of the script, each with the number of its physical line.

## Main result

`source_lines_compose`: the lines of two sources with a line feed between them are those of the first
one and then those of the second one, with numbers that go on counting.  The numbers increase, the
lines are trimmed and say something, and nothing that says something is missing.

## Proof strategy

A line feed ends a physical line whatever stands around it (`Text.lines_append_feed`), and numbering
starts anywhere, so the lines of the second source are numbered on from where the first one ends
(`numbered_append`).
-/

namespace Plotter.Line

variable {filename : Option Text} {number : Int} {raws : List Text}

/-- The line as it stands so many physical lines later. -/
def moved (count : Nat) (line : Line) : Line := { line with number := line.number + count }

/-- A text that says something is not empty and does not start as a comment. -/
theorem isSilent_eq_false_iff {t : Text} :
    isSilent t = false ↔ t ≠ [] ∧ t.head? ≠ some '#' := by
  cases t <;> simp [isSilent]

theorem numbered_cons (filename : Option Text) (number : Int) (raw : Text) (rest : List Text) :
    numbered filename number (raw :: rest) =
      numbered filename number [raw] ++ numbered filename (number + 1) rest := by
  simp only [numbered]
  split <;> rfl

theorem numbered_append (filename : Option Text) (number : Int) (front back : List Text) :
    numbered filename number (front ++ back) =
      numbered filename number front ++ numbered filename (number + front.length) back := by
  induction front generalizing number with
  | nil => simp [numbered]
  | cons raw front ih =>
    have next : number + 1 + (front.length : Int) = number + (raw :: front).length := by
      rw [List.length_cons]
      omega
    rw [List.cons_append, numbered_cons, ih, next, ← List.append_assoc, ← numbered_cons]

/-- Where the numbering starts is all that the numbers depend on. -/
theorem numbered_add (filename : Option Text) (number : Int) (count : Nat) (raws : List Text) :
    numbered filename (number + count) raws = (numbered filename number raws).map (moved count) := by
  induction raws generalizing number with
  | nil => rfl
  | cons raw raws ih =>
    have next : number + count + 1 = number + 1 + count := by omega
    rw [numbered, numbered, next, ih]
    split <;> rfl

/-- No line is numbered below the place where the numbering starts. -/
theorem le_number_of_mem {line : Line} (member : line ∈ numbered filename number raws) :
    number ≤ line.number := by
  obtain ⟨index, _, _, _, rfl⟩ := mem_numbered member
  show number ≤ number + index
  omega

theorem pairwise_number (filename : Option Text) (number : Int) (raws : List Text) :
    (numbered filename number raws).Pairwise fun x y => x.number < y.number := by
  induction raws generalizing number with
  | nil => exact .nil
  | cons raw raws ih =>
    rw [numbered]
    split
    · exact ih (number + 1)
    · refine .cons (fun line member => ?_) (ih (number + 1))
      exact Int.lt_of_lt_of_le (Int.lt_succ number) (le_number_of_mem member)

/-- A physical line that says something is there, trimmed and at its number. -/
theorem mem_numbered_of_getElem? {index : Nat} {raw : Text} (here : raws[index]? = some raw)
    (heard : isSilent (Text.trim raw) = false) :
    ⟨Text.trim raw, number + index, filename⟩ ∈ numbered filename number raws := by
  induction raws generalizing number index with
  | nil => cases here
  | cons first raws ih =>
    rw [numbered]
    cases index with
    | zero =>
      obtain rfl : first = raw := by simpa using here
      simp [heard]
    | succ index =>
      have place : number + ((index + 1 : Nat) : Int) = number + 1 + index := by omega
      have later : ⟨Text.trim raw, number + 1 + index, filename⟩ ∈
          numbered filename (number + 1) raws := ih (by simpa using here)
      rw [place]
      split
      · exact later
      · exact List.mem_cons_of_mem _ later

/-- The lines of a source that is put together from two with a line feed between them are the lines
of the first one, and then those of the second one moved by the number of physical lines before it.

In any source the numbers of the lines increase, and a line is a physical line at its number that is
trimmed, is not empty and does not start with the sign of a comment.  A physical line is missing only
if it is empty or starts with that sign when it is trimmed. -/
theorem source_lines_compose (filename : Option Text) :
    (∀ front back : Text,
      ofSource (front ++ '\n' :: back) filename =
        ofSource (front ++ ['\n']) filename ++
          (ofSource back filename).map (moved (Text.lines (front ++ ['\n'])).length)) ∧
    ∀ source : Text,
      (ofSource source filename).Pairwise (fun x y => x.number < y.number) ∧
      (∀ line ∈ ofSource source filename,
        Text.trim line.text = line.text ∧ line.text ≠ [] ∧ line.text.head? ≠ some '#' ∧
          line.filename = filename ∧
          ∃ (index : Nat) (raw : Text), (Text.lines source)[index]? = some raw ∧
            line.text = Text.trim raw ∧ line.number = index + 1) ∧
      ∀ (index : Nat) (raw : Text), (Text.lines source)[index]? = some raw →
        ⟨Text.trim raw, index + 1, filename⟩ ∈ ofSource source filename ∨
          Text.trim raw = [] ∨ (Text.trim raw).head? = some '#' := by
  refine ⟨fun front back => ?_, fun source => ⟨pairwise_number _ _ _, ?_, ?_⟩⟩
  · rw [ofSource, ofSource, ofSource, Text.lines_append_feed, numbered_append, numbered_add]
  · intro line member
    have tidy := tidy_of_mem_ofSource member
    obtain ⟨index, raw, here, heard, rfl⟩ := mem_numbered member
    exact ⟨tidy.trimmed, tidy.nonempty, (isSilent_eq_false_iff.mp heard).2, rfl, index, raw, here,
      rfl, Int.add_comm ..⟩
  · intro index raw here
    by_cases heard : isSilent (Text.trim raw) = false
    · left
      rw [Int.add_comm]
      exact mem_numbered_of_getElem? here heard
    · rw [isSilent_eq_false_iff] at heard
      by_cases empty : Text.trim raw = []
      · exact Or.inr (Or.inl empty)
      · exact Or.inr (Or.inr (by simpa [empty] using heard))

/-- A carriage return in front of the line feed is one break with it, and a comment is counted. -/
theorem source_lines_compose_of_return :
    let front := "moveto 1 2\r".toList
    let back := "# up\n pen red \n\n".toList
    let filename := some "a.pen".toList
    ofSource (front ++ '\n' :: back) filename =
        [⟨"moveto 1 2".toList, 1, filename⟩, ⟨"pen red".toList, 3, filename⟩] ∧
      ofSource (front ++ '\n' :: back) filename =
        ofSource (front ++ ['\n']) filename ++ (ofSource back filename).map (moved 1) ∧
      (∀ line ∈ ofSource back filename, line.text.head? ≠ some '#') ∧
      (Text.lines back)[1]? = some " pen red ".toList ∧
      ⟨"pen red".toList, 2, filename⟩ ∈ ofSource back filename := by
  intro front back filename
  obtain ⟨composed, each⟩ := source_lines_compose filename
  refine ⟨by decide +kernel, composed front back, ?_, by decide, ?_⟩
  · exact fun line member => ((each back).2.1 line member).2.2.1
  · rcases (each back).2.2 1 " pen red ".toList (by decide) with there | silent | silent
    · exact there
    · exact absurd silent (by decide)
    · exact absurd silent (by decide)

end Plotter.Line
