import Plotter.CommandLine.Command
import Plotter.Proofs.Machine.Placement
import Plotter.Proofs.Machine.Session

/-!
# A script read whole and a script typed

A file is read whole: its line ends are unified and it is cut at every kind of break.  What is typed
arrives in pieces that end at line feeds, and each piece is cut at the other breaks.  A carriage
return before a line feed is one break in the whole, and stays at the end of its piece, where it
breaks off nothing.  So the two ways come to the same texts once lines that say nothing are dropped.
The lines may well have other numbers: all of a piece have one.

## Main results

* `Text.lines_unifyNewlines`: unified line ends break the same lines.
* `Machine.feedPieces_typedLines`: a machine that is fed the pieces comes to what it comes to when it
  is fed the lines of the whole, up to the places of lines.
-/

namespace Plotter

namespace Text

/-- A line feed at the end of a text adds at most an empty line. -/
theorem lines_concat_feed (t : Text) :
    lines (t ++ ['\n']) = lines t ∨ lines (t ++ ['\n']) = lines t ++ [[]] := by
  induction t with
  | nil => exact Or.inr (by simp [lines_cons, lines])
  | cons c t ih =>
    by_cases last : t = []
    · -- The last character is a break, or it is the start of the last line.
      subst last
      have empty : lines ['\n'] = [[]] := by simp [lines]
      rw [List.cons_append, List.nil_append, lines_cons c ['\n'], lines_cons c [], empty]
      by_cases isReturn : c = '\r'
      · subst isReturn
        exact Or.inl (by simp [lines])
      · by_cases broken : isBreak c = true
        · exact Or.inr (by simp [isReturn, broken, lines])
        · exact Or.inl (by simp [isReturn, broken, lines, prepend])
    · have head : (t ++ ['\n']).head? = t.head? := by
        cases t with
        | nil => exact absurd rfl last
        | cons => rfl
      simp only [List.cons_append, lines_cons, head]
      split
      · exact ih
      · split
        · exact ih.imp (congrArg _) (congrArg _)
        · refine ih.imp (congrArg _) fun more => ?_
          rw [more]
          exact prepend_append c (lines_ne_nil last) _

/-- Unified line ends break the same lines. -/
theorem lines_unifyNewlines (t : Text) : lines (unifyNewlines t) = lines t := by
  fun_induction unifyNewlines t with
  | case1 => rfl
  | case2 rest ih => simp [lines, ih]
  | case3 rest unpaired ih =>
    -- A carriage return of its own is a break, and so is the line feed that it becomes.
    have unfed : rest.head? ≠ some '\n' := by
      intro head
      obtain ⟨later, rfl⟩ := List.head?_eq_some_iff.mp head
      exact unpaired later rfl
    simp [lines_cons, unfed, ih]
  | case4 c rest _ noReturn ih =>
    have other : c ≠ '\r' := fun isReturn => noReturn isReturn
    simp [lines_cons, other, ih]

end Text

namespace Line

/-- What some physical lines say: their texts without blanks around them, and without those that
say nothing. -/
def said (raws : List Text) : List Text := (raws.map Text.trim).filter fun text => !isSilent text

theorem said_append (first second : List Text) :
    said (first ++ second) = said first ++ said second := by
  simp [said]

theorem text_numbered (filename : Option Text) (number : Int) (raws : List Text) :
    (numbered filename number raws).map text = said raws := by
  induction raws generalizing number with
  | nil => rfl
  | cons raw rest ih =>
    simp only [numbered, said, List.map_cons, List.filter_cons]
    split
    next silent => simp only [silent, Bool.not_true, Bool.false_eq_true, if_false, ih, said]
    next loud => simp only [loud, Bool.not_false, if_true, List.map_cons, ih, said]

theorem said_concat_feed (t : Text) : said (Text.lines (t ++ ['\n'])) = said (Text.lines t) := by
  have empty : said [[]] = [] := rfl
  rcases Text.lines_concat_feed t with same | more
  · rw [same]
  · rw [more, said_append, empty, List.append_nil]

end Line

namespace CommandLine.Command

/-- The first piece of typed input, and the others. -/
theorem typedLines_feed {piece : Text} (single : '\n' ∉ piece) (rest : Text) :
    typedLines (piece ++ '\n' :: rest) = piece :: typedLines rest := by
  induction piece with
  | nil => rfl
  | cons c piece ih =>
    have other : c ≠ '\n' := fun feed => single (feed ▸ List.mem_cons_self ..)
    have single : '\n' ∉ piece := fun member => single (List.mem_cons_of_mem c member)
    simp [typedLines, other, ih single]

theorem typedLines_last {piece : Text} (single : '\n' ∉ piece) (nonempty : piece ≠ []) :
    typedLines piece = [piece] := by
  induction piece with
  | nil => exact absurd rfl nonempty
  | cons c piece ih =>
    have other : c ≠ '\n' := fun feed => single (feed ▸ List.mem_cons_self ..)
    have single : '\n' ∉ piece := fun member => single (List.mem_cons_of_mem c member)
    by_cases last : piece = []
    · subst last
      simp [typedLines, other]
    · simp [typedLines, other, ih single last]

/-- The pieces of a text say together what its lines say. -/
theorem said_typedLines (t : Text) :
    ((typedLines t).flatMap fun piece => Line.said (Text.lines piece)) =
      Line.said (Text.lines t) := by
  -- The induction is on the number of characters: a whole piece goes at once.
  induction length : t.length using Nat.strong_induction_on generalizing t with
  | _ n ih =>
    by_cases more : '\n' ∈ t
    · obtain ⟨piece, rest, rfl, single⟩ := List.eq_append_cons_of_mem more
      have shorter : rest.length < n := by
        rw [← length, List.length_append, List.length_cons]
        omega
      rw [typedLines_feed single, List.flatMap_cons, ih _ shorter rest rfl, Text.lines_append_feed,
        Line.said_append, Line.said_concat_feed]
    · by_cases empty : t = []
      · subst empty
        rfl
      · rw [typedLines_last more empty, List.flatMap_singleton]

end CommandLine.Command

namespace Machine

variable {ε : Type}

/-- The lines of pieces that are counted from a number on. -/
def sessionLines : (number : Int) → List Text → List Line
  | _, [] => []
  | number, piece :: rest => typedLines piece (some number) ++ sessionLines (number + 1) rest

theorem text_typedLines (piece : Text) (number : Option Int) :
    (typedLines piece number).map Line.text = Line.said (Text.lines piece) := by
  rw [← Line.text_numbered none 1]
  simp only [typedLines, Line.ofSource]
  split
  · rfl
  · rfl
  · rw [List.map_map]
    rfl

theorem text_sessionLines (number : Int) (pieces : List Text) :
    (sessionLines number pieces).map Line.text =
      pieces.flatMap fun piece => Line.said (Text.lines piece) := by
  induction pieces generalizing number with
  | nil => rfl
  | cons piece rest ih =>
    rw [sessionLines, List.map_append, text_typedLines, ih, List.flatMap_cons]

theorem feedPieces_eq_feedLines (settings : Settings) (number : Int) (pieces : List Text)
    (m : Machine ε) :
    feedPieces settings number pieces m = feedLines settings (sessionLines number pieces) m := by
  induction pieces generalizing number m with
  | nil => rfl
  | cons piece rest ih =>
    rw [sessionLines, feedLines_append_eq, feedPieces, feed]
    rcases feedLines settings (typedLines piece (some number)) m with ⟨next, _ | f⟩
    · exact ih (number + 1) next
    · rfl

/-- A machine that is fed typed input comes to what it comes to when it is fed the lines of the
whole, up to the places of lines. -/
theorem feedPieces_typedLines (settings : Settings) (number : Int) (t : Text)
    (filename : Option Text) (m : Machine ε) :
    let typed := feedPieces settings number (CommandLine.Command.typedLines t) m
    let read := feedLines settings (Line.ofSource t filename) m
    typed.1.unplaced = read.1.unplaced ∧ typed.2 = read.2 := by
  rw [feedPieces_eq_feedLines]
  refine feedLines_of_texts m settings ?_
  rw [text_sessionLines, CommandLine.Command.said_typedLines, Line.ofSource, Line.text_numbered]

end Machine

end Plotter
