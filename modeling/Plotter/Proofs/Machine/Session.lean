import Plotter.Proofs.Machine.Feeding
import Plotter.Proofs.Script.Source
import Plotter.Surface.Recording

/-!
# Scripts run at once and scripts typed in pieces

A host can hand over a whole script, or cut it at its line feeds and hand over the pieces one after
another, counting them.  The lines of the whole are cut and numbered in one go; a piece is cut into
lines again, and what comes of it gets the number of the piece.  Both ways lead to the same lines
under the same numbers: a piece holds one line at most, since a carriage return at its end is
trimmed away and an empty piece says nothing.  So the machine comes to the same end.
-/

namespace Plotter

namespace Line

/-- An empty line at the end says nothing. -/
theorem numbered_concat_nil (filename : Option Text) (number : Int) (raws : List Text) :
    numbered filename number (raws ++ [[]]) = numbered filename number raws := by
  rw [numbered_append]
  exact List.append_nil _

/-- Lines and the pieces that they come from say the same. -/
theorem numbered_of_pieces {lines pieces : List Text}
    (each : List.Forall₂ Text.IsPiece lines pieces) (filename : Option Text) (number : Int) :
    numbered filename number lines = numbered filename number pieces := by
  induction each generalizing number with
  | nil => rfl
  | cons isPiece _ ih => simp only [numbered, Text.trim_of_isPiece isPiece, ih]

/-- The lines of a text are those of its pieces between line feeds, one for each. -/
theorem numbered_lines {t : Text} (fed : t.BreaksAtFeeds) (filename : Option Text) (number : Int) :
    numbered filename number (Text.lines t) = numbered filename number (t.splitOn '\n') := by
  obtain ⟨pieces, cut, each⟩ := Text.splitOn_feed fed
  rw [numbered_of_pieces each]
  rcases cut with cut | cut
  · rw [cut]
  · rw [cut, numbered_concat_nil]

theorem map_number_numbered (filename : Option Text) (first number : Int) (raw : Text) :
    (numbered filename first [raw]).map (fun line => { line with number := number }) =
      numbered filename number [raw] := by
  simp only [numbered]
  split <;> rfl

end Line

namespace Machine

variable {ε : Type} {settings : Settings}

/-- Takes pieces of input one after another, up to the first failure.  Each piece has the number
after that of the piece before it. -/
def feedPieces (settings : Settings) :
    (number : Int) → List Text → Machine ε → Machine ε × Option Failure
  | _, [], m => (m, none)
  | number, piece :: rest, m =>
    match feed settings piece (some number) m with
    | (next, none) => feedPieces settings (number + 1) rest next
    | failed => failed

/-- A piece without a line feed is one line under the number of the piece. -/
theorem typedLines_of_piece {piece : Text} (fed : piece.BreaksAtFeeds) (single : '\n' ∉ piece)
    {number : Int} (positive : 0 < number) :
    typedLines piece (some number) = Line.numbered none number [piece] := by
  have cut : Line.ofSource piece none = Line.numbered none 1 [piece] := by
    rw [Line.ofSource, Line.numbered_lines fed, List.splitOn_eq_singleton single]
  have nonzero : number ≠ 0 := by omega
  simp only [typedLines, cut]
  exact Line.map_number_numbered none 1 number piece

/-- To feed pieces is to feed their lines under the numbers of the pieces. -/
theorem feedPieces_eq {pieces : List Text}
    (each : ∀ piece ∈ pieces, piece.BreaksAtFeeds ∧ '\n' ∉ piece) {number : Int}
    (positive : 0 < number) (m : Machine ε) :
    feedPieces settings number pieces m =
      feedLines settings (Line.numbered none number pieces) m := by
  induction pieces generalizing number m with
  | nil => rfl
  | cons piece rest ih =>
    obtain ⟨fed, single⟩ := each piece (List.mem_cons_self ..)
    have later : ∀ piece ∈ rest, piece.BreaksAtFeeds ∧ '\n' ∉ piece :=
      fun piece member => each piece (List.mem_cons_of_mem _ member)
    rw [Line.numbered_cons, feedLines_append_eq]
    simp only [feedPieces, feed, typedLines_of_piece fed single positive]
    rcases feedLines settings (Line.numbered none number [piece]) m with ⟨next, _ | f⟩
    · exact ih later (by omega) next
    · rfl

/-- A run that does not stop at faults ends as the session ends in which the pieces of the script
between line feeds are typed one after another, counted from one, and the input is ended then.
There is a result on the one side exactly if no piece fails on the other. -/
theorem run_ok_iff_session (continuing : settings.stopOnError = false) {source : Text}
    (fed : source.BreaksAtFeeds) (m ended : Machine ε) (result : Result) :
    run settings source none m = (ended, .ok result) ↔
      ∃ last, feedPieces settings 1 (source.splitOn '\n') (reset settings m) = (last, none) ∧
        ended = last.finish ∧ result = ended.result false := by
  have typed : feedPieces settings 1 (source.splitOn '\n') (reset settings m) =
      feedLines settings (Line.numbered none 1 (source.splitOn '\n')) (reset settings m) :=
    feedPieces_eq (fun _ => Text.breaksAtFeeds_of_mem fed) Int.one_pos (reset settings m)
  rw [typed, ← Line.numbered_lines fed]
  exact run_ok_iff continuing

/-- Blank lines, a comment, both kinds of break, a line that is nothing and a loop that is left
open: the reports carry the numbers that the lines have in the whole. -/
theorem run_ok_iff_session_mixed :
    let source : Text := "x = 1\r\n\n# note\nbogus\r\nloop 2\nmoveto x 0\r\n".toList
    let m := create {} Recording.surface
    source.BreaksAtFeeds ∧
      ∃ last, feedPieces {} 1 (source.splitOn '\n') (reset {} m) = (last, none) ∧
        run {} source none m = (last.finish, .ok (last.finish.result false)) ∧
        last.finish.state.report.diagnostics.map Diagnostic.line = [4, 5] := by
  intro source m
  have fed : source.BreaksAtFeeds := by decide
  let session := feedPieces {} 1 (source.splitOn '\n') (reset {} m)
  have typed : session = (session.1, none) := eq_of_unfailed (by decide +kernel)
  have ran := (run_ok_iff_session rfl fed m _ _).mpr ⟨_, typed, rfl, rfl⟩
  exact ⟨fed, _, typed, ran, by decide +kernel⟩

end Machine

end Plotter
