import Plotter.Proofs.Text.Run
import Plotter.Text.Lines

/-!
# Lines and line feeds

What becomes of the lines of a text is told by its first character (`lines_cons`).  A line feed
always ends a line: it may belong to the break before it, but never to what follows, so a text may
be cut after any of them (`lines_append_feed`).

A text can also be cut at its line feeds alone.  If nothing else breaks its lines, but for carriage
returns that a line feed follows, the pieces are the lines up to two differences: a carriage return
may still stand at the end of a piece, and there is one more piece, which is empty, when the last
line is ended by a line feed or when there is no line at all.
-/

namespace Plotter.Text

/-! ### Lines by their first character -/

@[simp] theorem isBreak_feed : isBreak '\n' = true := by decide

@[simp] theorem isBreak_return : isBreak '\r' = true := by decide

/-- A character in front of the first of some lines. -/
def prepend (c : Char) : List Text → List Text
  | [] => [[c]]
  | first :: later => (c :: first) :: later

theorem prepend_append (c : Char) {first : List Text} (some_ : first ≠ []) (second : List Text) :
    prepend c (first ++ second) = prepend c first ++ second := by
  cases first with
  | nil => exact absurd rfl some_
  | cons line later => rfl

/-- The lines of a text by its first character.  A carriage return before a line feed adds nothing
to the line feed. -/
theorem lines_cons (c : Char) (t : Text) :
    lines (c :: t) =
      if c = '\r' ∧ t.head? = some '\n' then lines t
      else if isBreak c then [] :: lines t
      else prepend c (lines t) := by
  by_cases pair : c = '\r' ∧ t.head? = some '\n'
  · obtain ⟨rfl, head⟩ := pair
    obtain ⟨rest, rfl⟩ := List.head?_eq_some_iff.mp head
    simp [lines]
  · have unpaired : ∀ rest, c = '\r' → t = '\n' :: rest → False := by
      rintro rest rfl rfl
      exact pair ⟨rfl, rfl⟩
    rw [if_neg pair, lines]
    · split
      · rfl
      · cases lines t <;> rfl
    · exact unpaired

theorem lines_ne_nil {t : Text} (nonempty : t ≠ []) : lines t ≠ [] := by
  induction t with
  | nil => exact absurd rfl nonempty
  | cons c t ih =>
    rw [lines_cons]
    split
    next pair =>
      refine ih ?_
      rintro rfl
      cases pair.2
    · split
      · simp
      · cases lines t <;> simp [prepend]

/-- A line feed ends a line for good, whatever stands before it. -/
theorem lines_append_feed (t rest : Text) :
    lines (t ++ '\n' :: rest) = lines (t ++ ['\n']) ++ lines rest := by
  induction t with
  | nil => simp [lines_cons, lines]
  | cons c t ih =>
    -- Whether a carriage return counts is up to the next character, which is the same on both sides.
    have head : (t ++ '\n' :: rest).head? = (t ++ ['\n']).head? := by cases t <;> rfl
    simp only [List.cons_append, lines_cons, head, ih]
    split
    · rfl
    · split
      · rfl
      · exact prepend_append c (lines_ne_nil (by simp)) _

/-! ### Pieces between line feeds -/

/-- Every break in the text is a line feed, or a carriage return that a line feed follows.  A
carriage return may also be the last character: the pieces between line feeds end in one. -/
def BreaksAtFeeds : Text → Prop
  | [] => True
  | c :: rest =>
    (isBreak c = true → c = '\n' ∨ c = '\r' ∧ (rest = [] ∨ rest.head? = some '\n')) ∧
      BreaksAtFeeds rest

instance decidableBreaksAtFeeds : (t : Text) → Decidable t.BreaksAtFeeds
  | [] => .isTrue trivial
  | _ :: rest => @instDecidableAnd _ _ inferInstance (decidableBreaksAtFeeds rest)

/-- A line and the piece that it comes from. -/
def IsPiece (line piece : Text) : Prop := piece = line ∨ piece = line ++ ['\r']

/-- A carriage return at the end of a text is trimmed away. -/
theorem trim_of_isPiece {line piece : Text} (cut : IsPiece line piece) :
    trim piece = trim line := by
  rcases cut with rfl | rfl
  · rfl
  · have blank : isBlank '\r' = true := by decide
    simp only [trim, trimStart, trimEnd_eq_rdropWhile, List.dropWhile_append, List.isEmpty_iff]
    split
    next empty => simp [empty, blank]
    · exact List.rdropWhile_concat_pos _ _ _ blank

/-- The pieces between the line feeds are the lines, with an empty one behind them if a line feed
ends the text. -/
theorem splitOn_feed {t : Text} (fed : t.BreaksAtFeeds) :
    ∃ pieces, (t.splitOn '\n' = pieces ∨ t.splitOn '\n' = pieces ++ [[]]) ∧
      List.Forall₂ IsPiece (lines t) pieces := by
  fun_induction lines t with
  | case1 => exact ⟨[], Or.inr rfl, .nil⟩
  | case2 rest ih =>
    -- The piece before the line feed is the carriage return, which belongs to an empty line.
    obtain ⟨pieces, cut, each⟩ := ih fed.2.2
    refine ⟨['\r'] :: pieces, ?_, .cons (Or.inr rfl) each⟩
    simpa [List.splitOn_cons_eq_if_modifyHead] using cut
  | case3 c rest notPair broken ih =>
    obtain ⟨pieces, cut, each⟩ := ih fed.2
    rcases fed.1 broken with rfl | ⟨rfl, rfl | follows⟩
    · refine ⟨[] :: pieces, ?_, .cons (Or.inl rfl) each⟩
      simpa [List.splitOn_cons_eq_if_modifyHead] using cut
    · exact ⟨[['\r']], Or.inl rfl, .cons (Or.inr rfl) .nil⟩
    · obtain ⟨later, rfl⟩ := List.head?_eq_some_iff.mp follows
      exact absurd rfl (notPair later rfl)
  | case4 c rest notPair unbroken none ih =>
    -- The text behind the character has no line, so it has only the empty piece.
    obtain ⟨pieces, cut, each⟩ := ih fed.2
    rw [none] at each
    cases each
    have notFeed : c ≠ '\n' := by
      rintro rfl
      exact unbroken (by decide)
    refine ⟨[[c]], Or.inl ?_, .cons (Or.inl rfl) .nil⟩
    have only : rest.splitOn '\n' = [[]] := by simpa using cut
    simp [List.splitOn_cons_eq_if_modifyHead, notFeed, only]
  | case5 c rest notPair unbroken first later found ih =>
    -- The character belongs to the first line and to the first piece of the text behind it.
    obtain ⟨pieces, cut, each⟩ := ih fed.2
    rw [found] at each
    cases each with
    | @cons _ piece _ others isPiece each =>
      have notFeed : c ≠ '\n' := by
        rintro rfl
        exact unbroken (by decide)
      refine ⟨(c :: piece) :: others, ?_, .cons ?_ each⟩
      · rcases cut with cut | cut
        · exact Or.inl (by simp [List.splitOn_cons_eq_if_modifyHead, notFeed, cut])
        · exact Or.inr (by simp [List.splitOn_cons_eq_if_modifyHead, notFeed, cut])
      · rcases isPiece with rfl | rfl
        · exact Or.inl rfl
        · exact Or.inr rfl

/-- A carriage return in front of the rest of a text ends the first piece. -/
private theorem head_splitOn_of_return {rest first : Text} {later : List Text}
    (ends : rest = [] ∨ rest.head? = some '\n') (cut : rest.splitOn '\n' = first :: later) :
    first = [] := by
  rcases ends with rfl | feed
  · simp_all
  · obtain ⟨beyond, rfl⟩ := List.head?_eq_some_iff.mp feed
    simp_all [List.splitOn_cons_eq_if_modifyHead]

/-- A piece between line feeds holds none, and nothing breaks it but a carriage return at its
end. -/
theorem breaksAtFeeds_of_mem {t piece : Text} (fed : t.BreaksAtFeeds)
    (member : piece ∈ t.splitOn '\n') : piece.BreaksAtFeeds ∧ '\n' ∉ piece := by
  induction t generalizing piece with
  | nil =>
    simp only [List.splitOn_nil, List.mem_singleton] at member
    subst member
    exact ⟨trivial, by simp⟩
  | cons c rest ih =>
    rw [List.splitOn_cons_eq_if_modifyHead] at member
    split at member
    · rcases List.mem_cons.mp member with rfl | later
      · exact ⟨trivial, by simp⟩
      · exact ih fed.2 later
    next notFeed =>
      obtain ⟨first, later, cut⟩ := List.exists_cons_of_ne_nil (List.splitOn_ne_nil '\n' rest)
      rw [cut, List.modifyHead_cons] at member
      rcases List.mem_cons.mp member with rfl | elsewhere
      · -- The character goes in front of the first piece, which is empty if the character breaks.
        have isPiece : first ∈ rest.splitOn '\n' := by simp [cut]
        obtain ⟨inner, free⟩ := ih fed.2 isPiece
        have different : c ≠ '\n' := by simpa using notFeed
        refine ⟨⟨fun broken => ?_, inner⟩, by simp [free, different.symm]⟩
        obtain ⟨isReturn, ends⟩ := (fed.1 broken).resolve_left different
        exact Or.inr ⟨isReturn, Or.inl (head_splitOn_of_return ends cut)⟩
      · exact ih fed.2 (by simp [cut, elsewhere])

end Plotter.Text
