import Plotter.Proofs.Text.Run
import Plotter.Script.Line
import Plotter.Script.Statement

/-!
# Lines and what they are classified as

The first word of a line decides whether it is a block line, and of which kind.  `Line.isOf` asks
the line itself and `Statement.isOf` what the line was classified as; the two agree, so a fact
about the text of a line can be used where only its statement is at hand.

A line is *tidy* when it is trimmed and not empty.  The lines of a source are tidy, and a tidy
line can always be classified.
-/

namespace Plotter

/-- The keyword at the start of a line. -/
def Line.keyword? (line : Line) : Option Keyword := line.words.head?.bind Keyword.ofWord?

/-- Whether a line opens a block of the kind. -/
def Line.opens (kind : BlockKind) (line : Line) : Bool := line.keyword? = some (.opening kind)

/-- Whether a line closes a block of the kind. -/
def Line.closes (kind : BlockKind) (line : Line) : Bool := line.keyword? = some (.closing kind)

/-- Whether a line opens or closes a block of the kind. -/
def Line.isOf (kind : BlockKind) (line : Line) : Bool :=
  line.keyword? = some (.opening kind) || line.keyword? = some (.closing kind)

/-- A trimmed line that says something. -/
structure Line.Tidy (line : Line) : Prop where
  trimmed : Text.trim line.text = line.text
  nonempty : line.text ≠ []

instance (line : Line) : Decidable line.Tidy :=
  decidable_of_iff (Text.trim line.text = line.text ∧ line.text ≠ [])
    ⟨fun tidy => ⟨tidy.1, tidy.2⟩, fun tidy => ⟨tidy.trimmed, tidy.nonempty⟩⟩

/-- Whether a statement opens or closes a block of the kind. -/
def Statement.isOf (kind : BlockKind) : Statement → Bool
  | .block found _ _ => found = kind
  | _ => false

namespace Line

theorem isOf_of_opens {kind : BlockKind} {line : Line} (opens : line.opens kind = true) :
    line.isOf kind = true :=
  Bool.or_eq_true_iff.mpr (Or.inl opens)

/-- Where a line of a source comes from: a physical line that is neither blank nor a comment, at
its own number. -/
theorem mem_numbered {filename : Option Text} {number : Int} {raws : List Text} {line : Line}
    (member : line ∈ numbered filename number raws) :
    ∃ (index : Nat) (raw : Text), raws[index]? = some raw ∧ isSilent (Text.trim raw) = false ∧
      line = ⟨Text.trim raw, number + index, filename⟩ := by
  induction raws generalizing number with
  | nil => simp [numbered] at member
  | cons raw rest ih =>
    have later (inRest : line ∈ numbered filename (number + 1) rest) :
        ∃ (index : Nat) (found : Text), (raw :: rest)[index]? = some found ∧
          isSilent (Text.trim found) = false ∧
          line = ⟨Text.trim found, number + index, filename⟩ := by
      obtain ⟨index, found, here, heard, rfl⟩ := ih inRest
      refine ⟨index + 1, found, here, heard, ?_⟩
      simp only [mk.injEq, true_and, and_true]
      omega
    simp only [numbered] at member
    split at member
    · exact later member
    next heard =>
      rcases List.mem_cons.mp member with rfl | inRest
      · exact ⟨0, raw, rfl, by simpa using heard, by simp⟩
      · exact later inRest

/-- The lines of a source are tidy. -/
theorem tidy_of_mem_numbered {filename : Option Text} {number : Int} {raws : List Text}
    {line : Line} (member : line ∈ numbered filename number raws) : line.Tidy := by
  obtain ⟨_, raw, _, heard, rfl⟩ := mem_numbered member
  refine ⟨Text.trim_trim raw, fun empty => ?_⟩
  rw [show Text.trim raw = [] from empty] at heard
  cases heard

theorem tidy_of_mem_ofSource {source : Text} {filename : Option Text} {line : Line}
    (member : line ∈ ofSource source filename) : line.Tidy :=
  tidy_of_mem_numbered member

section Spelled

variable {line : Line} {ws : List Text} (spelled : line.text = Text.unwords ws)
  (visible : ∀ w ∈ ws, w.isVisible = true)

include spelled visible

theorem words_of_unwords : line.words = ws := by
  rw [words, spelled, Text.words_unwords visible]

theorem tidy_of_unwords (nonempty : ws ≠ []) : line.Tidy := by
  refine ⟨by rw [spelled, Text.trim_unwords visible], fun empty => nonempty ?_⟩
  rw [← words_of_unwords spelled visible, words, empty]
  rfl

end Spelled

end Line

namespace Statement

/-- What a line that is no block line is classified as. -/
theorem ofPlainLine_cases {t word : Text} {keyword : Option Keyword} {arguments : List Text}
    {statement : Statement} (read : ofPlainLine t keyword word arguments = .ok statement) :
    (∃ name expression, isAssignment (Text.trim t) = true ∧ sides? t = some (name, expression) ∧
      statement = .assignment name (Text.trim expression)) ∨
    (∃ invocation, Call.parse? (Text.trim t) = some invocation ∧ statement = .call invocation) ∨
    (∃ primitive, keyword = some (.command primitive) ∧ statement = .command primitive arguments) ∨
    statement = .invalid (some word) arguments := by
  unfold ofPlainLine at read
  split at read
  next assigns =>
    split at read
    next name expression shape =>
      cases read
      exact Or.inl ⟨name, expression, assigns, shape, rfl⟩
    · cases read
  next =>
    split at read
    next invocation parsed =>
      cases read
      exact Or.inr (Or.inl ⟨invocation, parsed, rfl⟩)
    next primitive _ =>
      cases read
      exact Or.inr (Or.inr (Or.inl ⟨primitive, rfl, rfl⟩))
    next =>
      cases read
      exact Or.inr (Or.inr (Or.inr rfl))

/-- What a line is classified as, by the keyword at its start. -/
theorem classify_cases {t : Text} {statement : Statement} (read : classify t = .ok statement) :
    (Text.words t = [] ∧ statement = .invalid none []) ∨
    ∃ word arguments, Text.words t = word :: arguments ∧
      ((∃ kind, Keyword.ofWord? word = some (.opening kind) ∧
          statement = .block kind false arguments) ∨
        (∃ kind, Keyword.ofWord? word = some (.closing kind) ∧
          statement = .block kind true arguments) ∨
        ((∀ kind, Keyword.ofWord? word ≠ some (.opening kind) ∧
            Keyword.ofWord? word ≠ some (.closing kind)) ∧
          ofPlainLine t (Keyword.ofWord? word) word arguments = .ok statement)) := by
  unfold classify at read
  split at read
  next none =>
    cases read
    exact Or.inl ⟨none, rfl⟩
  next word arguments cut =>
    refine Or.inr ⟨word, arguments, cut, ?_⟩
    split at read
    next kind found =>
      cases read
      exact Or.inl ⟨kind, found, rfl⟩
    next kind found =>
      cases read
      exact Or.inr (Or.inl ⟨kind, found, rfl⟩)
    next notOpening notClosing =>
      exact Or.inr (Or.inr ⟨fun kind => ⟨notOpening kind, notClosing kind⟩, read⟩)

/-- A line that is no block line is not classified as one. -/
private theorem isOf_ofPlainLine {t word : Text} {keyword : Option Keyword}
    {arguments : List Text} {statement : Statement}
    (read : ofPlainLine t keyword word arguments = .ok statement) (kind : BlockKind) :
    statement.isOf kind = false := by
  rcases ofPlainLine_cases read with ⟨_, _, _, _, rfl⟩ | ⟨_, _, rfl⟩ | ⟨_, _, rfl⟩ | rfl
  all_goals rfl

/-- The line and its statement agree on what block it is a line of. -/
theorem isOf_classify {line : Line} {statement : Statement}
    (read : classify line.text = .ok statement) (kind : BlockKind) :
    statement.isOf kind = line.isOf kind := by
  have words : line.words = Text.words line.text := rfl
  rcases classify_cases read with ⟨cut, rfl⟩ | ⟨word, arguments, cut, found⟩
  · simp [isOf, Line.isOf, Line.keyword?, words, cut]
  · have keyword : line.keyword? = Keyword.ofWord? word := by simp [Line.keyword?, words, cut]
    rcases found with ⟨_, opening, rfl⟩ | ⟨_, closing, rfl⟩ | ⟨neither, plain⟩
    · simp [isOf, Line.isOf, keyword, opening]
    · simp [isOf, Line.isOf, keyword, closing]
    · simp [isOf_ofPlainLine plain, Line.isOf, keyword, neither]

/-- The keyword of a block line. -/
theorem keyword?_of_block {line : Line} {kind : BlockKind} {closing : Bool}
    {arguments : List Text} (read : classify line.text = .ok (.block kind closing arguments)) :
    line.keyword? = (block kind closing arguments).keyword? := by
  have words : line.words = Text.words line.text := rfl
  rcases classify_cases read with ⟨_, ⟨⟩⟩ | ⟨word, _, cut, found⟩
  have keyword : line.keyword? = Keyword.ofWord? word := by simp [Line.keyword?, words, cut]
  rcases found with ⟨_, opening, ⟨⟩⟩ | ⟨_, closing, ⟨⟩⟩ | ⟨_, plain⟩
  · exact keyword.trans opening
  · exact keyword.trans closing
  · rcases ofPlainLine_cases plain with ⟨_, _, _, _, ⟨⟩⟩ | ⟨_, _, ⟨⟩⟩ | ⟨_, _, ⟨⟩⟩ | invalid
    cases invalid

theorem opens_of_classify {line : Line} {kind : BlockKind} {arguments : List Text}
    (read : classify line.text = .ok (.block kind false arguments)) : line.opens kind = true := by
  simp [Line.opens, keyword?_of_block read, keyword?]

/-- A trimmed line can be classified. -/
theorem classify_of_trimmed {t : Text} (trimmed : Text.trim t = t) :
    ∃ statement, classify t = .ok statement := by
  unfold classify
  split
  · exact ⟨_, rfl⟩
  · split
    · exact ⟨_, rfl⟩
    · exact ⟨_, rfl⟩
    · -- The shape of an assignment is looked for in the trimmed line and read off the line itself,
      -- which is the same text here.
      unfold ofPlainLine
      rw [trimmed]
      split
      next assigns =>
        cases shape : sides? t with
        | none => simp [isAssignment, shape] at assigns
        | some sides => exact ⟨_, rfl⟩
      · split <;> exact ⟨_, rfl⟩

/-- The target of an assignment is a name. -/
theorem isName_of_classify {t name expression : Text} (trimmed : Text.trim t = t)
    (read : classify t = .ok (.assignment name expression)) : isName name = true := by
  -- Only a line without a block keyword can be an assignment.
  rcases classify_cases read with ⟨_, ⟨⟩⟩ | ⟨_, _, _, ⟨_, _, ⟨⟩⟩ | ⟨_, _, ⟨⟩⟩ | ⟨_, plain⟩⟩
  rcases ofPlainLine_cases plain with ⟨_, _, assigns, shape, ⟨⟩⟩ | ⟨_, _, ⟨⟩⟩ | ⟨_, _, ⟨⟩⟩ | invalid
  · rw [trimmed] at assigns
    simpa [isAssignment, shape] using (Bool.and_eq_true_iff.mp assigns).2
  · cases invalid

theorem parse_of_classify {t : Text} {invocation : Call}
    (read : classify t = .ok (.call invocation)) : Call.parse? (Text.trim t) = some invocation := by
  rcases classify_cases read with ⟨_, ⟨⟩⟩ | ⟨_, _, _, ⟨_, _, ⟨⟩⟩ | ⟨_, _, ⟨⟩⟩ | ⟨_, plain⟩⟩
  rcases ofPlainLine_cases plain with ⟨_, _, _, _, ⟨⟩⟩ | ⟨_, parsed, ⟨⟩⟩ | ⟨_, _, ⟨⟩⟩ | invalid
  · exact parsed
  · cases invalid

/-- The first word of a drawing command is its keyword, and the others are its arguments. -/
theorem words_of_classify {t : Text} {primitive : Primitive} {arguments : List Text}
    (read : classify t = .ok (.command primitive arguments)) :
    ∃ word, Text.words t = word :: arguments ∧
      Keyword.ofWord? word = some (.command primitive) := by
  rcases classify_cases read with ⟨_, ⟨⟩⟩ | ⟨word, _, cut, ⟨_, _, ⟨⟩⟩ | ⟨_, _, ⟨⟩⟩ | ⟨_, plain⟩⟩
  rcases ofPlainLine_cases plain with ⟨_, _, _, _, ⟨⟩⟩ | ⟨_, _, ⟨⟩⟩ | ⟨_, found, ⟨⟩⟩ | invalid
  · exact ⟨word, cut, found⟩
  · cases invalid

end Statement

end Plotter
