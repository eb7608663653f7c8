import Plotter.Proofs.Script.Literal
import Plotter.Proofs.Script.Passing

/-!
# What the lines of a call are read as

A method is a list of texts, and what its lines do is decided anew at every call.  Two facts make
it safe to read a method as if its lines had been classified once.  Replacing names by names
commutes with the whole cascade of recognisers, so every line does what it did, to the new names.
And whatever else is put in, it makes no keyword and hides none, so the block lines and the drawing
commands of a method are those of its lines as they were written.

The second fact needs that no parameter is a reserved word.  A header sees to that.

## Main result

`expansion_keeps_statements`: the two facts, and what they say about the lines of a call.

## Proof strategy

Each recogniser is shown to commute with the replacement on its own, on every text: words, items,
parentheses, the two sides of an assignment, calls.  What makes all of them commute is that the
characters they look for belong to no run, so these characters stay where they are.
-/

namespace Plotter

open Signature

/-! ### Expanded statements -/

namespace Statement

/-- What a statement does, without what it does it to. -/
inductive Kind where
  | block (kind : BlockKind)
  | assignment
  | call
  | command
  | invalid
  deriving DecidableEq, Repr

def kind : Statement → Kind
  | .block kind _ _ => .block kind
  | .assignment .. => .assignment
  | .call _ => .call
  | .command .. => .command
  | .invalid .. => .invalid

/-- The second statement is the first one with the parameters replaced in its texts. -/
structure ExpandsTo (mapping : Dictionary Text) (s s' : Statement) : Prop where
  kind : s'.kind = s.kind
  keyword : s'.keyword? = s.keyword?
  closes : s'.closes = s.closes
  name : s'.name? = s.name?.map (Substitution.parameters mapping)
  arguments : s'.arguments = s.arguments.map (Substitution.parameters mapping)

/-- The statement of a line that starts with a keyword. -/
def ofKeyword (arguments : List Text) : Keyword → Statement
  | .opening kind => .block kind false arguments
  | .closing kind => .block kind true arguments
  | .command primitive => .command primitive arguments

@[simp] theorem keyword?_ofKeyword (arguments : List Text) (keyword : Keyword) :
    (ofKeyword arguments keyword).keyword? = some keyword := by
  cases keyword <;> rfl

end Statement

def Call.expanded (mapping : Dictionary Text) (invocation : Call) : Call where
  name := Substitution.parameters mapping invocation.name
  arguments := invocation.arguments.map (Substitution.parameters mapping)

namespace Statement

/-- A statement with the parameters replaced in its texts. -/
def expanded (mapping : Dictionary Text) : Statement → Statement
  | .block kind closes arguments =>
    .block kind closes (arguments.map (Substitution.parameters mapping))
  | .assignment name expression =>
    .assignment (Substitution.parameters mapping name) (Substitution.parameters mapping expression)
  | .call invocation => .call (invocation.expanded mapping)
  | .command primitive arguments =>
    .command primitive (arguments.map (Substitution.parameters mapping))
  | .invalid word arguments =>
    .invalid (word.map (Substitution.parameters mapping))
      (arguments.map (Substitution.parameters mapping))

theorem expandsTo_expanded (mapping : Dictionary Text) (s : Statement) :
    s.ExpandsTo mapping (s.expanded mapping) := by
  cases s with
  | block kind closes arguments => cases closes <;> exact ⟨rfl, rfl, rfl, rfl, rfl⟩
  | assignment name expression => exact ⟨rfl, rfl, rfl, rfl, rfl⟩
  | call invocation => exact ⟨rfl, rfl, rfl, rfl, rfl⟩
  | command primitive arguments => exact ⟨rfl, rfl, rfl, rfl, rfl⟩
  | invalid word arguments => exact ⟨rfl, rfl, rfl, rfl, rfl⟩

theorem expanded_ofKeyword (mapping : Dictionary Text) (arguments : List Text)
    (keyword : Keyword) :
    (ofKeyword arguments keyword).expanded mapping =
      ofKeyword (arguments.map (Substitution.parameters mapping)) keyword := by
  cases keyword <;> rfl

end Statement

/-! ### Names that stand for names -/

namespace Substitution

/-- Names stand for names. -/
structure Renaming (mapping : Dictionary Text) : Prop where
  name : ∀ name value, mapping.get? name = some value → isName name = true
  value : ∀ name value, mapping.get? name = some value → isName value = true

/-- No reserved word is replaced and none is put in. -/
structure Unreserved (mapping : Dictionary Text) : Prop where
  name : ∀ name value, mapping.get? name = some value → isReserved name = false
  value : ∀ name value, mapping.get? name = some value → isReserved value = false

variable {mapping : Dictionary Text}

theorem isRunChar_of_mem_name {name : Text} (named : isName name = true) :
    ∀ c ∈ name, isRunChar c = true :=
  fun c member => isRunChar_of_isLetter ((isName_iff.mp named).2.1 c member)

theorem passable_of_isName {name : Text} (named : isName name = true) : name.Passable := by
  have inRun := isRunChar_of_mem_name named
  constructor
  · exact (isName_iff.mp named).1
  · intro c member
    by_contra separates
    apply notMem_of_isRunChar inRun _ member
    exact isRunChar_of_not_isItemChar (by simpa using separates)
  · intro c member
    by_contra encloses
    apply notMem_of_isRunChar inRun _ member
    exact isRunChar_of_isParenthesis (by simpa using encloses)

theorem Renaming.passing (renames : Renaming mapping) : Passing mapping where
  name := renames.name
  value name value found := passable_of_isName (renames.value name value found)

theorem Renaming.visible (renames : Renaming mapping) : VisibleValues mapping :=
  renames.passing.visible

theorem Renaming.unreserved (renames : Renaming mapping) : Unreserved mapping where
  name name value found := (isName_iff.mp (renames.name name value found)).2.2
  value name value found := (isName_iff.mp (renames.value name value found)).2.2

/-- No character outside of every run stands in a value. -/
theorem Renaming.foreign (renames : Renaming mapping) {c : Char} (out : isRunChar c = false) :
    ∀ name value, mapping.get? name = some value → value ≠ [] ∧ c ∉ value := by
  intro name value found
  have named := renames.value name value found
  exact ⟨(isName_iff.mp named).1, notMem_of_isRunChar (isRunChar_of_mem_name named) out⟩

/-- A text is a name exactly when what it becomes is one. -/
theorem isName_parameters (renames : Renaming mapping) (t : Text) :
    isName (parameters mapping t) = isName t := by
  apply unchanged_parameters false
  · intro name value found
    rw [renames.value name value found, renames.name name value found]
  · rintro t ⟨d, member, out⟩
    by_contra named
    exact notMem_of_isRunChar (isRunChar_of_mem_name (by simpa using named)) out member

/-- No word becomes a keyword, stops being one or turns into another. -/
theorem ofWord?_parameters_eq (unreserved : Unreserved mapping) (t : Text) :
    Keyword.ofWord? (parameters mapping t) = Keyword.ofWord? t := by
  apply unchanged_parameters none
  · intro name value found
    have free := unreserved.name name value found
    have free' := unreserved.value name value found
    simp only [isReserved, Option.isSome_eq_false_iff, Option.isNone_iff_eq_none] at free free'
    rw [free, free']
  · exact fun t => ofWord?_of_outside

/-- A character that belongs to no run and stands in no value occurs as often as before. -/
theorem count_parameters {c : Char} (out : isRunChar c = false)
    (foreign : ∀ name value, mapping.get? name = some value → value ≠ [] ∧ c ∉ value) (t : Text) :
    (parameters mapping t).count c = t.count c := by
  induction t using Text.run_induction isRunChar with
  | nil => rfl
  | outside d rest out' ih => rw [parameters_cons_of_not out', List.count_cons, List.count_cons, ih]
  | run front rest nonempty inside ends ih =>
    have absent : c ∉ front := notMem_of_isRunChar inside out
    have absent' : c ∉ replacement mapping front := by
      rcases replacement_cases mapping front with same | ⟨value, found, same⟩
      · rwa [same]
      · rw [same]
        exact (foreign front value found).2
    rw [parameters_append nonempty inside ends, List.count_append, List.count_append, ih,
      List.count_eq_zero.mpr absent, List.count_eq_zero.mpr absent']

/-! ### Assignments -/

theorem dropFinalNewline_parameters (visible : VisibleValues mapping) (t : Text) :
    Text.dropFinalNewline (parameters mapping t) =
      parameters mapping (Text.dropFinalNewline t) := by
  induction t using Text.run_induction isRunChar with
  | nil => rfl
  | outside c rest out ih =>
    rw [parameters_cons_of_not out]
    by_cases final : c = '\n' ∧ rest = []
    · obtain ⟨rfl, rfl⟩ := final
      rfl
    · have goesOn {t : Text} (same : t = [] ↔ rest = []) :
          Text.dropFinalNewline (c :: t) = c :: Text.dropFinalNewline t := by
        rw [Text.dropFinalNewline]
        rintro rfl rfl
        exact final ⟨rfl, same.mp rfl⟩
      rw [goesOn (parameters_eq_nil_iff visible), ih, goesOn Iff.rfl,
        parameters_cons_of_not out]
  | run front rest nonempty inside ends ih =>
    -- Neither the run nor what stands for it has a line feed to drop.
    have unbroken : '\n' ∉ front := notMem_of_isRunChar inside rfl
    have unbroken' : '\n' ∉ replacement mapping front := by
      intro member
      have shown := Text.isVisible_iff.mp (isVisible_replacement visible nonempty inside)
      exact absurd (shown.2 '\n' member) (by decide)
    have ends' : ∀ c, (Text.dropFinalNewline rest).head? = some c → isRunChar c = false :=
      fun c first => ends c (Text.head?_dropFinalNewline first)
    rw [parameters_append nonempty inside ends, Text.dropFinalNewline_append_of_notMem unbroken',
      Text.dropFinalNewline_append_of_notMem unbroken, ih,
      parameters_append nonempty inside ends']

theorem isRunChar_of_not_isTargetChar {c : Char} (ends : Statement.isTargetChar c = false) :
    isRunChar c = false := by
  by_contra inRun
  have shown := isBlank_of_isRunChar (by simpa using inRun)
  have equals : c = '=' := by simpa [Statement.isTargetChar, shown] using ends
  subst equals
  exact inRun rfl

end Substitution

namespace Statement

open Substitution

variable {mapping : Dictionary Text}

/-- The two sides of an assignment are expanded on their own. -/
theorem sides?_parameters (renames : Renaming mapping) (t : Text) :
    sides? (parameters mapping t) =
      (sides? t).map (Prod.map (parameters mapping) (parameters mapping)) := by
  have values : ∀ name value, mapping.get? name = some value →
      ∀ c ∈ value, isTargetChar c = true := by
    intro name value found c member
    by_contra ends
    have out := isRunChar_of_not_isTargetChar (by simpa using ends)
    exact (renames.foreign out name value found).2 member
  obtain ⟨target, behind⟩ := span_parameters isTargetChar
    (fun c => isRunChar_of_not_isTargetChar) values t
  have empty (t : Text) : (parameters mapping t).isEmpty = t.isEmpty := by
    rw [Bool.eq_iff_iff, List.isEmpty_iff, List.isEmpty_iff, parameters_eq_nil_iff renames.visible]
  have broken (t : Text) : (parameters mapping t).contains '\n' = t.contains '\n' := by
    have occurs := count_parameters rfl (renames.foreign (c := '\n') rfl) t
    rw [Bool.eq_iff_iff, List.contains_iff_mem, List.contains_iff_mem, ← List.count_pos_iff,
      ← List.count_pos_iff, occurs]
  simp only [sides?, target, behind, empty, trimStart_parameters renames.visible]
  split
  · rfl
  · by_cases equals : ∃ rest, Text.trimStart (t.dropWhile isTargetChar) = '=' :: rest
    · obtain ⟨rest, equals⟩ := equals
      simp only [equals, parameters_cons_of_not (c := '=') rfl,
        trimStart_parameters renames.visible, dropFinalNewline_parameters renames.visible, broken]
      split <;> rfl
    · -- An equals sign in front of what follows would have stood there before.
      split
      next rest shown =>
        obtain ⟨source, own, _⟩ := parameters_eq_cons rfl (renames.foreign rfl) shown
        exact absurd ⟨source, own⟩ equals
      · split
        next rest own => exact absurd ⟨rest, own⟩ equals
        · rfl

theorem isAssignment_parameters (renames : Renaming mapping) (t : Text) :
    isAssignment (parameters mapping t) = isAssignment t := by
  rw [isAssignment, isAssignment, count_parameters rfl (renames.foreign rfl),
    sides?_parameters renames, Option.any_map]
  congr 2
  funext sides
  exact isName_parameters renames sides.1

end Statement

/-! ### Calls -/

namespace Substitution

variable {mapping : Dictionary Text}

/-- Parentheses around a text are around the expanded text. -/
theorem parenthesised?_expanded (passing : Passing mapping) {t inner : Text}
    (enclosed : parenthesised? t = some inner) :
    parenthesised? (parameters mapping t) = some (parameters mapping inner) := by
  obtain ⟨bare, tail, ends, rfl⟩ := parenthesised?_eq_some_iff.mp enclosed
  have closed : parameters mapping (inner ++ ')' :: tail) =
      parameters mapping inner ++ ')' :: parameters mapping tail := by
    rw [parameters_append_of_outside, parameters_cons_of_not rfl]
    rintro _ ⟨⟩
    rfl
  have kept : parameters mapping tail = tail := by
    rcases ends with rfl | rfl <;> rfl
  rw [parameters_cons_of_not rfl, closed, kept]
  refine parenthesised?_eq_some_iff.mpr ⟨?_, tail, ends, rfl⟩
  exact forall_mem_parameters (fun name value found => (passing.value name value found).bare) bare

end Substitution

namespace Call

open Substitution

variable {mapping : Dictionary Text} {t : Text} {invocation : Call}

/-- A call stays a call when names are replaced by names. -/
theorem parse?_expanded (renames : Renaming mapping) (parsed : parse? t = some invocation) :
    parse? (parameters mapping t) = some (invocation.expanded mapping) := by
  obtain ⟨name, nonempty, free, inner, enclosed, listed⟩ := parse?_eq_some_iff.mp parsed
  obtain ⟨blanks, rest, shape, letters, blank⟩ := shape_of_parse? parsed
  -- A blank or a parenthesis follows the name, so the two are expanded apart.
  have apart : ∀ c, (blanks ++ '(' :: rest).head? = some c → isRunChar c = false := by
    apply Text.head?_gap_append blank fun c => isRunChar_of_isBlank
    rintro _ ⟨⟩
    rfl
  have named : isName (parameters mapping invocation.name) = true := by
    rw [isName_parameters renames]
    exact isName_iff.mpr ⟨nonempty, letters, free⟩
  obtain ⟨nonempty', letters', free'⟩ := isName_iff.mp named
  have cut := Text.span_append letters fun c first => isLetter_of_not_isRunChar (apart c first)
  have ends' : ∀ c, (parameters mapping (blanks ++ '(' :: rest)).head? = some c →
      Text.isLetter c = false := by
    rw [head?_parameters_of_outside apart]
    exact fun c first => isLetter_of_not_isRunChar (apart c first)
  have cut' := Text.span_append letters' ends'
  rw [shape, cut.2] at enclosed
  rw [shape, parameters_append_of_outside _ apart]
  refine parse?_eq_some_iff.mpr ⟨cut'.1.symm, nonempty', free', parameters mapping inner, ?_, ?_⟩
  · rw [cut'.2, trimStart_parameters renames.visible]
    exact parenthesised?_expanded renames.passing enclosed
  · rw [items_parameters renames.passing, ← listed]
    rfl

theorem parse?_parameters (renames : Renaming mapping) (t : Text) :
    parse? (parameters mapping t) = (parse? t).map (expanded mapping) := by
  cases parsed : parse? t with
  | some invocation => exact parse?_expanded renames parsed
  | none =>
    cases parsed' : parse? (parameters mapping t) with
    | none => rfl
    | some invocation =>
      obtain ⟨source, earlier, _⟩ := parse?_of_parameters renames.passing parsed'
      rw [parsed] at earlier
      cases earlier

end Call

/-! ### Lines -/

namespace Statement

open Substitution

variable {mapping : Dictionary Text}

theorem ofPlainLine_parameters (renames : Renaming mapping) (t word : Text)
    (keyword : Option Keyword) (arguments : List Text) :
    ofPlainLine (parameters mapping t) keyword (parameters mapping word)
        (arguments.map (parameters mapping)) =
      (ofPlainLine t keyword word arguments).map (expanded mapping) := by
  simp only [ofPlainLine, trim_parameters renames.visible, isAssignment_parameters renames,
    sides?_parameters renames, Call.parse?_parameters renames]
  split
  · cases sides? t with
    | none => rfl
    | some sides =>
      simp only [Option.map_some, Prod.map, trim_parameters renames.visible]
      rfl
  · cases Call.parse? (Text.trim t) with
    | some invocation => rfl
    | none =>
      cases keyword with
      | none => rfl
      | some keyword => cases keyword <;> rfl

/-- Replacing names by names commutes with the classification of lines. -/
theorem classify_parameters (renames : Renaming mapping) (t : Text) :
    classify (parameters mapping t) = (classify t).map (expanded mapping) := by
  simp only [classify, words_parameters renames.visible]
  cases Text.words t with
  | nil => rfl
  | cons word arguments =>
    simp only [List.map_cons, ofWord?_parameters_eq renames.unreserved]
    cases Keyword.ofWord? word with
    | none => exact ofPlainLine_parameters renames t word none arguments
    | some keyword =>
      cases keyword with
      | opening kind => rfl
      | closing kind => rfl
      | command primitive => exact ofPlainLine_parameters renames t word _ arguments

/-- The first word of an assignment is no keyword: it is the target, or it has an equals sign. -/
theorem words_of_isAssignment {t : Text} (assigns : isAssignment t = true) :
    ∃ word arguments, Text.words t = word :: arguments ∧ Keyword.ofWord? word = none := by
  rw [isAssignment, Bool.and_eq_true, Option.any_eq_true] at assigns
  obtain ⟨_, ⟨target, expression⟩, cut, named⟩ := assigns
  obtain ⟨nonempty, letters, free⟩ := isName_iff.mp named
  obtain ⟨rfl, _⟩ := sides?_eq_some cut
  obtain ⟨target, rest, shape, inside, ends⟩ := Text.split_front isTargetChar t
  obtain ⟨taken, _⟩ := Text.span_append inside ends
  rw [← shape] at taken
  rw [taken] at nonempty letters free
  have visible : Text.isVisible target = true := by
    refine Text.isVisible_iff.mpr ⟨nonempty, fun c member => ?_⟩
    exact isBlank_of_isRunChar (isRunChar_of_isLetter (letters c member))
  rw [shape]
  by_cases blank : ∀ c, rest.head? = some c → Text.isBlank c = true
  · refine ⟨target, _, Text.words_append visible blank, ?_⟩
    simpa [isReserved] using free
  · simp only [not_forall] at blank
    obtain ⟨c, first, shown⟩ := blank
    obtain ⟨more, later, cut, goesOn⟩ := Text.words_of_front visible rest
    have member := goesOn c first (by simpa using shown)
    refine ⟨_, _, cut, ofWord?_of_outside ⟨c, List.mem_append_right _ member, ?_⟩⟩
    exact isRunChar_of_not_isTargetChar (ends c first)

/-- What starts with a keyword is no assignment. -/
theorem isAssignment_of_spelled {t word : Text} {arguments : List Text} {keyword : Keyword}
    (cut : Text.words t = word :: arguments) (found : Keyword.ofWord? word = some keyword) :
    isAssignment t = false := by
  by_contra assigns
  obtain ⟨word', _, cut', free⟩ := words_of_isAssignment (by simpa using assigns)
  rw [cut] at cut'
  cases cut'
  rw [found] at free
  cases free

/-- What starts with a keyword is no call. -/
theorem parse?_of_spelled {t word : Text} {arguments : List Text} {keyword : Keyword}
    (cut : Text.words t = word :: arguments) (found : Keyword.ofWord? word = some keyword) :
    Call.parse? t = none := by
  rw [Option.eq_none_iff_forall_ne_some]
  intro invocation parsed
  obtain ⟨word', _, cut', free⟩ := words_of_parse? parsed
  rw [cut] at cut'
  cases cut'
  rw [found] at free
  cases free

/-- A trimmed line that starts with a keyword is a block line or a drawing command. -/
theorem classify_of_spelled {t word : Text} {arguments : List Text} {keyword : Keyword}
    (trimmed : Text.trim t = t) (cut : Text.words t = word :: arguments)
    (found : Keyword.ofWord? word = some keyword) :
    classify t = .ok (ofKeyword arguments keyword) := by
  cases keyword with
  | opening kind => simp [classify, cut, found, ofKeyword]
  | closing kind => simp [classify, cut, found, ofKeyword]
  | command primitive =>
    simp [classify, cut, found, ofPlainLine, trimmed, isAssignment_of_spelled cut found,
      parse?_of_spelled cut found, ofKeyword]

/-- A line that starts with no keyword is neither a block line nor a drawing command. -/
theorem keyword?_of_wordless {line : Line} {s : Statement} (wordless : line.keyword? = none)
    (read : classify line.text = .ok s) : s.keyword? = none := by
  have words : line.words = Text.words line.text := rfl
  rcases classify_cases read with ⟨_, rfl⟩ | ⟨word, arguments, cut, found⟩
  · rfl
  · simp only [Line.keyword?, words, cut, List.head?_cons, Option.bind_some] at wordless
    rcases found with ⟨_, opening, _⟩ | ⟨_, closing, _⟩ | ⟨_, plain⟩
    · rw [wordless] at opening
      cases opening
    · rw [wordless] at closing
      cases closing
    · rw [wordless] at plain
      rcases ofPlainLine_cases plain with ⟨_, _, _, _, rfl⟩ | ⟨_, _, rfl⟩ | ⟨_, command, _⟩ | rfl
      · rfl
      · rfl
      · cases command
      · rfl

end Statement

namespace Line

open Substitution Statement

variable {mapping : Dictionary Text} {line : Line}

/-- The two lines start with the same keyword, or neither starts with one, and so do the
statements that they are classified as.  If they do, the second statement is the first one with the
parameters replaced. -/
structure KeepsCommand (mapping : Dictionary Text) (line line' : Line) : Prop where
  keyword : line'.keyword? = line.keyword?
  statements : ∃ s s', classify line.text = .ok s ∧ classify line'.text = .ok s' ∧
    s.keyword? = line.keyword? ∧ s'.keyword? = line.keyword? ∧
    (line.keyword? ≠ none → s.ExpandsTo mapping s')

theorem keyword?_of_unreserved (visible : VisibleValues mapping) (unreserved : Unreserved mapping)
    (line site : Line) : (line.expanded mapping site).keyword? = line.keyword? := by
  rw [keyword?, keyword?, words_expanded visible]
  cases line.words with
  | nil => rfl
  | cons word arguments => exact ofWord?_parameters_eq unreserved word

theorem keepsCommand_expanded (visible : VisibleValues mapping)
    (unreserved : Unreserved mapping) (trimmed : Text.trim line.text = line.text) (site : Line) :
    line.KeepsCommand mapping (line.expanded mapping site) := by
  have same := keyword?_of_unreserved visible unreserved line site
  have trimmed' : Text.trim (line.expanded mapping site).text = (line.expanded mapping site).text :=
    by rw [expanded, trim_parameters visible, trimmed]
  refine ⟨same, ?_⟩
  cases found : line.keyword? with
  | none =>
    obtain ⟨s, read⟩ := classify_of_trimmed trimmed
    obtain ⟨s', read'⟩ := classify_of_trimmed trimmed'
    refine ⟨s, s', read, read', keyword?_of_wordless found read, ?_, absurd rfl⟩
    exact keyword?_of_wordless (same.trans found) read'
  | some keyword =>
    obtain ⟨word, first, spelled⟩ := Option.bind_eq_some_iff.mp found
    obtain ⟨arguments, cut⟩ := List.head?_eq_some_iff.mp first
    have cut' := words_expanded visible line site
    rw [cut, List.map_cons] at cut'
    have spelled' := (ofWord?_parameters_eq unreserved word).trans spelled
    have read := classify_of_spelled trimmed cut spelled
    have read' := classify_of_spelled trimmed' cut' spelled'
    refine ⟨_, _, read, read', keyword?_ofKeyword .., keyword?_ofKeyword .., fun _ => ?_⟩
    rw [← expanded_ofKeyword]
    exact expandsTo_expanded mapping _

end Line

namespace Method

open Substitution

variable {method : Method} {arguments : List Text}

theorem unreserved_binding (free : ∀ p ∈ method.parameters, isReserved p = false)
    (free' : ∀ a ∈ arguments, isReserved a = false) :
    Unreserved (method.binding arguments) where
  name _ _ found := free _ (List.of_mem_zip (mem_zip_of_binding found)).1
  value _ _ found := free' _ (List.of_mem_zip (mem_zip_of_binding found)).2

/-- The lines of an expansion, at a call or in place, are those of the body with the parameters
replaced. -/
theorem exists_site_of_expand (visible : ∀ a ∈ arguments, a.isVisible = true)
    (trimmed : ∀ line ∈ method.body, Text.trim line.text = line.text) {site : Option Line}
    {lines : List Line} (expanded : method.expand arguments site = .ok lines) :
    ∃ place : Line → Line, lines = method.body.map fun line =>
      line.expanded (method.binding arguments) (place line) := by
  unfold expand at expanded
  split at expanded
  · cases site with
    | some call =>
      cases expanded
      exact ⟨fun _ => call, rfl⟩
    | none =>
      cases expanded
      refine ⟨id, List.map_congr_left fun line member => ?_⟩
      rw [Line.withText, trim_parameters (visibleValues_binding visible), trimmed line member]
      rfl
  · cases expanded

end Method

namespace Statement

open Substitution

/-- When names are put in for names, a trimmed line is classified as what it was, with the same
keyword and on the same side of a block, and its name and its arguments are the old ones with the
names replaced in them.

When other texts without blanks are put in, and neither they nor the parameters are reserved words,
a trimmed line starts with a keyword exactly if it did, and with the same one; block lines and
drawing commands are then classified as before, their arguments replaced, and no other line becomes
one of them.  So an expansion of a method has the block lines and the drawing commands of its body,
in their places. -/
theorem expansion_keeps_statements :
    (∀ (mapping : Dictionary Text) (t : Text), Renaming mapping → Text.trim t = t →
      ∃ s s', classify t = .ok s ∧ classify (parameters mapping t) = .ok s' ∧
        s.ExpandsTo mapping s') ∧
    (∀ (mapping : Dictionary Text) (line site : Line), VisibleValues mapping →
      Unreserved mapping → Text.trim line.text = line.text →
      line.KeepsCommand mapping (line.expanded mapping site)) ∧
    ∀ (method : Method) (arguments : List Text) (site : Option Line) (lines : List Line),
      (∀ p ∈ method.parameters, isReserved p = false) →
      (∀ a ∈ arguments, a.isVisible = true ∧ isReserved a = false) →
      (∀ line ∈ method.body, Text.trim line.text = line.text) →
      method.expand arguments site = .ok lines →
      List.Forall₂ (Line.KeepsCommand (method.binding arguments)) method.body lines := by
  refine ⟨?_, ?_, ?_⟩
  · intro mapping t renames trimmed
    obtain ⟨s, read⟩ := classify_of_trimmed trimmed
    refine ⟨s, s.expanded mapping, read, ?_, expandsTo_expanded mapping s⟩
    rw [classify_parameters renames, read]
    rfl
  · intro mapping line site visible unreserved trimmed
    exact Line.keepsCommand_expanded visible unreserved trimmed site
  · intro method arguments site lines free passed trimmed expanded
    have visible : ∀ a ∈ arguments, a.isVisible = true := fun a member => (passed a member).1
    obtain ⟨place, rfl⟩ := Method.exists_site_of_expand visible trimmed expanded
    rw [List.forall₂_map_right_iff, List.forall₂_same]
    intro line member
    apply Line.keepsCommand_expanded (Method.visibleValues_binding visible)
    · exact Method.unreserved_binding free fun a member => (passed a member).2
    · exact trimmed line member

/-- A name next to an accented letter is replaced as well.  What is put into the header of a loop
need not be a name, and the loop stays a loop. -/
theorem expansion_keeps_statements_of_loop :
    let names : Dictionary Text := ⟨[("x".toList, "side".toList)]⟩
    let method : Method := ⟨"m".toList, ["x".toList], [⟨"loop x".toList, 7, none⟩]⟩
    let lines : List Line := [⟨"loop 5-a".toList, 7, none⟩]
    (∃ s s', Statement.classify "x = x1+éx".toList = .ok s ∧
      Statement.classify "side = x1+éside".toList = .ok s' ∧ s.ExpandsTo names s') ∧
    Line.KeepsCommand ⟨[("x".toList, "5-a".toList)]⟩ ⟨"loop x".toList, 7, none⟩
      ⟨"loop 5-a".toList, 9, none⟩ ∧
    method.expand ["5-a".toList] none = .ok lines ∧
    List.Forall₂ (Line.KeepsCommand (method.binding ["5-a".toList])) method.body lines := by
  intro names method lines
  have expanded : method.expand ["5-a".toList] none = .ok lines := rfl
  obtain ⟨renamed, put, called⟩ := expansion_keeps_statements
  refine ⟨renamed names _ ?_ (by decide), put _ ⟨"loop x".toList, 7, none⟩ ⟨[], 9, none⟩ ?_ ?_
    (by decide), expanded, called method _ none lines (by decide) (by decide) (by decide) expanded⟩
  · constructor
    all_goals
      intro name value found
      cases List.mem_singleton.mp (Dictionary.mem_of_get? found)
      decide
  · intro name value found
    cases List.mem_singleton.mp (Dictionary.mem_of_get? found)
    decide
  · constructor
    all_goals
      intro name value found
      cases List.mem_singleton.mp (Dictionary.mem_of_get? found)
      decide

/-- A reserved word in the place of a parameter would be replaced like one, and the line would lose
its keyword. -/
theorem keyword_lost_to_reserved_parameter :
    let mapping : Dictionary Text := ⟨[("loop".toList, "foo".toList)]⟩
    let line : Line := ⟨"loop 3".toList, 1, none⟩
    (∀ name value, mapping.get? name = some value →
      value.Passable ∧ isReserved value = false) ∧
    Text.trim line.text = line.text ∧ line.keyword? = some (.opening .loop) ∧
    (line.expanded mapping line).keyword? = none := by
  intro mapping line
  refine ⟨?_, by decide, by decide, by decide⟩
  intro name value found
  cases List.mem_singleton.mp (Dictionary.mem_of_get? found)
  exact ⟨passable_of_isName (by decide), by decide⟩

end Statement

end Plotter
