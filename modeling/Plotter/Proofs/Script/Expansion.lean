import Plotter.Proofs.Script.Line
import Plotter.Proofs.Script.Signature
import Plotter.Proofs.Text.LowerCase
import Plotter.Script.Method

/-!
# The lines of a call

A call replaces the parameters of a method in the text of its lines.  What is put in is visible,
a nonempty text without blanks, so the words of a line keep their places: a trimmed line stays
trimmed, and its first word either is replaced as a whole or keeps a character that stands in no
keyword.  An expansion can therefore make or unmake a block line only where the first word of a
line is a parameter.
-/

namespace Plotter

namespace Substitution

/-- Every value is visible. -/
def VisibleValues (mapping : Dictionary Text) : Prop :=
  ∀ name value, mapping.get? name = some value → value.isVisible = true

variable {mapping : Dictionary Text}

theorem isRunChar_of_isLetter {c : Char} (letter : Text.isLetter c = true) :
    isRunChar c = true := by
  simp [isRunChar, letter]

theorem isBlank_of_isRunChar {c : Char} (inRun : isRunChar c = true) : Text.isBlank c = false := by
  by_cases underscore : c = '_'
  · subst underscore
    decide
  · have codes : ((97 ≤ c.toNat ∧ c.toNat ≤ 122) ∨ 65 ≤ c.toNat ∧ c.toNat ≤ 90) ∨
        48 ≤ c.toNat ∧ c.toNat ≤ 57 := by
      simpa [isRunChar, Text.isLetter, underscore] using inRun
    simp only [Text.isBlank, Bool.or_eq_false_iff, Bool.and_eq_false_iff, decide_eq_false_iff_not,
      beq_eq_false_iff_ne]
    omega

theorem isLetter_of_not_isRunChar {c : Char} (outside : isRunChar c = false) :
    Text.isLetter c = false := by
  by_contra letter
  simp [isRunChar_of_isLetter (by simpa using letter)] at outside

theorem isRunChar_of_isBlank {c : Char} (blank : Text.isBlank c = true) : isRunChar c = false := by
  by_contra inRun
  simp [isBlank_of_isRunChar (by simpa using inRun)] at blank

theorem notMem_of_isRunChar {t : Text} {c : Char} (inside : ∀ d ∈ t, isRunChar d = true)
    (outside : isRunChar c = false) : c ∉ t := by
  intro member
  rw [inside c member] at outside
  cases outside

@[simp] theorem parameters_nil : parameters mapping [] = [] := rfl

theorem parameters_cons_of_not {c : Char} (outside : isRunChar c = false) (t : Text) :
    parameters mapping (c :: t) = c :: parameters mapping t := by
  simp [parameters, Text.pieces_cons_of_not outside, replacement,
    isLetter_of_not_isRunChar outside]

theorem parameters_append {run rest : Text} (nonempty : run ≠ [])
    (inside : ∀ c ∈ run, isRunChar c = true)
    (ends : ∀ c, rest.head? = some c → isRunChar c = false) :
    parameters mapping (run ++ rest) = replacement mapping run ++ parameters mapping rest := by
  simp [parameters, Text.pieces_append nonempty inside ends]

theorem parameters_run {run : Text} (nonempty : run ≠ [])
    (inside : ∀ c ∈ run, isRunChar c = true) :
    parameters mapping run = replacement mapping run := by
  have whole : parameters mapping (run ++ []) = replacement mapping run ++ parameters mapping [] :=
    parameters_append nonempty inside (by simp)
  rwa [List.append_nil, parameters_nil, List.append_nil] at whole

/-- A run stays as it is, or it is a name and its value is put in. -/
theorem replacement_cases (mapping : Dictionary Text) (run : Text) :
    replacement mapping run = run ∨
      ∃ value, mapping.get? run = some value ∧ replacement mapping run = value := by
  unfold replacement
  split
  · cases found : mapping.get? run with
    | none => exact Or.inl rfl
    | some value => exact Or.inr ⟨value, rfl, rfl⟩
  · exact Or.inl rfl

/-- A run is replaced by something visible. -/
theorem isVisible_replacement (visible : VisibleValues mapping) {run : Text} (nonempty : run ≠ [])
    (inside : ∀ c ∈ run, isRunChar c = true) : (replacement mapping run).isVisible = true := by
  rcases replacement_cases mapping run with same | ⟨value, found, same⟩
  · rw [same]
    exact Text.isVisible_iff.mpr ⟨nonempty, fun c member => isBlank_of_isRunChar (inside c member)⟩
  · rw [same]
    exact visible run value found

/-! ### Texts that are cut -/

/-- A text may be cut before any character that belongs to no run. -/
theorem parameters_append_of_outside (front : Text) {rest : Text}
    (ends : ∀ c, rest.head? = some c → isRunChar c = false) :
    parameters mapping (front ++ rest) = parameters mapping front ++ parameters mapping rest := by
  simp only [parameters, Text.pieces_append_of_outside front ends, List.flatMap_append]

/-- A character that belongs to no run stays in front. -/
theorem head?_parameters_of_outside {t : Text}
    (outside : ∀ c, t.head? = some c → isRunChar c = false) :
    (parameters mapping t).head? = t.head? := by
  cases t with
  | nil => rfl
  | cons c rest => rw [parameters_cons_of_not (outside c rfl), List.head?_cons, List.head?_cons]

/-- Every character comes from the text or from a value. -/
theorem forall_mem_parameters {P : Char → Prop} {t : Text}
    (values : ∀ name value, mapping.get? name = some value → ∀ c ∈ value, P c)
    (own : ∀ c ∈ t, P c) : ∀ c ∈ parameters mapping t, P c := by
  induction t using Text.run_induction isRunChar with
  | nil => simp
  | outside c rest out ih =>
    rw [parameters_cons_of_not out, List.forall_mem_cons] at *
    exact ⟨own.1, ih own.2⟩
  | run front rest nonempty inside ends ih =>
    rw [parameters_append nonempty inside ends]
    rw [List.forall_mem_append] at own ⊢
    refine ⟨?_, ih own.2⟩
    rcases replacement_cases mapping front with same | ⟨value, found, same⟩
    · rw [same]
      exact own.1
    · rw [same]
      exact values front value found

theorem parameters_eq_nil_iff (visible : VisibleValues mapping) {t : Text} :
    parameters mapping t = [] ↔ t = [] := by
  constructor
  · intro empty
    induction t using Text.run_induction isRunChar with
    | nil => rfl
    | outside c rest out _ => simp [parameters_cons_of_not out] at empty
    | run front rest nonempty inside ends _ =>
      rw [parameters_append nonempty inside ends, List.append_eq_nil_iff] at empty
      exact absurd empty.1 (Text.isVisible_iff.mp (isVisible_replacement visible nonempty inside)).1
  · rintro rfl
    rfl

/-- What separates runs of a wider class stays where it is, so these runs are expanded one by
one. -/
theorem runs_parameters (visible : VisibleValues mapping) (inClass : Char → Bool)
    (stops : ∀ c, inClass c = false → isRunChar c = false)
    (values : ∀ name value, mapping.get? name = some value → ∀ c ∈ value, inClass c = true)
    (t : Text) :
    Text.runs inClass (parameters mapping t) =
      (Text.runs inClass t).map (parameters mapping) := by
  induction t using Text.run_induction inClass with
  | nil => rfl
  | outside c rest out ih =>
    rw [parameters_cons_of_not (stops c out), Text.runs_cons_of_not out,
      Text.runs_cons_of_not out, ih]
  | run front rest nonempty inside ends ih =>
    have apart : ∀ c, rest.head? = some c → isRunChar c = false :=
      fun c first => stops c (ends c first)
    have ends' : ∀ c, (parameters mapping rest).head? = some c → inClass c = false := by
      rwa [head?_parameters_of_outside apart]
    have front' : parameters mapping front ≠ [] :=
      fun empty => nonempty ((parameters_eq_nil_iff visible).mp empty)
    have inside' := forall_mem_parameters values inside
    rw [parameters_append_of_outside front apart, Text.runs_append front' inside' ends',
      Text.runs_append nonempty inside ends, ih, List.map_cons]

/-! ### Trimmed texts -/

theorem trimStart_parameters (visible : VisibleValues mapping) (t : Text) :
    Text.trimStart (parameters mapping t) = parameters mapping (Text.trimStart t) := by
  induction t using Text.run_induction isRunChar with
  | nil => rfl
  | outside c rest out ih =>
    by_cases blank : Text.isBlank c = true
    · simpa [parameters_cons_of_not out, Text.trimStart, blank] using ih
    · simp [parameters_cons_of_not out, Text.trimStart, blank]
  | run front rest nonempty inside ends _ =>
    -- Neither the run nor what stands for it has a blank to cut off.
    have kept {word : Text} (shown : word.isVisible = true) (rest : Text) :
        Text.trimStart (word ++ rest) = word ++ rest := by
      obtain ⟨some_, all⟩ := Text.isVisible_iff.mp shown
      obtain ⟨c, word, rfl⟩ := List.exists_cons_of_ne_nil some_
      simp [Text.trimStart, all c (List.mem_cons_self ..)]
    have shown : Text.isVisible front = true :=
      Text.isVisible_iff.mpr ⟨nonempty, fun c member => isBlank_of_isRunChar (inside c member)⟩
    rw [kept shown, parameters_append nonempty inside ends,
      kept (isVisible_replacement visible nonempty inside)]

theorem trimEnd_parameters (visible : VisibleValues mapping) (t : Text) :
    Text.trimEnd (parameters mapping t) = parameters mapping (Text.trimEnd t) := by
  induction t using Text.run_induction isRunChar with
  | nil => rfl
  | outside c rest out ih =>
    rw [parameters_cons_of_not out, Text.trimEnd, Text.trimEnd, ih]
    cases kept : Text.trimEnd rest with
    | nil =>
      by_cases blank : Text.isBlank c = true
      · simp [blank]
      · simp [blank, parameters_cons_of_not out]
    | cons d more => simp [parameters_cons_of_not out, parameters_eq_nil_iff visible]
  | run front rest nonempty inside ends ih =>
    obtain ⟨_, shown⟩ := Text.isVisible_iff.mp (isVisible_replacement visible nonempty inside)
    have ends' : ∀ c, (Text.trimEnd rest).head? = some c → isRunChar c = false :=
      fun c first => ends c (Text.head?_trimEnd first)
    rw [parameters_append nonempty inside ends, Text.trimEnd_append shown, ih,
      Text.trimEnd_append fun c member => isBlank_of_isRunChar (inside c member),
      parameters_append nonempty inside ends']

/-- What is put in is visible, so nothing more is trimmed off than before. -/
theorem trim_parameters (visible : VisibleValues mapping) (t : Text) :
    Text.trim (parameters mapping t) = parameters mapping (Text.trim t) := by
  rw [Text.trim, trimStart_parameters visible, trimEnd_parameters visible, Text.trim]

/-! ### Words -/

theorem words_parameters (visible : VisibleValues mapping) (t : Text) :
    Text.words (parameters mapping t) = (Text.words t).map (parameters mapping) := by
  apply runs_parameters visible
  · intro c blank
    exact isRunChar_of_isBlank (by simpa using blank)
  · intro name value found c member
    simp [(Text.isVisible_iff.mp (visible name value found)).2 c member]

/-- A word is replaced as a whole, or it keeps a character that belongs to no parameter. -/
theorem parameters_word (mapping : Dictionary Text) {word : Text} (nonempty : word ≠ []) :
    parameters mapping word = replacement mapping word ∨
      (∃ d ∈ word, isRunChar d = false) ∧ ∃ d ∈ parameters mapping word, isRunChar d = false := by
  obtain ⟨run, rest, rfl, inside, ends⟩ := Text.split_front isRunChar word
  cases rest with
  | nil =>
    rw [List.append_nil] at nonempty ⊢
    left
    exact parameters_run nonempty inside
  | cons c rest =>
    have out := ends c rfl
    right
    rw [parameters_append_of_outside run ends, parameters_cons_of_not out]
    exact ⟨⟨c, by simp, out⟩, c, by simp, out⟩

/-- What is the same of a parameter and of its value, and of all texts that have a character outside
of every run, is not changed. -/
theorem unchanged_parameters {α : Type} {f : Text → α} (other : α)
    (values : ∀ name value, mapping.get? name = some value → f value = f name)
    (outside : ∀ t : Text, (∃ d ∈ t, isRunChar d = false) → f t = other) (t : Text) :
    f (parameters mapping t) = f t := by
  by_cases empty : t = []
  · rw [empty, parameters_nil]
  · rcases parameters_word mapping empty with whole | ⟨before, after⟩
    · rw [whole]
      rcases replacement_cases mapping t with same | ⟨value, found, same⟩
      · rw [same]
      · rw [same, values t value found]
    · rw [outside t before, outside _ after]

/-- A word with a character that belongs to no run spells no keyword. -/
theorem ofWord?_of_outside {word : Text} (outside : ∃ d ∈ word, isRunChar d = false) :
    Keyword.ofWord? word = none := by
  cases found : Keyword.ofWord? word with
  | none => rfl
  | some keyword =>
    obtain ⟨d, member, out⟩ := outside
    have letters := (Keyword.letters_of_ofWord? found).2
    have inside : ∀ c ∈ word, isRunChar c = true :=
      fun c here => isRunChar_of_isLetter (letters c here)
    exact absurd member (notMem_of_isRunChar inside out)

end Substitution

/-- A line with its parameters replaced. -/
def Line.expanded (mapping : Dictionary Text) (line site : Line) : Line :=
  { site with text := Substitution.parameters mapping line.text }

namespace Line

variable {mapping : Dictionary Text} {line : Line}

theorem tidy_expanded (visible : Substitution.VisibleValues mapping) (tidy : line.Tidy)
    (site : Line) : (line.expanded mapping site).Tidy where
  trimmed := by
    rw [Line.expanded, Substitution.trim_parameters visible, tidy.trimmed]
  nonempty := by
    intro empty
    exact tidy.nonempty ((Substitution.parameters_eq_nil_iff visible).mp empty)

theorem words_expanded (visible : Substitution.VisibleValues mapping) (line site : Line) :
    (line.expanded mapping site).words = line.words.map (Substitution.parameters mapping) :=
  Substitution.words_parameters visible line.text

/-- A line keeps its keyword, or its lack of one, unless its first word is replaced. -/
theorem keyword?_expanded (visible : Substitution.VisibleValues mapping)
    (kept : ∀ word, line.words.head? = some word → mapping.get? word = none) (site : Line) :
    (line.expanded mapping site).keyword? = line.keyword? := by
  rw [keyword?, keyword?, words_expanded visible]
  cases cut : line.words with
  | nil => rfl
  | cons first later =>
    have nonempty : first ≠ [] := (Text.mem_runs (cut ▸ List.mem_cons_self ..)).1
    rw [List.map_cons, List.head?_cons, List.head?_cons, Option.bind_some, Option.bind_some]
    rcases Substitution.parameters_word mapping nonempty with whole | ⟨outside, outside'⟩
    · have same : Substitution.replacement mapping first = first := by
        simp [Substitution.replacement, kept first (by rw [cut]; rfl)]
      rw [whole, same]
    · rw [Substitution.ofWord?_of_outside outside, Substitution.ofWord?_of_outside outside']

end Line

namespace Method

variable {method : Method} {arguments : List Text}

theorem mem_zip_of_binding {name value : Text}
    (found : (method.binding arguments).get? name = some value) :
    (name, value) ∈ method.parameters.zip arguments :=
  Dictionary.mem_of_mem_ofList (Dictionary.mem_of_get? found)

theorem visibleValues_binding (visible : ∀ a ∈ arguments, a.isVisible = true) :
    Substitution.VisibleValues (method.binding arguments) := by
  intro name value found
  exact visible value (List.of_mem_zip (mem_zip_of_binding found)).2

theorem get?_binding_of_notMem {name : Text} (other : name ∉ method.parameters) :
    (method.binding arguments).get? name = none := by
  cases found : (method.binding arguments).get? name with
  | none => rfl
  | some value =>
    exact absurd (List.of_mem_zip (mem_zip_of_binding found)).1 other

/-- The lines of a call are tidy when the lines of the method are. -/
theorem tidy_of_mem_linesAt (tidy : ∀ line ∈ method.body, line.Tidy)
    (visible : ∀ a ∈ arguments, a.isVisible = true) (site : Line) :
    ∀ line ∈ method.linesAt arguments site, line.Tidy := by
  intro line member
  obtain ⟨source, inBody, rfl⟩ := List.mem_map.mp member
  exact Line.tidy_expanded (visibleValues_binding visible) (tidy source inBody) site

end Method

end Plotter
