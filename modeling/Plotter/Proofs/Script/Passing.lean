import Plotter.Proofs.Script.Expansion

/-!
# What a call passes on

The lines of a method can call methods again, with what was passed to the method.  The arguments of
a call hold no parentheses, no commas and no blanks, so a line that is a call once its parameters
are replaced was a call before, and its arguments are the old ones with the parameters replaced in
each.

A keyword therefore comes into the lines of a call in one way only, as an argument of the call
itself: `Line.Withholds` is kept by every expansion that does not put the keyword in.
-/

namespace Plotter

open Signature

namespace Substitution

/-- Names stand for texts that can be passed. -/
structure Passing (mapping : Dictionary Text) : Prop where
  name : ∀ name value, mapping.get? name = some value → isName name = true
  value : ∀ name value, mapping.get? name = some value → value.Passable

variable {mapping : Dictionary Text}

theorem Passing.visible (passing : Passing mapping) : VisibleValues mapping := by
  intro name value found
  have passable := passing.value name value found
  refine Text.isVisible_iff.mpr ⟨passable.nonempty, fun c member => ?_⟩
  have item := passable.item c member
  simp only [isItemChar, Bool.and_eq_true, Bool.not_eq_true'] at item
  exact item.1

theorem isRunChar_of_not_isItemChar {c : Char} (separates : isItemChar c = false) :
    isRunChar c = false := by
  by_contra inRun
  have visible := isBlank_of_isRunChar (by simpa using inRun)
  have comma : c = ',' := by simpa [isItemChar, visible] using separates
  subst comma
  exact inRun rfl

theorem isRunChar_of_isParenthesis {c : Char} (encloses : isParenthesis c = true) :
    isRunChar c = false := by
  simp only [isParenthesis, Bool.or_eq_true, beq_iff_eq] at encloses
  rcases encloses with rfl | rfl <;> rfl

/-! ### Cuts that no value hides -/

/-- A character that belongs to no run and stands in no value comes from the text. -/
theorem parameters_eq_cons {c : Char} (out : isRunChar c = false)
    (foreign : ∀ name value, mapping.get? name = some value → value ≠ [] ∧ c ∉ value)
    {t rest : Text} (expanded : parameters mapping t = c :: rest) :
    ∃ source, t = c :: source ∧ parameters mapping source = rest := by
  obtain ⟨run, source, rfl, inside, ends⟩ := Text.split_front isRunChar t
  by_cases none : run = []
  · subst none
    cases source with
    | nil => simp at expanded
    | cons d source =>
      rw [List.nil_append, parameters_cons_of_not (ends d rfl)] at expanded
      cases expanded
      exact ⟨source, rfl, rfl⟩
  · -- What stands for the run cannot start with the character.
    rw [parameters_append none inside ends] at expanded
    rcases replacement_cases mapping run with same | ⟨value, found, same⟩
    · obtain ⟨d, run, rfl⟩ := List.exists_cons_of_ne_nil none
      rw [same] at expanded
      cases expanded
      simp [inside c (List.mem_cons_self ..)] at out
    · obtain ⟨some_, absent⟩ := foreign run value found
      obtain ⟨d, value, rfl⟩ := List.exists_cons_of_ne_nil some_
      rw [same] at expanded
      cases expanded
      exact absurd (List.mem_cons_self ..) absent

/-- A text may be cut at the first character outside of a class that holds all values and all
runs. -/
theorem span_parameters (inClass : Char → Bool)
    (stops : ∀ c, inClass c = false → isRunChar c = false)
    (values : ∀ name value, mapping.get? name = some value → ∀ c ∈ value, inClass c = true)
    (t : Text) :
    (parameters mapping t).takeWhile inClass = parameters mapping (t.takeWhile inClass) ∧
      (parameters mapping t).dropWhile inClass = parameters mapping (t.dropWhile inClass) := by
  obtain ⟨front, rest, rfl, inside, ends⟩ := Text.split_front inClass t
  obtain ⟨taken, dropped⟩ := Text.span_append inside ends
  have apart : ∀ c, rest.head? = some c → isRunChar c = false :=
    fun c first => stops c (ends c first)
  rw [taken, dropped, parameters_append_of_outside front apart]
  refine Text.span_append (forall_mem_parameters values inside) ?_
  rwa [head?_parameters_of_outside apart]

/-- Separators stay where they are, so the items of a list are expanded one by one. -/
theorem items_parameters (passing : Passing mapping) (t : Text) :
    items (parameters mapping t) = (items t).map (parameters mapping) := by
  apply runs_parameters passing.visible
  · exact fun c => isRunChar_of_not_isItemChar
  · exact fun name value found => (passing.value name value found).item

/-! ### Calls -/

/-- Parentheses around an expanded text are those of the text. -/
theorem parenthesised?_parameters (passing : Passing mapping) {t inner : Text}
    (enclosed : parenthesised? (parameters mapping t) = some inner) :
    ∃ source, parenthesised? t = some source ∧ inner = parameters mapping source := by
  obtain ⟨bare, tail, ends, shape⟩ := parenthesised?_eq_some_iff.mp enclosed
  have foreign : ∀ c, isItemChar c = false ∨ isParenthesis c = true →
      ∀ name value, mapping.get? name = some value → value ≠ [] ∧ c ∉ value := by
    intro c special name value found
    have passable := passing.value name value found
    refine ⟨passable.nonempty, fun member => ?_⟩
    simp [passable.item c member, passable.bare c member] at special
  obtain ⟨rest, rfl, expanded⟩ := parameters_eq_cons rfl (foreign '(' (Or.inr rfl)) shape
  -- The text up to the closing parenthesis is expanded on its own.
  have values : ∀ name value, mapping.get? name = some value →
      ∀ c ∈ value, (!isParenthesis c) = true :=
    fun name value found c member => by simp [(passing.value name value found).bare c member]
  obtain ⟨taken, dropped⟩ := span_parameters (fun c => !isParenthesis c)
    (fun c encloses => isRunChar_of_isParenthesis (by simpa using encloses)) values rest
  obtain ⟨taken', dropped'⟩ := span_closing bare tail
  rw [expanded, taken'] at taken
  rw [expanded, dropped'] at dropped
  obtain ⟨final, closed, rfl⟩ := parameters_eq_cons rfl (foreign ')' (Or.inr rfl)) dropped.symm
  have short : final = [] ∨ final = ['\n'] := by
    rcases ends with empty | feed
    · exact Or.inl ((parameters_eq_nil_iff passing.visible).mp empty)
    · obtain ⟨more, rfl, empty⟩ := parameters_eq_cons rfl (foreign '\n' (Or.inl rfl)) feed
      rw [(parameters_eq_nil_iff passing.visible).mp empty]
      exact Or.inr rfl
  refine ⟨_, parenthesised?_eq_some_iff.mpr ⟨fun c member => ?_, final, short, ?_⟩, taken⟩
  · simpa using List.mem_takeWhile_imp member
  · rw [← closed, List.takeWhile_append_dropWhile]

theorem bare_replacement (passing : Passing mapping) {run : Text}
    (inside : ∀ c ∈ run, isRunChar c = true) :
    ∀ c ∈ replacement mapping run, isParenthesis c = false := by
  intro c member
  rcases replacement_cases mapping run with same | ⟨value, found, same⟩
  · by_contra encloses
    have out := isRunChar_of_isParenthesis (by simpa using encloses)
    rw [inside c (same ▸ member)] at out
    cases out
  · exact (passing.value run value found).bare c (same ▸ member)

/-- A name in front of parentheses is what stands for the name in front of them. -/
theorem span_isLetter_parameters (passing : Passing mapping) {t inner : Text}
    (named : (parameters mapping t).takeWhile Text.isLetter ≠ [])
    (enclosed : parenthesised? (Text.trimStart ((parameters mapping t).dropWhile Text.isLetter)) =
      some inner) :
    t.takeWhile Text.isLetter ≠ [] ∧
      (parameters mapping t).takeWhile Text.isLetter =
        replacement mapping (t.takeWhile Text.isLetter) ∧
      (parameters mapping t).dropWhile Text.isLetter =
        parameters mapping (t.dropWhile Text.isLetter) := by
  obtain ⟨run, rest, rfl, inside, ends⟩ := Text.split_front isRunChar t
  have ends' : ∀ c, (parameters mapping rest).head? = some c → Text.isLetter c = false := by
    rw [head?_parameters_of_outside ends]
    exact fun c first => isLetter_of_not_isRunChar (ends c first)
  by_cases none : run = []
  · subst none
    exact absurd (Text.span_append (List.forall_mem_nil _) ends').1 named
  · rw [parameters_append none inside ends] at *
    by_cases letters : ∀ c ∈ replacement mapping run, Text.isLetter c = true
    · have own : ∀ c ∈ run, Text.isLetter c = true := by
        rcases replacement_cases mapping run with same | ⟨value, found, _⟩
        · rwa [same] at letters
        · exact (isName_iff.mp (passing.name run value found)).2.1
      obtain ⟨front', rest'⟩ := Text.span_append letters ends'
      obtain ⟨front, back⟩ := Text.span_append own fun c first =>
        isLetter_of_not_isRunChar (ends c first)
      rw [front', rest', front, back]
      exact ⟨none, rfl, rfl⟩
    · -- What ends the name belongs to the run, so it is neither a blank nor a parenthesis.
      obtain ⟨start, more, cut, lettered, stops⟩ :=
        Text.split_front Text.isLetter (replacement mapping run)
      have goesOn : more ≠ [] := by
        rintro rfl
        exact letters (by rwa [cut, List.append_nil])
      obtain ⟨d, more, rfl⟩ := List.exists_cons_of_ne_nil goesOn
      have member : d ∈ replacement mapping run := by simp [cut]
      have visible := Text.isVisible_iff.mp (isVisible_replacement passing.visible none inside)
      have shown := visible.2 d member
      have stops' : ∀ c, (d :: more ++ parameters mapping rest).head? = some c →
          Text.isLetter c = false := stops
      have rest' := (Text.span_append lettered stops').2
      rw [cut, List.append_assoc, rest', Text.trimStart, List.cons_append,
        List.dropWhile_cons_of_neg (by simp [shown])] at enclosed
      obtain ⟨_, _, _, shape⟩ := parenthesised?_eq_some_iff.mp enclosed
      have bare := bare_replacement passing inside d member
      rw [(List.cons.inj shape).1] at bare
      cases bare

end Substitution

/-- A call in an expanded line was a call before, and its arguments are expanded like the line. -/
theorem Call.parse?_of_parameters {mapping : Dictionary Text}
    (passing : Substitution.Passing mapping) {t : Text} {invocation : Call}
    (parsed : Call.parse? (Substitution.parameters mapping t) = some invocation) :
    ∃ source, Call.parse? t = some source ∧
      invocation.arguments = source.arguments.map (Substitution.parameters mapping) := by
  obtain ⟨name, nonempty, free, inner, enclosed, arguments⟩ := Call.parse?_eq_some_iff.mp parsed
  rw [name] at nonempty free
  obtain ⟨some_, front, rest⟩ := Substitution.span_isLetter_parameters passing nonempty enclosed
  rw [rest, Substitution.trimStart_parameters passing.visible] at enclosed
  obtain ⟨source, enclosed', rfl⟩ := Substitution.parenthesised?_parameters passing enclosed
  rw [Substitution.items_parameters passing] at arguments
  rw [front] at free
  refine ⟨⟨t.takeWhile Text.isLetter, items source⟩, ?_, arguments⟩
  refine Call.parse?_eq_some_iff.mpr ⟨rfl, some_, ?_, source, enclosed', rfl⟩
  rcases Substitution.replacement_cases mapping (t.takeWhile Text.isLetter) with
    same | ⟨value, found, _⟩
  · rwa [same] at free
  · -- A name that stands for a value is not reserved.
    exact (isName_iff.mp (passing.name _ _ found)).2.2

/-! ### Keywords -/

namespace Substitution

variable {mapping : Dictionary Text} {keyword : Keyword}

/-- A keyword that stands for a run is the run or a value. -/
theorem ofWord?_replacement {run : Text}
    (found : Keyword.ofWord? (replacement mapping run) = some keyword) :
    Keyword.ofWord? run = some keyword ∨
      ∃ name value, mapping.get? name = some value ∧ Keyword.ofWord? value = some keyword := by
  rcases replacement_cases mapping run with same | ⟨value, bound, same⟩
  · exact Or.inl (by rwa [same] at found)
  · exact Or.inr ⟨run, value, bound, by rwa [same] at found⟩

/-- A text that becomes a keyword was one, or it was a parameter and the value is one. -/
theorem ofWord?_parameters {t : Text}
    (found : Keyword.ofWord? (parameters mapping t) = some keyword) :
    Keyword.ofWord? t = some keyword ∨
      ∃ name value, mapping.get? name = some value ∧ Keyword.ofWord? value = some keyword := by
  have nonempty : t ≠ [] := by
    rintro rfl
    exact absurd rfl (Keyword.letters_of_ofWord? found).1
  rcases parameters_word mapping nonempty with whole | ⟨_, outside⟩
  · rw [whole] at found
    exact ofWord?_replacement found
  · rw [ofWord?_of_outside outside] at found
    cases found

end Substitution

/-! ### What a call is read as -/

namespace Statement

variable {t : Text} {invocation : Call}

/-- The first word of a call is no keyword. -/
theorem words_of_parse? (parsed : Call.parse? t = some invocation) :
    ∃ word arguments, Text.words t = word :: arguments ∧ Keyword.ofWord? word = none := by
  obtain ⟨_, nonempty, free, _⟩ := Call.parse?_eq_some_iff.mp parsed
  obtain ⟨blanks, rest, shape, letters, blank⟩ := Call.shape_of_parse? parsed
  have visible : invocation.name.isVisible = true := by
    refine Text.isVisible_iff.mpr ⟨nonempty, fun c member => ?_⟩
    exact Substitution.isBlank_of_isRunChar
      (Substitution.isRunChar_of_isLetter (letters c member))
  cases blanks with
  | nil =>
    obtain ⟨more, later, cut, next⟩ := Text.words_of_front visible ('(' :: rest)
    refine ⟨_, later, by rw [shape]; exact cut, Substitution.ofWord?_of_outside ⟨'(', ?_, rfl⟩⟩
    exact List.mem_append_right _ (next '(' rfl rfl)
  | cons c blanks =>
    have ends : ∀ d, (c :: blanks ++ '(' :: rest).head? = some d → Text.isBlank d = true := by
      rintro _ ⟨⟩
      exact blank c (List.mem_cons_self ..)
    have cut := Text.words_append visible ends
    exact ⟨_, _, by rw [shape]; exact cut, by simpa [isReserved] using free⟩

theorem sides?_eq_some {target expression : Text} (cut : sides? t = some (target, expression)) :
    target = t.takeWhile isTargetChar ∧
      ∃ rest, Text.trimStart (t.dropWhile isTargetChar) = '=' :: rest := by
  simp only [sides?] at cut
  split at cut
  · cases cut
  · split at cut
    next rest equals =>
      split at cut
      · cases cut
      · cases cut
        exact ⟨rfl, rest, equals⟩
    · cases cut

/-- What stands before the parenthesis of a call is not the target of an assignment. -/
theorem isAssignment_of_parse? (parsed : Call.parse? t = some invocation) :
    isAssignment t = false := by
  obtain ⟨blanks, rest, shape, letters, blank⟩ := Call.shape_of_parse? parsed
  have front : ∀ c ∈ invocation.name, isTargetChar c = true := by
    intro c member
    have letter := letters c member
    have visible := Substitution.isBlank_of_isRunChar (Substitution.isRunChar_of_isLetter letter)
    have other : c ≠ '=' := by
      rintro rfl
      cases letter
    simp [isTargetChar, visible, other]
  cases cut : sides? t with
  | none => simp [isAssignment, cut]
  | some sides =>
    obtain ⟨target, expression⟩ := sides
    obtain ⟨rfl, rest', equals⟩ := sides?_eq_some cut
    cases blanks with
    | nil =>
      -- The parenthesis would belong to the target, which is a name.
      have member : '(' ∈ t.takeWhile isTargetChar := by
        rw [shape, List.nil_append, List.takeWhile_append_of_pos front,
          List.takeWhile_cons_of_pos (by decide)]
        simp
      have unnamed : isName (t.takeWhile isTargetChar) = false := by
        by_contra named
        obtain ⟨_, inside, _⟩ := isName_iff.mp (by simpa using named)
        exact absurd (inside '(' member) (by decide)
      simp [isAssignment, cut, unnamed]
    | cons c blanks =>
      have ends : ∀ d, (c :: blanks ++ '(' :: rest).head? = some d → isTargetChar d = false := by
        rintro _ ⟨⟩
        simp [isTargetChar, blank c (List.mem_cons_self ..)]
      have behind : Text.trimStart (c :: blanks ++ '(' :: rest) = '(' :: rest := by
        refine (Text.span_append blank fun d first => ?_).2
        cases first
        rfl
      rw [shape, (Text.span_append front ends).2, behind] at equals
      cases equals

/-- A trimmed text of the shape of a call is one. -/
theorem classify_of_parse? (trimmed : Text.trim t = t)
    (parsed : Call.parse? t = some invocation) : classify t = .ok (.call invocation) := by
  obtain ⟨word, arguments, cut, free⟩ := words_of_parse? parsed
  simp [classify, cut, free, ofPlainLine, trimmed, isAssignment_of_parse? parsed, parsed]

end Statement


/-! ### The lines of a call -/

namespace Line

variable {mapping : Dictionary Text} {keyword : Keyword} {line : Line}

/-- The arguments of the call on a line, if there is one. -/
def passed (line : Line) : List Text :=
  match Statement.classify line.text with
  | .ok (.call invocation) => invocation.arguments
  | _ => []

/-- No call on the line passes the keyword to a parameter. -/
def Withholds (keyword : Keyword) (line : Line) : Prop :=
  ∀ argument ∈ line.passed, Keyword.ofWord? argument ≠ some keyword

instance : Decidable (line.Withholds keyword) :=
  inferInstanceAs (Decidable (∀ argument ∈ line.passed, _))

theorem passed_of_call {invocation : Call}
    (read : Statement.classify line.text = .ok (.call invocation)) :
    line.passed = invocation.arguments := by
  simp [passed, read]

theorem withholds_iff_of_call {invocation : Call}
    (read : Statement.classify line.text = .ok (.call invocation)) :
    line.Withholds keyword ↔
      ∀ argument ∈ invocation.arguments, Keyword.ofWord? argument ≠ some keyword := by
  rw [Withholds, passed_of_call read]

theorem mem_passed {argument : Text} (member : argument ∈ line.passed) :
    ∃ invocation, Statement.classify line.text = .ok (.call invocation) ∧
      argument ∈ invocation.arguments := by
  unfold passed at member
  split at member
  next invocation read => exact ⟨invocation, read, member⟩
  · simp at member

/-- An expansion passes a keyword only where the line did, unless it puts the keyword in. -/
theorem withholds_expanded (passing : Substitution.Passing mapping)
    (withheld : ∀ name value, mapping.get? name = some value →
      Keyword.ofWord? value ≠ some keyword)
    (tidy : line.Tidy) (withholds : line.Withholds keyword) (site : Line) :
    (line.expanded mapping site).Withholds keyword := by
  intro argument given found
  obtain ⟨invocation, read, member⟩ := mem_passed given
  have trimmed := (tidy_expanded passing.visible tidy site).trimmed
  have parsed := Statement.parse_of_classify read
  rw [trimmed] at parsed
  obtain ⟨source, earlier, arguments⟩ := Call.parse?_of_parameters passing parsed
  rw [arguments] at member
  obtain ⟨own, inCall, rfl⟩ := List.mem_map.mp member
  rcases Substitution.ofWord?_parameters found with spelled | ⟨name, value, bound, spelled⟩
  · rw [← passed_of_call (Statement.classify_of_parse? tidy.trimmed earlier)] at inCall
    exact withholds own inCall spelled
  · exact withheld name value bound spelled

/-- An expansion starts with a keyword only where the line did, unless it puts the keyword in. -/
theorem keyword?_of_expanded (visible : Substitution.VisibleValues mapping)
    (withheld : ∀ name value, mapping.get? name = some value →
      Keyword.ofWord? value ≠ some keyword) {site : Line}
    (found : (line.expanded mapping site).keyword? = some keyword) :
    line.keyword? = some keyword := by
  simp only [keyword?, words_expanded visible] at found ⊢
  cases cut : line.words with
  | nil => simp [cut] at found
  | cons first later =>
    simp only [cut, List.map_cons, List.head?_cons, Option.bind_some] at found ⊢
    rcases Substitution.ofWord?_parameters found with spelled | ⟨name, value, bound, spelled⟩
    · exact spelled
    · exact absurd spelled (withheld name value bound)

end Line

namespace Method

variable {method : Method} {arguments : List Text} {keyword : Keyword}

theorem passing_binding (names : ∀ p ∈ method.parameters, isName p = true)
    (passable : ∀ a ∈ arguments, a.Passable) :
    Substitution.Passing (method.binding arguments) where
  name _ _ found := names _ (List.of_mem_zip (mem_zip_of_binding found)).1
  value _ _ found := passable _ (List.of_mem_zip (mem_zip_of_binding found)).2

theorem withheld_binding (withheld : ∀ a ∈ arguments, Keyword.ofWord? a ≠ some keyword) :
    ∀ name value, (method.binding arguments).get? name = some value →
      Keyword.ofWord? value ≠ some keyword :=
  fun _ _ found => withheld _ (List.of_mem_zip (mem_zip_of_binding found)).2

/-- A call that does not pass a keyword gives lines that do not pass it on. -/
theorem withholds_of_mem_linesAt (names : ∀ p ∈ method.parameters, isName p = true)
    (body : ∀ line ∈ method.body, line.Tidy ∧ line.Withholds keyword)
    (passable : ∀ a ∈ arguments, a.Passable)
    (withheld : ∀ a ∈ arguments, Keyword.ofWord? a ≠ some keyword) (site : Line) :
    ∀ line ∈ method.linesAt arguments site, line.Withholds keyword := by
  intro line member
  obtain ⟨source, inBody, rfl⟩ := List.mem_map.mp member
  obtain ⟨tidy, withholds⟩ := body source inBody
  exact Line.withholds_expanded (passing_binding names passable) (withheld_binding withheld) tidy
    withholds site

/-- A call that does not pass a keyword gives no line that starts with it, if the method has
none. -/
theorem keyword?_of_mem_linesAt
    (body : ∀ line ∈ method.body, line.Tidy ∧ line.keyword? ≠ some keyword)
    (visible : ∀ a ∈ arguments, a.isVisible = true)
    (withheld : ∀ a ∈ arguments, Keyword.ofWord? a ≠ some keyword) (site : Line) :
    ∀ line ∈ method.linesAt arguments site, line.keyword? ≠ some keyword := by
  intro line member starts
  obtain ⟨source, inBody, rfl⟩ := List.mem_map.mp member
  obtain ⟨_, other⟩ := body source inBody
  exact other (Line.keyword?_of_expanded (visibleValues_binding visible) (withheld_binding withheld)
    starts)

end Method

end Plotter
