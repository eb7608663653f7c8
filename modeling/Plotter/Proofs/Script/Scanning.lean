import Plotter.Proofs.Script.Composition

/-!
# Finding parameters by a scan

The places of parameters can be found without cutting the text first, by a scan from the left.  A
name is found where a row of letters has neither a letter nor a digit nor an underscore at its side;
the scan takes the longest one at the place where it is, puts in what stands for it, and goes on
behind it.  Where nothing is found it leaves a character as it is.

## Main result

`parameters_by_runs`: replacing parameters run by run is what the scan comes to, and it is the same
for every way of cutting the text into runs and the characters between them, of which there is one.
So a run is looked up as a whole and once, and what has been put in is not looked at again.

## Proof strategy

What the scan does depends on what is right behind it only.  Inside a run nothing can be found, so
the rest of the run is left as it is; outside of runs the scan comes to what cutting comes to.  Both
are proved in one induction on the scan (`Scanned.eq_parameters`).
-/

namespace Plotter.Substitution

variable {mapping : Dictionary Text} {before t result : Text}

/-- A text ends inside a run if a run character is its last one. -/
def EndsInRun (before : Text) : Prop := ∃ c, before.getLast? = some c ∧ isRunChar c = true

/-- A name stands between two texts: it is a row of letters, and no run character is at its side. -/
structure Mention (before name after : Text) : Prop where
  nonempty : name ≠ []
  letters : ∀ c ∈ name, Text.isLetter c = true
  starts : ¬EndsInRun before
  ends : ∀ c, after.head? = some c → isRunChar c = false

/-- What a scan makes of a text that stands behind another one, which it has passed. -/
inductive Scanned (mapping : Dictionary Text) : (before t result : Text) → Prop
  | nil {before : Text} : Scanned mapping before [] []
  /-- The longest name at this place is replaced. -/
  | found {before name after result : Text} (mention : Mention before name after)
      (longest : ∀ other rest, name ++ after = other ++ rest → Mention before other rest →
        other.length ≤ name.length)
      (later : Scanned mapping (before ++ name) after result) :
      Scanned mapping before (name ++ after) ((mapping.get? name).getD name ++ result)
  /-- At this place there is no name. -/
  | passed {before rest result : Text} {c : Char}
      (none : ∀ name after, c :: rest = name ++ after → ¬Mention before name after)
      (later : Scanned mapping (before ++ [c]) rest result) :
      Scanned mapping before (c :: rest) (c :: result)

/-! ### Where names are found -/

theorem not_endsInRun_nil : ¬EndsInRun [] := by simp [EndsInRun]

theorem endsInRun_concat {c : Char} : EndsInRun (before ++ [c]) ↔ isRunChar c = true := by
  simp [EndsInRun]

theorem Mention.endsInRun {name after : Text} (mention : Mention before name after) :
    EndsInRun (before ++ name) := by
  rcases List.eq_nil_or_concat' name with rfl | ⟨row, c, rfl⟩
  · exact absurd rfl mention.nonempty
  · rw [← List.append_assoc, endsInRun_concat]
    exact isRunChar_of_isLetter (mention.letters c (by simp))

/-- A name is a run that nothing extends. -/
theorem Mention.span {name after : Text} (mention : Mention before name after) :
    (name ++ after).takeWhile isRunChar = name ∧ (name ++ after).dropWhile isRunChar = after :=
  Text.span_append (fun c member => isRunChar_of_isLetter (mention.letters c member)) mention.ends

/-- So there is one name at most at a place, and there is no choice which one to take. -/
theorem Mention.unique {name after other rest : Text} (mention : Mention before name after)
    (same : name ++ after = other ++ rest) (mention' : Mention before other rest) :
    name = other := by
  rw [← mention.span.1, same, mention'.span.1]

theorem replacement_of_letters {run : Text} (letters : ∀ c ∈ run, Text.isLetter c = true) :
    replacement mapping run = (mapping.get? run).getD run :=
  if_pos (List.all_eq_true.mpr letters)

/-- A run with a digit or an underscore in it stays as it is. -/
theorem replacement_of_unlettered {run : Text} {c : Char} (member : c ∈ run)
    (unlettered : Text.isLetter c = false) : replacement mapping run = run := by
  refine if_neg fun letters => ?_
  rw [List.all_eq_true.mp letters c member] at unlettered
  cases unlettered

/-- Where a run starts and no name is found, the run stays as it is. -/
theorem parameters_of_no_mention {c : Char} {rest : Text} (outside : ¬EndsInRun before)
    (inRun : isRunChar c = true)
    (none : ∀ name after, c :: rest = name ++ after → ¬Mention before name after) :
    parameters mapping (c :: rest) =
      c :: (rest.takeWhile isRunChar ++ parameters mapping (rest.dropWhile isRunChar)) := by
  obtain ⟨row, after, rfl, inside, ends⟩ := Text.split_front isRunChar rest
  obtain ⟨taken, dropped⟩ := Text.span_append inside ends
  have unlettered : ∃ d ∈ c :: row, Text.isLetter d = false := by
    by_contra letters
    push Not at letters
    refine none (c :: row) after rfl ⟨List.cons_ne_nil _ _, fun d member => ?_, outside, ends⟩
    simpa using letters d member
  obtain ⟨d, member, notLetter⟩ := unlettered
  have whole : ∀ d ∈ c :: row, isRunChar d = true := List.forall_mem_cons.mpr ⟨inRun, inside⟩
  rw [taken, dropped, ← List.cons_append, parameters_append (List.cons_ne_nil _ _) whole ends,
    replacement_of_unlettered member notLetter, List.cons_append]

/-! ### What a scan comes to -/

/-- Outside of runs a scan replaces run by run, and inside a run it lets the rest of the run pass. -/
theorem Scanned.eq_parameters (scanned : Scanned mapping before t result) :
    (¬EndsInRun before → result = parameters mapping t) ∧
      (EndsInRun before →
        result = t.takeWhile isRunChar ++ parameters mapping (t.dropWhile isRunChar)) := by
  induction scanned with
  | nil => exact ⟨fun _ => rfl, fun _ => rfl⟩
  | @found before name after result mention _ _ ih =>
    refine ⟨fun _ => ?_, fun inside => absurd inside mention.starts⟩
    -- Behind the name there is nothing left of the run.
    obtain ⟨taken, dropped⟩ := Text.span_append (List.forall_mem_nil _) mention.ends
    have later : result = parameters mapping after := by
      rw [ih.2 mention.endsInRun]
      simp only [List.nil_append] at taken dropped
      rw [taken, dropped, List.nil_append]
    have inside : ∀ c ∈ name, isRunChar c = true :=
      fun c member => isRunChar_of_isLetter (mention.letters c member)
    rw [later, parameters_append mention.nonempty inside mention.ends,
      replacement_of_letters mention.letters]
  | @passed before rest result c none _ ih =>
    rw [endsInRun_concat] at ih
    by_cases inRun : isRunChar c = true
    · rw [ih.2 inRun]
      refine ⟨fun outside => (parameters_of_no_mention outside inRun none).symm, fun _ => ?_⟩
      rw [List.takeWhile_cons_of_pos inRun, List.dropWhile_cons_of_pos inRun, List.cons_append]
    · have out := Bool.eq_false_iff.mpr inRun
      rw [ih.1 inRun, List.takeWhile_cons_of_neg inRun, List.dropWhile_cons_of_neg inRun,
        parameters_cons_of_not out]
      exact ⟨fun _ => rfl, fun _ => rfl⟩

/-- A scan always comes to its end. -/
theorem exists_scanned (mapping : Dictionary Text) (before t : Text) :
    ∃ result, Scanned mapping before t result := by
  induction size : t.length using Nat.strong_induction_on generalizing before t with
  | _ n ih =>
    by_cases here : ∃ name after, t = name ++ after ∧ Mention before name after
    · obtain ⟨name, after, rfl, mention⟩ := here
      have shorter : after.length < n := by
        have some_ := List.length_pos_of_ne_nil mention.nonempty
        rw [List.length_append] at size
        omega
      obtain ⟨result, later⟩ := ih after.length shorter (before ++ name) after rfl
      refine ⟨_, .found mention (fun other rest same mention' => ?_) later⟩
      rw [mention.unique same mention']
    · cases t with
      | nil => exact ⟨[], .nil⟩
      | cons c rest =>
        obtain ⟨result, later⟩ := ih rest.length (by rw [← size]; simp) (before ++ [c]) rest rfl
        exact ⟨c :: result, .passed (fun name after cut mention => here ⟨name, after, cut, mention⟩)
          later⟩

/-- From the start of a text, the scan comes to the text with its parameters replaced. -/
theorem scanned_iff : Scanned mapping [] t result ↔ result = parameters mapping t := by
  constructor
  · exact fun scanned => scanned.eq_parameters.1 not_endsInRun_nil
  · rintro rfl
    obtain ⟨result, scanned⟩ := exists_scanned mapping [] t
    rwa [scanned.eq_parameters.1 not_endsInRun_nil] at scanned

/-! ### Run by run -/

/-- A text may be cut behind a character that belongs to no run. -/
theorem parameters_append_of_not_endsInRun {front : Text} (out : ¬EndsInRun front) (back : Text) :
    parameters mapping (front ++ back) = parameters mapping front ++ parameters mapping back := by
  rcases List.eq_nil_or_concat' front with rfl | ⟨front, c, rfl⟩
  · rfl
  · rw [endsInRun_concat, Bool.not_eq_true] at out
    have starts (t : Text) : ∀ d, (c :: t).head? = some d → isRunChar d = false := by
      rintro d ⟨⟩
      exact out
    rw [List.append_assoc, List.singleton_append, parameters_append_of_outside front (starts back),
      parameters_append_of_outside front (starts []), parameters_cons_of_not out,
      parameters_cons_of_not out, List.append_assoc]
    rfl

section Named

variable (named : ∀ name value, mapping.get? name = some value → isName name = true)

include named

/-- Only a row of letters is the name of a parameter. -/
theorem get?_of_unlettered {run : Text} {c : Char} (member : c ∈ run)
    (unlettered : Text.isLetter c = false) : mapping.get? run = none := by
  cases found : mapping.get? run with
  | none => rfl
  | some value =>
    rw [(isName_iff.mp (named run value found)).2.1 c member] at unlettered
    cases unlettered

/-- A run is looked up as a whole. -/
theorem replacement_of_named (run : Text) :
    replacement mapping run = (mapping.get? run).getD run := by
  by_cases letters : ∀ c ∈ run, Text.isLetter c = true
  · exact replacement_of_letters letters
  · push Not at letters
    obtain ⟨c, member, notLetter⟩ := letters
    have unlettered := Bool.eq_false_iff.mpr notLetter
    rw [replacement_of_unlettered member unlettered, get?_of_unlettered named member unlettered,
      Option.getD_none]

theorem parameters_of_isCut {cut : List Text} (isCut : Text.IsCut isRunChar cut t) :
    parameters mapping t = cut.flatMap fun piece => (mapping.get? piece).getD piece := by
  rw [parameters, ← Text.isCut_iff.mp isCut]
  exact List.flatMap_congr fun piece _ => replacement_of_named named piece

/-- If the parameters are names, then a text with its parameters replaced is, for the one way to cut
it into runs that nothing extends and the characters between them, what stands for its pieces, one
after another.  The same is what a scan comes to that looks for names between the runs.  A text that
a host gives is trimmed before.

So a run is replaced once and as a whole, whatever is made of the text around it, and a run with a
digit or an underscore in it is never replaced. -/
theorem parameters_by_runs (t : Text) :
    (∃! cut, Text.IsCut isRunChar cut t) ∧
    (∀ cut, Text.IsCut isRunChar cut t →
      parameters mapping t = cut.flatMap fun piece => (mapping.get? piece).getD piece) ∧
    (∀ cut, Text.IsCut isRunChar cut (Text.trim t) →
      trimmedParameters mapping t = cut.flatMap fun piece => (mapping.get? piece).getD piece) ∧
    (∀ result, Scanned mapping [] t result ↔ result = parameters mapping t) ∧
    ∀ front run back, t = front ++ run ++ back → ¬EndsInRun front → Text.IsRun isRunChar run →
      (∀ c, back.head? = some c → isRunChar c = false) →
      parameters mapping t =
        parameters mapping front ++ (mapping.get? run).getD run ++ parameters mapping back ∧
      ((∃ c ∈ run, Text.isLetter c = false) → mapping.get? run = none) := by
  refine ⟨⟨_, Text.isCut_iff.mpr rfl, fun cut isCut => Text.isCut_iff.mp isCut⟩,
    fun cut isCut => parameters_of_isCut named isCut,
    fun cut isCut => parameters_of_isCut named isCut, fun result => scanned_iff, ?_⟩
  rintro front run back rfl starts ⟨nonempty, inside⟩ ends
  refine ⟨?_, fun ⟨c, member, unlettered⟩ => get?_of_unlettered named member unlettered⟩
  rw [List.append_assoc, parameters_append_of_not_endsInRun starts,
    parameters_append nonempty inside ends, replacement_of_named named, List.append_assoc]

end Named

/-- Two parameters that stand for each other change places, and none is found beside a digit, an
underscore or another letter. -/
theorem parameters_by_runs_of_swap :
    let mapping : Dictionary Text := .ofList [(['x'], "y+y".toList), (['y'], ['x'])]
    let t := "max x1 (x,_y) y".toList
    let cut := ["max".toList, [' '], "x1".toList, [' '], ['('], ['x'], [','], "_y".toList, [')'],
      [' '], ['y']]
    Text.IsCut isRunChar cut t ∧
      parameters mapping t = cut.flatMap (fun piece => (mapping.get? piece).getD piece) ∧
      parameters mapping t = "max x1 (y+y,_y) x".toList ∧
      Scanned mapping [] t "max x1 (y+y,_y) x".toList ∧
      parameters mapping t =
        parameters mapping "max x1 (".toList ++ "y+y".toList ++ parameters mapping ",_y) y".toList ∧
      mapping.get? "x1".toList = none := by
  intro mapping t cut
  have named : ∀ name value, mapping.get? name = some value → isName name = true := by
    intro name value found
    have member := Dictionary.mem_of_mem_ofList (Dictionary.mem_of_get? found)
    simp only [List.mem_cons, Prod.mk.injEq, List.not_mem_nil, or_false] at member
    rcases member with ⟨rfl, _⟩ | ⟨rfl, _⟩ <;> decide
  have isCut : Text.IsCut isRunChar cut t := Text.isCut_iff.mpr (by decide)
  have replaced : parameters mapping t = "max x1 (y+y,_y) x".toList := by decide
  have x : Text.IsRun isRunChar ['x'] := ⟨by simp, List.all_eq_true.mp (by decide)⟩
  have x1 : Text.IsRun isRunChar "x1".toList := ⟨by simp, List.all_eq_true.mp (by decide)⟩
  obtain ⟨_, eachCut, _, scan, byRun⟩ := parameters_by_runs named t
  refine ⟨isCut, eachCut cut isCut, replaced, (scan _).mpr replaced.symm, ?_, ?_⟩
  · refine (byRun "max x1 (".toList ['x'] ",_y) y".toList rfl ?_ x ?_).1
    · rintro ⟨c, ⟨⟩, inRun⟩
      cases inRun
    · rintro c ⟨⟩
      rfl
  · refine (byRun "max ".toList "x1".toList " (x,_y) y".toList rfl ?_ x1 ?_).2
      ⟨'1', by decide, by decide⟩
    · rintro ⟨c, ⟨⟩, inRun⟩
      cases inRun
    · rintro c ⟨⟩
      rfl

end Plotter.Substitution
