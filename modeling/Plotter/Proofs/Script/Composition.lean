import Plotter.Proofs.Script.Passing

/-!
# Arguments that are passed on

What is put in for a parameter may hold parameters of another method.  To replace these afterwards
is the same as to replace them in the arguments and then to put the arguments in: a parameter is a
run of its own, what stands next to it belongs to no run, and so what is put in neither grows
together with its neighbours nor is cut by them.

A method that calls a method passes on what was passed to it.  However deep the calls are, the
lines of the innermost method are expanded once, with the arguments as they have become by then, and
this gives the text that the expansions of all the calls give one after another.

## Main result

`nested_expansion_composes`: the law for two mappings, for any number of them, and for the calls of
the machine.

## Proof strategy

Cutting at runs is compatible with a replacement (`parameters_parameters`).  The calls follow by
induction from the outermost one to the innermost one, with the texts of the calls as written.
-/

namespace Plotter

namespace Dictionary

variable {α β : Type}

theorem lookup_append (name : Text) (first second : List (Text × α)) :
    lookup name (first ++ second) = (lookup name first).or (lookup name second) := by
  induction first with
  | nil => rfl
  | cons entry first ih =>
    simp only [List.cons_append, lookup]
    split
    · rfl
    · exact ih

theorem lookup_map (f : α → β) (name : Text) (entries : List (Text × α)) :
    lookup name (entries.map fun entry => (entry.1, f entry.2)) = (lookup name entries).map f := by
  induction entries with
  | nil => rfl
  | cons entry entries ih =>
    simp only [List.map_cons, lookup]
    split
    · rfl
    · exact ih

/-- The last value of a name counts. -/
theorem get?_ofList_concat (pairs : List (Text × α)) (last : Text × α) (name : Text) :
    (ofList (pairs ++ [last])).get? name =
      if last.1 = name then some last.2 else (ofList pairs).get? name := by
  rw [ofList, List.foldl_concat, get?_set]
  rfl

theorem get?_ofList_map (f : α → β) (pairs : List (Text × α)) (name : Text) :
    (ofList (pairs.map fun pair => (pair.1, f pair.2))).get? name =
      ((ofList pairs).get? name).map f := by
  induction pairs using List.reverseRecOn with
  | nil => rfl
  | append_singleton pairs last ih =>
    rw [List.map_append, List.map_singleton, get?_ofList_concat, get?_ofList_concat, ih]
    split <;> rfl

end Dictionary

namespace Method

variable {method : Method} {arguments : List Text}

theorem get?_binding_map (f : Text → Text) (name : Text) :
    (method.binding (arguments.map f)).get? name =
      ((method.binding arguments).get? name).map f := by
  rw [binding, binding, ← Dictionary.get?_ofList_map, List.zip_map_right]
  rfl

end Method

namespace Substitution

variable {mapping first second : Dictionary Text} {t : Text}

/-- Replaces the parameters of a text that a host gives, which is trimmed before. -/
def trimmedParameters (mapping : Dictionary Text) (t : Text) : Text :=
  parameters mapping (Text.trim t)

/-- What two mappings come to that are applied one after the other: the second one replaces what it
knows in the values of the first one, and elsewhere. -/
def composed (first second : Dictionary Text) : Dictionary Text where
  entries :=
    (first.entries.map fun entry => (entry.1, parameters second entry.2)) ++ second.entries

theorem get?_composed (first second : Dictionary Text) (name : Text) :
    (composed first second).get? name =
      ((first.get? name).map (parameters second)).or (second.get? name) := by
  simp only [Dictionary.get?, composed, Dictionary.lookup_append, Dictionary.lookup_map]

theorem visibleValues_of_entries {entries : List (Text × Text)}
    (visible : ∀ entry ∈ entries, entry.2.isVisible = true) : VisibleValues ⟨entries⟩ :=
  fun _ _ found => visible _ (Dictionary.mem_of_get? found)

/-! ### One replacement after another -/

/-- Only what is found for the runs of a text counts. -/
theorem parameters_congr
    (same : ∀ run ∈ Text.runs isRunChar t, first.get? run = second.get? run) :
    parameters first t = parameters second t := by
  induction t using Text.run_induction isRunChar with
  | nil => rfl
  | outside c rest out ih =>
    rw [Text.runs_cons_of_not out] at same
    rw [parameters_cons_of_not out, parameters_cons_of_not out, ih same]
  | run front rest nonempty inside ends ih =>
    rw [Text.runs_append nonempty inside ends] at same
    obtain ⟨here, later⟩ := List.forall_mem_cons.mp same
    rw [parameters_append nonempty inside ends, parameters_append nonempty inside ends, ih later,
      replacement, here, replacement]

/-- What stands for a run, with parameters of the second mapping replaced in it. -/
private theorem parameters_replacement {run : Text} (nonempty : run ≠ [])
    (inside : ∀ c ∈ run, isRunChar c = true) :
    parameters second (replacement first run) = replacement (composed first second) run := by
  by_cases letters : run.all Text.isLetter = true
  · simp only [replacement, if_pos letters, get?_composed]
    cases first.get? run with
    | none =>
      rw [Option.getD_none, parameters_run nonempty inside, replacement, if_pos letters]
      rfl
    | some value => rfl
  · rw [replacement, if_neg letters, replacement, if_neg letters, parameters_run nonempty inside,
      replacement, if_neg letters]

/-- Two replacements, one after the other, are one. -/
theorem parameters_parameters (first second : Dictionary Text) (t : Text) :
    parameters second (parameters first t) = parameters (composed first second) t := by
  induction t using Text.run_induction isRunChar with
  | nil => rfl
  | outside c rest out ih => simp only [parameters_cons_of_not out, ih]
  | run front rest nonempty inside ends ih =>
    -- What is put in for the run ends where the run ended, in front of the same character.
    have ends' : ∀ c, (parameters first rest).head? = some c → isRunChar c = false := by
      rwa [head?_parameters_of_outside ends]
    rw [parameters_append nonempty inside ends, parameters_append_of_outside _ ends', ih,
      parameters_replacement nonempty inside, parameters_append nonempty inside ends]

theorem foldl_parameters (first : Dictionary Text) (others : List (Dictionary Text)) (t : Text) :
    others.foldl (fun t mapping => parameters mapping t) (parameters first t) =
      parameters (others.foldl composed first) t := by
  induction others generalizing first with
  | nil => rfl
  | cons next others ih => rw [List.foldl_cons, List.foldl_cons, parameters_parameters, ih]

/-- Between two replacements nothing is trimmed off, if what is put in is visible. -/
theorem foldl_trimmedParameters {others : List (Dictionary Text)} (visible : VisibleValues first)
    (visible' : ∀ mapping ∈ others, VisibleValues mapping) (t : Text) :
    others.foldl (fun t mapping => trimmedParameters mapping t) (trimmedParameters first t) =
      trimmedParameters (others.foldl composed first) t := by
  have kept : ∀ text : Text, Text.trim text = text →
      others.foldl (fun t mapping => trimmedParameters mapping t) text =
        others.foldl (fun t mapping => parameters mapping t) text := by
    induction others with
    | nil => exact fun _ _ => rfl
    | cons next others ih =>
      intro text trimmed
      obtain ⟨here, later⟩ := List.forall_mem_cons.mp visible'
      rw [List.foldl_cons, List.foldl_cons, trimmedParameters, trimmed]
      apply ih later
      rw [trim_parameters here, trimmed]
  rw [kept, trimmedParameters, trimmedParameters, foldl_parameters]
  rw [trimmedParameters, trim_parameters visible, Text.trim_trim]

/-! ### Runs of an expanded text -/

/-- A run of an expanded text has been left as it was, or it belongs to what has been put in. -/
theorem mem_runs_parameters (named : ∀ name value, mapping.get? name = some value → isName name)
    {run : Text} (member : run ∈ Text.runs isRunChar (parameters mapping t)) :
    (run ∈ Text.runs isRunChar t ∧ mapping.get? run = none) ∨
      ∃ name value, mapping.get? name = some value ∧ run ∈ Text.runs isRunChar value := by
  induction t using Text.run_induction isRunChar with
  | nil => cases member
  | outside c rest out ih =>
    rw [parameters_cons_of_not out, Text.runs_cons_of_not out] at member
    rw [Text.runs_cons_of_not out]
    exact ih member
  | run front rest nonempty inside ends ih =>
    have ends' : ∀ c, (parameters mapping rest).head? = some c → isRunChar c = false := by
      rwa [head?_parameters_of_outside ends]
    rw [parameters_append nonempty inside ends, Text.runs_append_of_outside _ ends',
      List.mem_append] at member
    rw [Text.runs_append nonempty inside ends]
    rcases member with here | later
    · cases found : mapping.get? front with
      | some value =>
        have letters := (isName_iff.mp (named front value found)).2.1
        rw [replacement, if_pos (List.all_eq_true.mpr letters), found] at here
        exact Or.inr ⟨front, value, found, here⟩
      | none =>
        have same : replacement mapping front = front := by simp [replacement, found]
        rw [same, ← List.append_nil front, Text.runs_append nonempty inside (by simp)] at here
        cases List.mem_singleton.mp here
        exact Or.inl ⟨List.mem_cons_self .., found⟩
    · rcases ih later with ⟨earlier, free⟩ | put
      · exact Or.inl ⟨List.mem_cons_of_mem _ earlier, free⟩
      · exact Or.inr put

/-! ### Calls inside of calls -/

/-- Of the parameters of all the methods that are being called, a text mentions only those of its own
method, which is the innermost one. -/
def MentionsOwn : List (Dictionary Text) → Text → Prop
  | [], _ => True
  | own :: around, t =>
    ∀ run ∈ Text.runs isRunChar t, ∀ mapping ∈ around, mapping.get? run ≠ none → own.get? run ≠ none

/-- What the parameters of a method stand for when it is called from a line of a method that is
called from a line of a method, and so on.  The list holds what they stand for in each of these calls
as it is written, the innermost one first; the outermost one has been typed. -/
inductive CalledThrough : List (Dictionary Text) → Dictionary Text → Prop
  | typed {mapping : Dictionary Text} (passing : Passing mapping) : CalledThrough [mapping] mapping
  | inner {around : List (Dictionary Text)} {actual : Dictionary Text} {t : Text}
      {written passed : Call} {method : Method} (earlier : CalledThrough around actual)
      (read : Call.parse? t = some written)
      (expanded : Call.parse? (parameters actual t) = some passed)
      (named : ∀ p ∈ method.parameters, isName p = true)
      (count : written.arguments.length = method.arity)
      (own : ∀ argument ∈ written.arguments, MentionsOwn around argument) :
      CalledThrough (method.binding written.arguments :: around) (method.binding passed.arguments)

theorem Passing.binding {method : Method} {t : Text} {invocation : Call}
    (named : ∀ p ∈ method.parameters, isName p = true)
    (parsed : Call.parse? t = some invocation) : Passing (method.binding invocation.arguments) where
  name _ _ found := named _ (List.of_mem_zip (Method.mem_zip_of_binding found)).1
  value _ _ found :=
    Call.passable_of_parse? parsed _ (List.of_mem_zip (Method.mem_zip_of_binding found)).2

namespace CalledThrough

variable {stack : List (Dictionary Text)} {actual : Dictionary Text}

theorem passing (called : CalledThrough stack actual) : Passing actual := by
  cases called with
  | typed passing => exact passing
  | inner _ _ expanded named _ _ => exact .binding named expanded

/-- The arguments of a call are those of the line as it is written, expanded like the line. -/
theorem arguments_eq (called : CalledThrough stack actual) {written passed : Call}
    (read : Call.parse? t = some written)
    (expanded : Call.parse? (parameters actual t) = some passed) :
    passed.arguments = written.arguments.map (parameters actual) := by
  obtain ⟨source, parsed, arguments⟩ := Call.parse?_of_parameters called.passing expanded
  rw [read] at parsed
  cases parsed
  exact arguments

/-- The parameters are those of the innermost method. -/
theorem mem_own (called : CalledThrough stack actual) {name : Text}
    (known : actual.get? name ≠ none) : ∃ mapping ∈ stack, mapping.get? name ≠ none := by
  cases called with
  | typed => exact ⟨actual, List.mem_singleton_self _, known⟩
  | inner earlier read expanded _ _ _ =>
    rw [earlier.arguments_eq read expanded, Method.get?_binding_map] at known
    exact ⟨_, List.mem_cons_self .., fun unknown => known (by rw [unknown]; rfl)⟩

end CalledThrough

/-- The arguments of an inner call are put in as they have become, or as they are written and with
the outer parameters replaced afterwards. -/
theorem parameters_binding_map {method : Method} {arguments : List Text} {outer : Dictionary Text}
    (own : ∀ run ∈ Text.runs isRunChar t, outer.get? run ≠ none →
      (method.binding arguments).get? run ≠ none) :
    parameters (method.binding (arguments.map (parameters outer))) t =
      parameters outer (parameters (method.binding arguments) t) := by
  rw [parameters_parameters]
  refine parameters_congr fun run member => ?_
  rw [Method.get?_binding_map, get?_composed]
  cases found : (method.binding arguments).get? run with
  | some value => rfl
  | none =>
    -- No parameter of the outer method is meant where none of the inner one is.
    have free : outer.get? run = none := by
      by_contra known
      exact own run member known found
    rw [free]
    rfl

/-- A line of the innermost method is expanded at once as it is by all the calls, from the innermost
one to the outermost one. -/
theorem parameters_of_calledThrough {stack : List (Dictionary Text)} {actual : Dictionary Text}
    (called : CalledThrough stack actual) (own : MentionsOwn stack t) :
    parameters actual t = stack.foldl (fun t mapping => parameters mapping t) t := by
  induction called generalizing t with
  | typed => rfl
  | @inner around actual line written passed method earlier read expanded named count inArguments ih =>
    rw [earlier.arguments_eq read expanded, List.foldl_cons, ← ih]
    · refine parameters_binding_map fun run member known => ?_
      obtain ⟨mapping, inAround, known⟩ := earlier.mem_own known
      exact own run member mapping inAround known
    · -- What the inner call puts in is written in a line of the method around it.
      have named' : ∀ name value, (method.binding written.arguments).get? name = some value →
          isName name = true :=
        (Passing.binding named read).name
      cases around with
      | nil => trivial
      | cons next around =>
        intro run member mapping inAround known
        rcases mem_runs_parameters named' member with ⟨inLine, free⟩ | ⟨name, value, put, inValue⟩
        · exact absurd free (own run inLine mapping (List.mem_cons_of_mem _ inAround) known)
        · have argument := (List.of_mem_zip (Method.mem_zip_of_binding put)).2
          exact inArguments value argument run inValue mapping inAround known

/-- What is visible is trimmed. -/
private theorem trim_of_isVisible (visible : t.isVisible = true) : Text.trim t = t := by
  have shown := (Text.isVisible_iff.mp visible).2
  refine Text.trim_eq_self_iff.mpr ⟨fun c first => ?_, fun c last => ?_⟩
  · exact shown c (List.mem_of_head? first)
  · exact shown c (List.mem_of_getLast? last)

/-- To replace parameters in a text twice is to replace them once, by the mapping that has the second
one applied to the values of the first one and is the second one elsewhere.  The same holds of any
number of replacements.

In a call that is written in a line of a method the arguments become what the line makes of them, and
with these the lines of the method that is called are expanded.  However deep the calls are, this is
what all their expansions come to one after another, if a line and the arguments in it mention none
of the parameters around but those of their own method. -/
theorem nested_expansion_composes :
    (∀ (first second both : Dictionary Text) (t : Text), VisibleValues first →
      (∀ name value, first.get? name = some value →
        both.get? name = some (trimmedParameters second value)) →
      (∀ name, first.get? name = none → both.get? name = second.get? name) →
      trimmedParameters second (trimmedParameters first t) = trimmedParameters both t) ∧
    (∀ (first : Dictionary Text) (others : List (Dictionary Text)) (t : Text),
      VisibleValues first → (∀ mapping ∈ others, VisibleValues mapping) →
      others.foldl (fun t mapping => trimmedParameters mapping t) (trimmedParameters first t) =
        trimmedParameters (others.foldl composed first) t) ∧
    ∀ (stack : List (Dictionary Text)) (actual : Dictionary Text), CalledThrough stack actual →
      (∀ t written passed, Call.parse? t = some written →
        Call.parse? (parameters actual t) = some passed →
        passed.arguments = written.arguments.map (parameters actual)) ∧
      ∀ line site : Line, MentionsOwn stack line.text →
        (line.expanded actual site).text =
          stack.foldl (fun t mapping => parameters mapping t) line.text := by
  refine ⟨?_, ?_, ?_⟩
  · intro first second both t visible inside outside
    rw [trimmedParameters, trimmedParameters, trim_parameters visible, Text.trim_trim,
      parameters_parameters, trimmedParameters]
    refine parameters_congr fun run _ => ?_
    rw [get?_composed]
    cases found : first.get? run with
    | none => exact (outside run found).symm
    | some value =>
      rw [inside run value found, trimmedParameters, trim_of_isVisible (visible run value found)]
      rfl
  · exact fun first others t visible visible' => foldl_trimmedParameters visible visible' t
  · intro stack actual called
    exact ⟨fun t written passed => called.arguments_eq, fun line site own =>
      parameters_of_calledThrough called own⟩

/-- An argument with a digit and an accented letter at its ends does not grow together with its
neighbours.  The method that is called has a parameter of the same name as the method around. -/
theorem nested_expansion_composes_of_names :
    let first : Dictionary Text := ⟨[("x".toList, "2-a".toList), ("y".toList, "éx".toList)]⟩
    let second : Dictionary Text := ⟨[("a".toList, "y1".toList), ("x".toList, "-5".toList)]⟩
    let both : Dictionary Text :=
      ⟨[("x".toList, "2-y1".toList), ("y".toList, "é-5".toList), ("a".toList, "y1".toList)]⟩
    let outer : Dictionary Text := ⟨[("a".toList, "3".toList), ("b".toList, "a+b".toList)]⟩
    let method : Method := ⟨"g".toList, ["a".toList], []⟩
    let stack := [method.binding ["b-a".toList], outer]
    let line : Line := ⟨"moveto a ax".toList, 4, none⟩
    trimmedParameters second (trimmedParameters first " x+y x1 a".toList) =
        trimmedParameters both " x+y x1 a".toList ∧
      [second].foldl (fun t mapping => trimmedParameters mapping t)
          (trimmedParameters first "(x)".toList) =
        trimmedParameters ([second].foldl composed first) "(x)".toList ∧
      (line.expanded (method.binding ["a+b-3".toList]) line).text = "moveto a+b-3 ax".toList ∧
      "moveto a+b-3 ax".toList =
        stack.foldl (fun t mapping => parameters mapping t) line.text := by
  intro first second both outer method stack line
  have visible : VisibleValues first := visibleValues_of_entries (by decide)
  have visible' : VisibleValues second := visibleValues_of_entries (by decide)
  have typed : Passing outer := by
    constructor
    all_goals
      intro name value found
      have member := Dictionary.mem_of_get? found
      simp only [outer, List.mem_cons, Prod.mk.injEq, List.not_mem_nil, or_false] at member
    · rcases member with ⟨rfl, rfl⟩ | ⟨rfl, rfl⟩ <;> decide
    · rcases member with ⟨rfl, rfl⟩ | ⟨rfl, rfl⟩ <;> decide
  have called : CalledThrough stack (method.binding ["a+b-3".toList]) := by
    have read : Call.parse? "g(b-a)".toList = some ⟨"g".toList, ["b-a".toList]⟩ := by decide
    have expanded : Call.parse? (parameters outer "g(b-a)".toList) =
        some ⟨"g".toList, ["a+b-3".toList]⟩ := by decide
    exact .inner (.typed typed) read expanded (by decide) rfl (by simp [MentionsOwn])
  have own : MentionsOwn stack line.text := by
    simp only [MentionsOwn, stack]
    decide
  obtain ⟨twice, often, calls⟩ := nested_expansion_composes
  refine ⟨twice first second both _ visible ?_ ?_, often first [second] _ visible (by simpa), rfl,
    (calls _ _ called).2 line line own⟩
  · intro name value found
    have member := Dictionary.mem_of_get? found
    simp only [first, List.mem_cons, Prod.mk.injEq, List.not_mem_nil, or_false] at member
    rcases member with ⟨rfl, rfl⟩ | ⟨rfl, rfl⟩ <;> decide
  · intro name free
    simp only [Dictionary.get?, Dictionary.lookup, first, second, both] at free ⊢
    split at free
    · cases free
    next notX =>
      split at free
      · cases free
      next notY => rw [if_neg notX, if_neg notY, if_neg notX]

end Substitution

end Plotter
