import Mathlib.Data.List.DropRight
import Plotter.Text.Blank

/-!
# Runs and trimmed texts

Cutting a text into runs is cutting it at the front, again and again: a run that nothing extends
comes off as a whole, and a character outside the class comes off alone.  The two equations for
`runs` and the two for `pieces` say so, and everything else about words follows from them.

A text is trimmed when no blank stands at either end.  This is a property of its first and its
last character only, which is how it is seen to survive a replacement inside the text.
-/

namespace Plotter.Text

variable {inClass : Char → Bool}

/-! ### Runs -/

theorem runs_cons_of_not {c : Char} (outside : inClass c = false) (t : Text) :
    runs inClass (c :: t) = runs inClass t := by
  simp [runs, outside]

/-- A character of the class that nothing of the class follows is a run of its own. -/
private theorem runs_cons_alone {c : Char} {rest : Text} (inside : inClass c = true)
    (ends : ∀ next, rest.head? = some next → inClass next = false) :
    runs inClass (c :: rest) = [c] :: runs inClass rest := by
  cases rest with
  | nil => simp [runs, inside]
  | cons next rest =>
    have stops : inClass next = false := ends next rfl
    rw [runs_cons_of_not stops]
    conv_lhs => unfold runs
    rw [if_pos inside, runs_cons_of_not stops]
    cases runs inClass rest <;> simp [stops]

/-- A character of the class before a run joins it. -/
private theorem runs_cons_join {c next : Char} {rest first : Text} {later : List Text}
    (inside : inClass c = true) (goes : inClass next = true)
    (found : runs inClass (next :: rest) = first :: later) :
    runs inClass (c :: next :: rest) = (c :: first) :: later := by
  unfold runs
  rw [if_pos inside, found]
  simp [goes]

/-- A way of cutting that joins the characters of a run takes the run off as a whole. -/
private theorem append_of_join {cut : Text → List Text}
    (alone : ∀ {c : Char} {rest : Text}, inClass c = true →
      (∀ next, rest.head? = some next → inClass next = false) →
      cut (c :: rest) = [c] :: cut rest)
    (join : ∀ {c next : Char} {rest first : Text} {later : List Text}, inClass c = true →
      inClass next = true → cut (next :: rest) = first :: later →
      cut (c :: next :: rest) = (c :: first) :: later)
    {run rest : Text} (nonempty : run ≠ []) (inside : ∀ c ∈ run, inClass c = true)
    (ends : ∀ c, rest.head? = some c → inClass c = false) :
    cut (run ++ rest) = run :: cut rest := by
  induction run with
  | nil => exact absurd rfl nonempty
  | cons c run ih =>
    have first : inClass c = true := inside c (List.mem_cons_self ..)
    cases run with
    | nil => exact alone first ends
    | cons next run =>
      have second : inClass next = true := inside next (by simp)
      exact join first second
        (ih (by simp) fun d member => inside d (List.mem_cons_of_mem _ member))

/-- A run that nothing extends comes off as a whole. -/
theorem runs_append {run rest : Text} (nonempty : run ≠ []) (inside : ∀ c ∈ run, inClass c = true)
    (ends : ∀ c, rest.head? = some c → inClass c = false) :
    runs inClass (run ++ rest) = run :: runs inClass rest :=
  append_of_join runs_cons_alone runs_cons_join nonempty inside ends

/-- A text is the longest run at its front and a rest that does not go on with it. -/
theorem split_front (inClass : Char → Bool) (t : Text) :
    ∃ run rest, t = run ++ rest ∧ (∀ c ∈ run, inClass c = true) ∧
      ∀ c, rest.head? = some c → inClass c = false := by
  refine ⟨t.takeWhile inClass, t.dropWhile inClass, by simp, ?_, ?_⟩
  · intro c member
    exact List.all_eq_true.mp List.all_takeWhile c member
  · intro c found
    have stopped := List.head?_dropWhile_not inClass t
    rw [found] at stopped
    simpa using stopped

/-- Where a class ends is where a text is cut. -/
theorem span_append {front rest : Text} (inside : ∀ c ∈ front, inClass c = true)
    (ends : ∀ c, rest.head? = some c → inClass c = false) :
    (front ++ rest).takeWhile inClass = front ∧ (front ++ rest).dropWhile inClass = rest := by
  rw [List.takeWhile_append_of_pos inside, List.dropWhile_append_of_pos inside]
  cases rest with
  | nil => simp
  | cons c rest => simp [ends c rfl]

/-- Induction that takes a text apart at the front, as it is cut: a character outside the class,
or a run that nothing extends. -/
theorem run_induction (inClass : Char → Bool) {motive : Text → Prop} (nil : motive [])
    (outside : ∀ c rest, inClass c = false → motive rest → motive (c :: rest))
    (run : ∀ run rest, run ≠ [] → (∀ c ∈ run, inClass c = true) →
      (∀ c, rest.head? = some c → inClass c = false) → motive rest → motive (run ++ rest))
    (t : Text) : motive t := by
  induction size : t.length using Nat.strong_induction_on generalizing t with
  | _ n ih =>
    -- Whatever comes off at the front, the rest is shorter.
    obtain ⟨front, rest, rfl, inside, ends⟩ := split_front inClass t
    cases front with
    | nil =>
      cases rest with
      | nil => exact nil
      | cons c rest =>
        exact outside c rest (ends c rfl) (ih rest.length (by simp at size; omega) rest rfl)
    | cons c front =>
      exact run _ rest (by simp) inside ends (ih rest.length (by simp at size; omega) rest rfl)

/-- A way of cutting that takes runs and other characters off at the front may cut a text before any
character outside the class first. -/
private theorem append_of_outside {cut : Text → List Text} (none : cut [] = [])
    (outside : ∀ c, inClass c = false → ∃ before, ∀ t, cut (c :: t) = before ++ cut t)
    (run : ∀ {run rest : Text}, run ≠ [] → (∀ c ∈ run, inClass c = true) →
      (∀ c, rest.head? = some c → inClass c = false) → cut (run ++ rest) = run :: cut rest)
    (front : Text) {rest : Text} (ends : ∀ c, rest.head? = some c → inClass c = false) :
    cut (front ++ rest) = cut front ++ cut rest := by
  induction front using run_induction inClass with
  | nil => rw [none, List.nil_append, List.nil_append]
  | outside c front out ih =>
    obtain ⟨before, off⟩ := outside c out
    rw [List.cons_append, off, off, ih, List.append_assoc]
  | run first front nonempty inside ends' ih =>
    rw [run nonempty inside ends', List.append_assoc, List.cons_append, ← ih]
    apply run nonempty inside
    -- What follows the run is the rest of the front, if there is any.
    intro c found
    cases front with
    | nil => exact ends c found
    | cons d front => exact ends' c found

/-- The runs of a text that is cut before a character outside the class. -/
theorem runs_append_of_outside (front : Text) {rest : Text}
    (ends : ∀ c, rest.head? = some c → inClass c = false) :
    runs inClass (front ++ rest) = runs inClass front ++ runs inClass rest :=
  append_of_outside rfl (fun _ out => ⟨[], runs_cons_of_not out⟩) runs_append front ends

/-- Every run is a nonempty row of characters in the class. -/
theorem mem_runs {t run : Text} (member : run ∈ runs inClass t) :
    run ≠ [] ∧ ∀ c ∈ run, inClass c = true := by
  induction t using run_induction inClass with
  | nil => simp [runs] at member
  | outside c rest out ih => exact ih (by rwa [runs_cons_of_not out] at member)
  | run front rest nonempty inside ends ih =>
    rw [runs_append nonempty inside ends] at member
    rcases List.mem_cons.mp member with rfl | later
    · exact ⟨nonempty, inside⟩
    · exact ih later

/-- The runs of a text are made of its characters. -/
theorem mem_of_mem_runs {t run : Text} (member : run ∈ runs inClass t) : ∀ c ∈ run, c ∈ t := by
  induction t using run_induction inClass with
  | nil => simp [runs] at member
  | outside c rest out ih =>
    intro d found
    exact List.mem_cons_of_mem _ (ih (by rwa [runs_cons_of_not out] at member) d found)
  | run front rest nonempty inside ends ih =>
    rw [runs_append nonempty inside ends] at member
    intro d found
    rcases List.mem_cons.mp member with rfl | later
    · exact List.mem_append_left _ found
    · exact List.mem_append_right _ (ih later d found)

/-! ### Words -/

/-- A nonempty text without blanks. -/
def isVisible (t : Text) : Bool := !t.isEmpty && t.all fun c => !isBlank c

theorem isVisible_iff {t : Text} : t.isVisible = true ↔ t ≠ [] ∧ ∀ c ∈ t, isBlank c = false := by
  simp [isVisible]

/-- A text of blanks only, or nothing at all. -/
def IsGap (t : Text) : Prop := ∀ c ∈ t, isBlank c = true

instance (t : Text) : Decidable t.IsGap := List.decidableBAll _ t

/-- What a gap can be cut off from starts with a blank or where the gap ends. -/
theorem head?_gap_append {P : Char → Prop} {gap rest : Text} (blank : gap.IsGap)
    (ofBlank : ∀ c, isBlank c = true → P c) (first : ∀ c, rest.head? = some c → P c) :
    ∀ c, (gap ++ rest).head? = some c → P c := by
  intro c found
  cases gap with
  | nil => exact first c found
  | cons d gap =>
    cases found
    exact ofBlank c (blank c (List.mem_cons_self ..))

theorem trimStart_gap_append {gap rest : Text} (blank : gap.IsGap)
    (ends : ∀ c, rest.head? = some c → isBlank c = false) : trimStart (gap ++ rest) = rest :=
  (span_append blank ends).2

/-- What is trimmed off at the start is a gap. -/
theorem exists_gap_trimStart (t : Text) : ∃ gap : Text, gap.IsGap ∧ t = gap ++ trimStart t :=
  ⟨t.takeWhile isBlank, fun _ => List.mem_takeWhile_imp, by
    rw [trimStart, List.takeWhile_append_dropWhile]⟩

/-- A visible text before a blank is a word. -/
theorem words_append {word rest : Text} (visible : word.isVisible = true)
    (ends : ∀ c, rest.head? = some c → isBlank c = true) :
    words (word ++ rest) = word :: words rest := by
  obtain ⟨nonempty, shown⟩ := isVisible_iff.mp visible
  refine runs_append nonempty ?_ ?_
  · simpa using shown
  · simpa using ends

/-- What is visible at the front of a text is part of its first word. -/
theorem words_of_front {front : Text} (visible : front.isVisible = true) (rest : Text) :
    ∃ more later, words (front ++ rest) = (front ++ more) :: later ∧
      ∀ c, rest.head? = some c → isBlank c = false → c ∈ more := by
  -- The word goes on up to the first blank of the rest.
  obtain ⟨more, beyond, rfl, shown, ends⟩ := split_front (fun c => !isBlank c) rest
  obtain ⟨nonempty, inFront⟩ := isVisible_iff.mp visible
  have whole : (front ++ more).isVisible = true := by
    refine isVisible_iff.mpr ⟨by simp [nonempty], fun c member => ?_⟩
    rcases List.mem_append.mp member with early | late
    · exact inFront c early
    · simpa using shown c late
  refine ⟨more, words beyond, ?_, ?_⟩
  · rw [← List.append_assoc]
    exact words_append whole (by simpa using ends)
  · intro c first nonblank
    cases more with
    | nil => simpa [nonblank] using ends c first
    | cons head more => simp_all

/-! ### Pieces -/

theorem pieces_cons_of_not {c : Char} (outside : inClass c = false) (t : Text) :
    pieces inClass (c :: t) = [c] :: pieces inClass t := by
  simp [pieces, outside]

private theorem pieces_cons_alone {c : Char} {rest : Text} (inside : inClass c = true)
    (ends : ∀ next, rest.head? = some next → inClass next = false) :
    pieces inClass (c :: rest) = [c] :: pieces inClass rest := by
  cases rest with
  | nil => simp [pieces, inside]
  | cons next rest => simp [pieces, inside, ends next rfl]

private theorem pieces_cons_join {c next : Char} {rest first : Text} {later : List Text}
    (inside : inClass c = true) (goes : inClass next = true)
    (found : pieces inClass (next :: rest) = first :: later) :
    pieces inClass (c :: next :: rest) = (c :: first) :: later := by
  unfold pieces
  rw [if_pos inside, found]
  simp [goes]

/-- A run that nothing extends is a piece of its own. -/
theorem pieces_append {run rest : Text} (nonempty : run ≠ [])
    (inside : ∀ c ∈ run, inClass c = true)
    (ends : ∀ c, rest.head? = some c → inClass c = false) :
    pieces inClass (run ++ rest) = run :: pieces inClass rest :=
  append_of_join pieces_cons_alone pieces_cons_join nonempty inside ends

/-- A text may be cut before any character outside the class. -/
theorem pieces_append_of_outside (front : Text) {rest : Text}
    (ends : ∀ c, rest.head? = some c → inClass c = false) :
    pieces inClass (front ++ rest) = pieces inClass front ++ pieces inClass rest :=
  append_of_outside rfl (fun c out => ⟨[[c]], pieces_cons_of_not out⟩) pieces_append front ends

/-! ### Cuts -/

/-- A row of characters of the class, with one of them at least. -/
def IsRun (inClass : Char → Bool) (piece : Text) : Prop :=
  piece ≠ [] ∧ ∀ c ∈ piece, inClass c = true

/-- A text that is cut into runs of the class, none of which goes on in the next piece, and the
characters between them one by one. -/
structure IsCut (inClass : Char → Bool) (cut : List Text) (t : Text) : Prop where
  whole : cut.flatten = t
  each : ∀ piece ∈ cut, IsRun inClass piece ∨ ∃ c, inClass c = false ∧ piece = [c]
  maximal : cut.IsChain fun left right => ¬(IsRun inClass left ∧ IsRun inClass right)

theorem not_isRun_singleton {c : Char} (outside : inClass c = false) : ¬IsRun inClass [c] := by
  intro run
  rw [run.2 c (List.mem_cons_self ..)] at outside
  cases outside

/-- The first character of a cut text belongs to a run exactly if the first piece is one. -/
private theorem IsCut.head_iff {piece t : Text} {cut : List Text}
    (isCut : IsCut inClass (piece :: cut) t) :
    ∃ c, t.head? = some c ∧ (inClass c = true ↔ IsRun inClass piece) := by
  obtain ⟨rfl, each, _⟩ := isCut
  rcases each piece (List.mem_cons_self ..) with run | ⟨c, outside, rfl⟩
  · obtain ⟨c, row, rfl⟩ := List.exists_cons_of_ne_nil run.1
    exact ⟨c, rfl, fun _ => run, fun _ => run.2 c (List.mem_cons_self ..)⟩
  · exact ⟨c, rfl, by simp [outside], fun run => absurd run (not_isRun_singleton outside)⟩

private theorem eq_pieces_of_isCut {cut : List Text} {t : Text} (isCut : IsCut inClass cut t) :
    cut = pieces inClass t := by
  induction cut generalizing t with
  | nil =>
    obtain ⟨rfl, _, _⟩ := isCut
    rfl
  | cons piece cut ih =>
    obtain ⟨rfl, each, maximal⟩ := isCut
    obtain ⟨first, others⟩ := List.forall_mem_cons.mp each
    have rest : IsCut inClass cut cut.flatten :=
      ⟨rfl, others, List.isChain_of_isChain_cons maximal⟩
    rcases first with run | ⟨c, outside, rfl⟩
    · have ends : ∀ c, cut.flatten.head? = some c → inClass c = false := by
        intro c head
        cases cut with
        | nil => cases head
        | cons next cut =>
          obtain ⟨d, head', inRun⟩ := rest.head_iff
          obtain rfl : d = c := Option.some_inj.mp (head'.symm.trans head)
          have apart := (List.isChain_cons_cons.mp maximal).1
          exact Bool.eq_false_iff.mpr fun inside => apart ⟨run, inRun.mp inside⟩
      rw [List.flatten_cons, pieces_append run.1 run.2 ends, ← ih rest]
    · rw [List.flatten_cons, List.singleton_append, pieces_cons_of_not outside, ← ih rest]

private theorem isCut_pieces (inClass : Char → Bool) (t : Text) :
    IsCut inClass (pieces inClass t) t := by
  refine ⟨flatten_pieces inClass t, ?_, ?_⟩
  · induction t using run_induction inClass with
    | nil => simp [pieces]
    | outside c rest out ih =>
      rw [pieces_cons_of_not out]
      exact List.forall_mem_cons.mpr ⟨Or.inr ⟨c, out, rfl⟩, ih⟩
    | run front rest nonempty inside ends ih =>
      rw [pieces_append nonempty inside ends]
      exact List.forall_mem_cons.mpr ⟨Or.inl ⟨nonempty, inside⟩, ih⟩
  · induction t using run_induction inClass with
    | nil => exact .nil
    | outside c rest out ih =>
      rw [pieces_cons_of_not out]
      cases found : pieces inClass rest with
      | nil => exact .singleton _
      | cons next cut =>
        exact .cons_cons (fun runs => not_isRun_singleton out runs.1) (found ▸ ih)
    | run front rest nonempty inside ends ih =>
      rw [pieces_append nonempty inside ends]
      have joined := flatten_pieces inClass rest
      cases found : pieces inClass rest with
      | nil => exact .singleton _
      | cons next cut =>
        rw [found] at ih joined
        refine .cons_cons (fun runs => ?_) ih
        -- The next piece starts where the run ends.
        obtain ⟨c, row, rfl⟩ := List.exists_cons_of_ne_nil runs.2.1
        have inNext := runs.2.2 c (List.mem_cons_self ..)
        rw [ends c (by rw [← joined]; rfl)] at inNext
        cases inNext

/-- The pieces of a text are the one way to cut it into runs that nothing extends and the characters
between them. -/
theorem isCut_iff {cut : List Text} {t : Text} :
    IsCut inClass cut t ↔ cut = pieces inClass t :=
  ⟨eq_pieces_of_isCut, fun same => same ▸ isCut_pieces inClass t⟩

/-! ### Trimmed texts -/

theorem trimEnd_eq_rdropWhile (t : Text) : trimEnd t = t.rdropWhile isBlank := by
  induction t with
  | nil => rfl
  | cons c rest ih =>
    rw [trimEnd, ih]
    simp only [List.rdropWhile, List.reverse_cons, List.dropWhile_append, List.isEmpty_iff]
    -- The first character is dropped only when nothing is left behind it.
    cases kept : rest.reverse.dropWhile isBlank with
    | nil => by_cases blank : isBlank c = true <;> simp [blank]
    | cons last before => simp

/-- Cutting at the end leaves the first character where it is. -/
theorem head?_trimEnd {t : Text} {c : Char} (first : (trimEnd t).head? = some c) :
    t.head? = some c := by
  obtain ⟨cut, whole⟩ := List.rdropWhile_prefix isBlank (l := t)
  rw [trimEnd_eq_rdropWhile] at first
  rw [← whole, List.head?_append, first]
  rfl

/-- Nothing is cut off from a visible text, whatever is cut off behind it. -/
theorem trimEnd_append {front : Text} (shown : ∀ c ∈ front, isBlank c = false) (rest : Text) :
    trimEnd (front ++ rest) = front ++ trimEnd rest := by
  induction front with
  | nil => rfl
  | cons c front ih =>
    obtain ⟨visible, others⟩ := List.forall_mem_cons.mp shown
    rw [List.cons_append, trimEnd, ih others, List.cons_append]
    cases front ++ trimEnd rest with
    | nil => simp [visible]
    | cons d kept => rfl

/-- What is trimmed off at the end is a gap. -/
theorem exists_gap_trimEnd (t : Text) : ∃ gap : Text, gap.IsGap ∧ t = trimEnd t ++ gap := by
  refine ⟨t.rtakeWhile isBlank, fun c => List.mem_rtakeWhile_imp, ?_⟩
  rw [trimEnd_eq_rdropWhile, List.rdropWhile_append_rtakeWhile]

private theorem head?_trim {t : Text} {c : Char} (first : (trim t).head? = some c) :
    isBlank c = false := by
  have stopped := List.head?_dropWhile_not isBlank t
  rw [show (t.dropWhile isBlank).head? = some c from head?_trimEnd first] at stopped
  simpa using stopped

private theorem getLast?_trim {t : Text} {c : Char} (last : (trim t).getLast? = some c) :
    isBlank c = false := by
  rw [trim, trimEnd_eq_rdropWhile] at last
  have nonempty : (trimStart t).rdropWhile isBlank ≠ [] := by
    intro empty
    simp [empty] at last
  have stopped := List.rdropWhile_last_not isBlank (trimStart t) nonempty
  rw [List.getLast?_eq_some_getLast nonempty, Option.some_inj] at last
  simpa [last] using stopped

/-- A text is trimmed when it neither starts nor ends with a blank. -/
theorem trim_eq_self_iff {t : Text} :
    trim t = t ↔
      (∀ c, t.head? = some c → isBlank c = false) ∧
        ∀ c, t.getLast? = some c → isBlank c = false := by
  constructor
  · intro trimmed
    rw [← trimmed]
    exact ⟨fun _ => head?_trim, fun _ => getLast?_trim⟩
  · rintro ⟨first, last⟩
    have start : trimStart t = t := by
      cases t with
      | nil => rfl
      | cons c rest => simp [trimStart, first c rfl]
    rw [trim, start, trimEnd_eq_rdropWhile, List.rdropWhile_eq_self_iff]
    intro nonempty
    simp [last _ (List.getLast?_eq_some_getLast nonempty)]

theorem trim_trim (t : Text) : trim (trim t) = trim t :=
  trim_eq_self_iff.mpr ⟨fun _ => head?_trim, fun _ => getLast?_trim⟩

/-! ### Words one space apart -/

section Unwords

variable {ws : List Text}

theorem unwords_cons_cons (first next : Text) (rest : List Text) :
    unwords (first :: next :: rest) = first ++ ' ' :: unwords (next :: rest) := by
  simp [unwords, join]

/-- Words that are written one space apart are read back. -/
theorem words_unwords (visible : ∀ w ∈ ws, w.isVisible = true) : words (unwords ws) = ws := by
  induction ws with
  | nil => rfl
  | cons first rest ih =>
    obtain ⟨here, later⟩ := List.forall_mem_cons.mp visible
    cases rest with
    | nil =>
      have alone : words (first ++ []) = [first] := words_append here (by simp)
      rwa [List.append_nil] at alone
    | cons next rest =>
      have apart : ∀ c, (' ' :: unwords (next :: rest)).head? = some c → isBlank c = true := by
        rintro _ ⟨⟩
        rfl
      have skipped : words (' ' :: unwords (next :: rest)) = words (unwords (next :: rest)) :=
        runs_cons_of_not rfl _
      rw [unwords_cons_cons, words_append here apart, skipped, ih later]

private theorem getLast?_unwords (visible : ∀ w ∈ ws, w.isVisible = true) {c : Char}
    (last : (unwords ws).getLast? = some c) : isBlank c = false := by
  induction ws with
  | nil => cases last
  | cons first rest ih =>
    obtain ⟨here, later⟩ := List.forall_mem_cons.mp visible
    cases rest with
    | nil => exact (isVisible_iff.mp here).2 c (List.mem_of_getLast? last)
    | cons next rest =>
      have nonempty : unwords (next :: rest) ≠ [] := by
        intro empty
        have read := words_unwords later
        rw [empty] at read
        cases read
      rw [unwords_cons_cons, List.append_cons, List.getLast?_append_of_ne_nil _ nonempty] at last
      exact ih later last

theorem trim_unwords (visible : ∀ w ∈ ws, w.isVisible = true) : trim (unwords ws) = unwords ws := by
  refine trim_eq_self_iff.mpr ⟨fun c found => ?_, fun c => getLast?_unwords visible⟩
  cases ws with
  | nil => cases found
  | cons first rest =>
    obtain ⟨nonempty, shown⟩ := isVisible_iff.mp (visible first (List.mem_cons_self ..))
    refine shown c (List.mem_of_mem_head? ?_)
    cases rest with
    | nil => exact found
    | cons next rest =>
      rwa [unwords_cons_cons, List.head?_append_of_ne_nil _ nonempty] at found

end Unwords

end Plotter.Text
