import Plotter.Proofs.Script.Statement

/-!
# How headers and calls are written

The reader of a call takes letters as long as there are any, trims, looks for parentheses and cuts
what they enclose.  The form of a call is said here without any of this: a name, a gap, and a list
in parentheses, where a list is what separators and items make when they follow one another and no
item goes on behind its end.  A header has a word in front that spells `method`, and its parentheses
may be left out.

## Main result

`calls_and_headers_read_exactly`: a trimmed text is read as a call or as a header exactly when it has
the form of one, and a list that is written with any separators is read back.

## Proof strategy

The form determines where the reader stops, part by part: a class of characters ends where the text
is cut (`Text.span_append`).  For lists, the induction follows the items (`items_eq_iff`).
-/

namespace Plotter

/-! ### Trimming a text with a visible start -/

namespace Text

/-- Only the last part that is not blank is trimmed at its end. -/
theorem trimEnd_append_of_ne_nil (front : Text) {rest : Text} (goesOn : trimEnd rest ≠ []) :
    trimEnd (front ++ rest) = front ++ trimEnd rest := by
  induction front with
  | nil => rfl
  | cons c front ih =>
    rw [List.cons_append, trimEnd, ih]
    cases whole : front ++ trimEnd rest with
    | nil => exact absurd (List.append_eq_nil_iff.mp whole).2 goesOn
    | cons d kept => rw [List.cons_append, whole]

theorem isBlank_of_isLetter {c : Char} (letter : isLetter c = true) : isBlank c = false :=
  Substitution.isBlank_of_isRunChar (Substitution.isRunChar_of_isLetter letter)

/-- What starts with a letter is trimmed at its end only. -/
theorem trim_of_letter {t : Text} {c : Char} (first : t.head? = some c)
    (letter : isLetter c = true) : trim t = trimEnd t := by
  cases t with
  | nil => cases first
  | cons d rest =>
    cases first
    rw [trim, trimStart, List.dropWhile_cons_of_neg ?_]
    simp [isBlank_of_isLetter letter]

/-- Nothing is trimmed off behind a parenthesis. -/
theorem trimEnd_of_closing {t : Text} (front : Text) (whole : t = front ++ [')']) :
    trimEnd t = t := by
  rw [whole, trimEnd_append_of_ne_nil front (by decide)]
  rfl

end Text

namespace Signature

/-! ### Lists -/

/-- A text of commas and blanks only, or nothing at all. -/
def IsSeparator (t : Text) : Prop := ∀ c ∈ t, isItemChar c = false

instance (t : Text) : Decidable (IsSeparator t) :=
  List.decidableBAll _ t

/-- A text lists items: separators stand in front of the items and behind the last one, and every
item goes on as far as its characters do. -/
inductive Lists : Text → List Text → Prop
  | closing {separator : Text} (separates : IsSeparator separator) : Lists separator []
  | item {separator item rest : Text} {later : List Text} (separates : IsSeparator separator)
      (nonempty : item ≠ []) (inside : ∀ c ∈ item, isItemChar c = true)
      (ends : ∀ c, rest.head? = some c → isItemChar c = false) (others : Lists rest later) :
      Lists (separator ++ (item ++ rest)) (item :: later)

theorem Lists.cons {c : Char} {t : Text} {list : List Text} (out : isItemChar c = false)
    (lists : Lists t list) : Lists (c :: t) list := by
  cases lists with
  | closing separates => exact .closing (List.forall_mem_cons.mpr ⟨out, separates⟩)
  | item separates nonempty inside ends others =>
    rw [← List.cons_append]
    exact .item (List.forall_mem_cons.mpr ⟨out, separates⟩) nonempty inside ends others

theorem items_separator_append {separator : Text} (separates : IsSeparator separator) (t : Text) :
    items (separator ++ t) = items t := by
  induction separator with
  | nil => rfl
  | cons c separator ih =>
    obtain ⟨out, later⟩ := List.forall_mem_cons.mp separates
    rw [List.cons_append, items, Text.runs_cons_of_not out]
    exact ih later

/-- The items that are read are those that the text lists. -/
theorem items_eq_iff {t : Text} {list : List Text} : items t = list ↔ Lists t list := by
  constructor
  · rintro rfl
    induction t using Text.run_induction isItemChar with
    | nil => exact .closing (List.forall_mem_nil _)
    | outside c rest out ih =>
      rw [items, Text.runs_cons_of_not out]
      exact ih.cons out
    | run item rest nonempty inside ends ih =>
      rw [items, Text.runs_append nonempty inside ends]
      -- Nothing is left in front of the item: a separator there has gone with the case before.
      have separates : IsSeparator [] := List.forall_mem_nil _
      exact .item separates nonempty inside ends ih
  · intro lists
    induction lists with
    | @closing separator separates =>
      rw [← List.append_nil separator, items_separator_append separates]
      rfl
    | item separates nonempty inside ends others ih =>
      rw [items_separator_append separates, items, Text.runs_append nonempty inside ends, ← ih]
      rfl

/-- A gap at the end of a list belongs to the separator there. -/
theorem Lists.trimEnd {t : Text} {list : List Text} (lists : Lists t list) :
    Lists (Text.trimEnd t) list := by
  obtain ⟨gap, blank, whole⟩ := Text.exists_gap_trimEnd t
  have separates : IsSeparator gap := fun c member => by simp [isItemChar, blank c member]
  rw [← items_eq_iff, whole, items, Text.runs_append_of_outside] at lists
  · rw [← items_eq_iff, ← lists, ← List.append_nil gap]
    have none : Text.runs isItemChar (gap ++ []) = [] := items_separator_append separates []
    rw [none, List.append_nil]
    rfl
  · exact fun c first => separates c (List.mem_of_head? first)

/-! ### Lists as they are printed -/

/-- Items, each behind its separator, and the separator that closes the list. -/
def listing (closing : Text) : List (Text × Text) → Text
  | [] => closing
  | (separator, item) :: later => separator ++ (item ++ listing closing later)

/-- The separators of a list: between two items there is one, in front of the first item and behind
the last one it may be empty. -/
structure Separated (closing : Text) (entries : List (Text × Text)) : Prop where
  separates : ∀ entry ∈ entries, IsSeparator entry.1
  between : ∀ entry ∈ entries.tail, entry.1 ≠ []
  closing : IsSeparator closing

/-- A list with a separator in front of its first item goes on with no item. -/
theorem head?_listing {closing : Text} {entries : List (Text × Text)}
    (separated : Separated closing entries)
    (apart : ∀ entry, entries.head? = some entry → entry.1 ≠ []) :
    ∀ c, (listing closing entries).head? = some c → isItemChar c = false := by
  intro c first
  cases entries with
  | nil => exact separated.closing c (List.mem_of_head? first)
  | cons entry later =>
    obtain ⟨d, separator, start⟩ := List.exists_cons_of_ne_nil (apart entry rfl)
    rw [listing, start] at first
    cases first
    exact separated.separates entry (List.mem_cons_self ..) c (start ▸ List.mem_cons_self ..)

theorem Separated.tail {closing : Text} {entry : Text × Text} {later : List (Text × Text)}
    (separated : Separated closing (entry :: later)) : Separated closing later where
  separates := (List.forall_mem_cons.mp separated.separates).2
  between next member := separated.between next (List.mem_of_mem_tail member)
  closing := separated.closing

/-- Any mix of commas and blanks will do. -/
theorem lists_listing {closing : Text} {entries : List (Text × Text)}
    (separated : Separated closing entries)
    (passable : ∀ item ∈ entries.map Prod.snd, item.Passable) :
    Lists (listing closing entries) (entries.map Prod.snd) := by
  induction entries with
  | nil => exact .closing separated.closing
  | cons entry later ih =>
    obtain ⟨item, items⟩ := List.forall_mem_cons.mp passable
    refine .item (separated.separates entry (List.mem_cons_self ..)) item.nonempty item.item ?_
      (ih separated.tail items)
    exact head?_listing separated.tail fun next first =>
      separated.between next (List.mem_of_head? first)

/-- Neither separators nor items hold parentheses. -/
theorem bare_listing {closing : Text} {entries : List (Text × Text)}
    (separated : Separated closing entries)
    (passable : ∀ item ∈ entries.map Prod.snd, item.Passable) :
    ∀ c ∈ listing closing entries, isParenthesis c = false := by
  have bare : ∀ separator, IsSeparator separator → ∀ c ∈ separator, isParenthesis c = false := by
    intro separator separates c member
    by_contra encloses
    have out := separates c member
    simp only [isParenthesis, Bool.not_eq_false, Bool.or_eq_true, beq_iff_eq] at encloses
    rcases encloses with rfl | rfl <;> cases out
  induction entries with
  | nil => exact bare closing separated.closing
  | cons entry later ih =>
    obtain ⟨item, items⟩ := List.forall_mem_cons.mp passable
    have separates := separated.separates entry (List.mem_cons_self ..)
    rw [listing, List.forall_mem_append, List.forall_mem_append]
    exact ⟨bare _ separates, item.bare, ih separated.tail items⟩

end Signature

open Signature

/-! ### Calls -/

/-- A call as it is written. -/
inductive Call.WrittenAs : Call → Text → Prop
  | call {name gap inner : Text} {arguments : List Text} (named : isName name = true)
      (blank : gap.IsGap) (bare : ∀ c ∈ inner, isParenthesis c = false)
      (listed : Lists inner arguments) :
      WrittenAs ⟨name, arguments⟩ (name ++ (gap ++ '(' :: (inner ++ [')'])))

/-- In a trimmed text no line feed follows the parenthesis at the end. -/
theorem Signature.enclosed_of_trimmed {front t inner : Text}
    (trimmed : Text.trim (front ++ t) = front ++ t) (enclosed : parenthesised? t = some inner) :
    (∀ c ∈ inner, isParenthesis c = false) ∧ t = '(' :: (inner ++ [')']) := by
  obtain ⟨bare, tail, ends, rfl⟩ := parenthesised?_eq_some_iff.mp enclosed
  rcases ends with rfl | rfl
  · exact ⟨bare, rfl⟩
  · have last := (Text.trim_eq_self_iff.mp trimmed).2 '\n'
      (by simp [List.getLast?_append, List.getLast?_cons])
    cases last

theorem Call.WrittenAs.trimmed {invocation : Call} {t : Text} (written : invocation.WrittenAs t) :
    Text.trim t = t := by
  obtain ⟨named, blank, bare, listed⟩ := written
  rename_i name gap inner arguments
  obtain ⟨nonempty, letters, _⟩ := isName_iff.mp named
  obtain ⟨c, more, rfl⟩ := List.exists_cons_of_ne_nil nonempty
  rw [Text.trim_of_letter (c := c) rfl (letters c (List.mem_cons_self ..))]
  exact Text.trimEnd_of_closing ((c :: more) ++ (gap ++ '(' :: inner)) (by simp)

theorem Signature.parenthesised?_of_bare {inner : Text}
    (bare : ∀ c ∈ inner, isParenthesis c = false) :
    parenthesised? ('(' :: (inner ++ [')'])) = some inner :=
  parenthesised?_eq_some_iff.mpr ⟨bare, [], Or.inl rfl, rfl⟩

/-- Letters end where a gap or a parenthesis starts. -/
private theorem ends_of_gap {gap rest : Text} (blank : gap.IsGap) :
    ∀ c, (gap ++ '(' :: rest).head? = some c → Text.isLetter c = false := by
  refine Text.head?_gap_append blank (fun c isBlank => ?_) ?_
  · by_contra letter
    rw [Text.isBlank_of_isLetter (by simpa using letter)] at isBlank
    cases isBlank
  · rintro _ ⟨⟩
    rfl

/-- A trimmed text is read as a call exactly when it is written as one. -/
theorem Call.parse?_eq_some_iff_of_trimmed {t : Text} (trimmed : Text.trim t = t)
    {invocation : Call} : Call.parse? t = some invocation ↔ invocation.WrittenAs t := by
  constructor
  · intro parsed
    obtain ⟨name, arguments⟩ := invocation
    obtain ⟨front, nonempty, free, inner, enclosed, listed⟩ := Call.parse?_eq_some_iff.mp parsed
    obtain ⟨gap, blank, cut⟩ := Text.exists_gap_trimStart (t.dropWhile Text.isLetter)
    have whole : t = (name ++ gap) ++ Text.trimStart (t.dropWhile Text.isLetter) := by
      rw [List.append_assoc, ← cut, show name = _ from front, List.takeWhile_append_dropWhile]
    obtain ⟨bare, shape⟩ := enclosed_of_trimmed (whole ▸ trimmed) enclosed
    have letters : ∀ c ∈ name, Text.isLetter c = true := by
      rw [show name = _ from front]
      exact fun c member => List.mem_takeWhile_imp member
    rw [whole, shape, List.append_assoc]
    exact .call (isName_iff.mpr ⟨nonempty, letters, free⟩) blank bare (items_eq_iff.mp listed.symm)
  · rintro ⟨named, blank, bare, listed⟩
    obtain ⟨nonempty, letters, free⟩ := isName_iff.mp named
    obtain ⟨taken, dropped⟩ := Text.span_append letters (ends_of_gap blank)
    refine Call.parse?_eq_some_iff.mpr
      ⟨taken.symm, nonempty, free, _, ?_, (items_eq_iff.mpr listed).symm⟩
    · rw [dropped, Text.trimStart_gap_append blank, parenthesised?_of_bare bare]
      rintro _ ⟨⟩
      rfl

/-! ### Headers -/

/-- The parameters of a header as they are written: in parentheses, or as a rest that has none. -/
inductive Header.ParametersAs : Text → Text → Prop
  | enclosed {gap inner : Text} (blank : gap.IsGap) (bare : ∀ c ∈ inner, isParenthesis c = false) :
      ParametersAs inner (gap ++ '(' :: (inner ++ [')']))
  | rest {inner : Text} (bare : ∀ c ∈ inner, isParenthesis c = false) : ParametersAs inner inner

/-- A header as it is written.  Its name is not cut short. -/
inductive Header.WrittenAs : Header → Text → Prop
  | header {word gap name inner rest : Text} {parameters : List Text}
      (spelled : word.map Char.toLower = "method".toList) (blank : gap.IsGap) (apart : gap ≠ [])
      (named : isName name = true) (ends : ∀ c, rest.head? = some c → Text.isLetter c = false)
      (list : ParametersAs inner rest) (listed : Lists inner parameters)
      (names : ∀ p ∈ parameters, isName p = true) (distinct : parameters.Nodup) :
      WrittenAs ⟨name, parameters⟩ (word ++ (gap ++ (name ++ rest)))

namespace Header

/-- What the keyword of a header is cut off from. -/
theorem afterKeyword?_eq_some_iff {t rest : Text} :
    afterKeyword? t = some rest ↔
      (∀ c, rest.head? = some c → Text.isBlank c = false) ∧
        ∃ word gap : Text, word.map Char.toLower = "method".toList ∧ gap.IsGap ∧ gap ≠ [] ∧
          t = word ++ (gap ++ rest) := by
  constructor
  · intro cut
    simp only [afterKeyword?] at cut
    split at cut
    next keyword =>
      simp only [Bool.and_eq_true, beq_iff_eq, Option.any_eq_true] at keyword
      obtain ⟨lowered, c, first, blank⟩ := keyword
      obtain ⟨behind, start⟩ : ∃ behind, t.drop 6 = c :: behind := List.head?_eq_some_iff.mp first
      obtain ⟨gap, isGap, whole⟩ := Text.exists_gap_trimStart behind
      have trimmed : Text.trimStart (t.drop 6) = Text.trimStart behind := by
        rw [start, Text.trimStart, List.dropWhile_cons_of_pos blank]
        rfl
      rw [trimmed] at cut
      cases cut
      refine ⟨fun d found => ?_, t.take 6, c :: gap, ?_, ?_, List.cons_ne_nil _ _, ?_⟩
      · have stopped := List.head?_dropWhile_not Text.isBlank behind
        rw [show (behind.dropWhile Text.isBlank).head? = some d from found] at stopped
        simpa using stopped
      · exact (Keyword.lower_eq_word_iff (k := .opening .method)).mp lowered
      · exact List.forall_mem_cons.mpr ⟨blank, isGap⟩
      · rw [List.cons_append, ← whole, ← start, List.take_append_drop]
    · cases cut
  · rintro ⟨shown, word, gap, spelled, blank, apart, rfl⟩
    have lowered : Text.lower word = "method".toList :=
      (Keyword.lower_eq_word_iff (k := .opening .method)).mpr spelled
    have six : word.length = 6 := by
      rw [← List.length_map Char.toLower, spelled]
      rfl
    obtain ⟨c, gap', rfl⟩ := List.exists_cons_of_ne_nil apart
    simp only [afterKeyword?, List.take_left' six, List.drop_left' six, lowered]
    rw [if_pos (by simp [blank c (List.mem_cons_self ..)]), Text.trimStart_gap_append blank shown]

/-- The list of a trimmed header. -/
theorem parameterText?_eq_some_iff {front rest inner : Text}
    (trimmed : Text.trim (front ++ rest) = front ++ rest) :
    parameterText? rest = some inner ↔ ParametersAs inner rest := by
  constructor
  · intro found
    simp only [parameterText?] at found
    split at found
    next inner' enclosed =>
      cases found
      obtain ⟨gap, blank, whole⟩ := Text.exists_gap_trimStart rest
      rw [whole, ← List.append_assoc] at trimmed
      obtain ⟨bare, shape⟩ := enclosed_of_trimmed trimmed enclosed
      rw [whole, shape]
      exact .enclosed blank bare
    next =>
      split at found
      · cases found
      next bare =>
        cases found
        exact .rest (by simpa using bare)
  · rintro (⟨blank, bare⟩ | bare)
    · have shown : ∀ c, ('(' :: (inner ++ [')'])).head? = some c → Text.isBlank c = false := by
        rintro _ ⟨⟩
        rfl
      rw [parameterText?, Text.trimStart_gap_append blank shown, parenthesised?_of_bare bare]
    · have none : parenthesised? (Text.trimStart rest) = none := by
        refine Option.eq_none_iff_forall_ne_some.mpr fun inner enclosed => ?_
        obtain ⟨_, tail, _, shape⟩ := parenthesised?_eq_some_iff.mp enclosed
        have member : '(' ∈ rest :=
          List.dropWhile_subset Text.isBlank (show '(' ∈ Text.trimStart rest by simp [shape])
        cases bare '(' member
      have free : rest.any isParenthesis = false := by simpa using bare
      simp [parameterText?, none, free]

/-- A trimmed text is read as a header exactly when it is written as one. -/
theorem parse?_eq_some_iff_of_trimmed {t : Text} (trimmed : Text.trim t = t) {header : Header} :
    Header.parse? t = some header ↔ header.WrittenAs t := by
  simp only [parse?, Option.bind_eq_bind, Option.bind_eq_some_iff]
  constructor
  · rintro ⟨behind, key, inner, list, accepted⟩
    obtain ⟨_, word, gap, spelled, blank, apart, rfl⟩ := afterKeyword?_eq_some_iff.mp key
    split at accepted
    next wellNamed =>
      cases accepted
      simp only [Bool.and_eq_true, List.all_eq_true] at wellNamed
      obtain ⟨name, rest, cut, letters, ends⟩ := Text.split_front Text.isLetter behind
      obtain ⟨taken, dropped⟩ := Text.span_append letters ends
      rw [cut, dropped] at list
      rw [cut, taken] at wellNamed ⊢
      have shape : word ++ (gap ++ (name ++ rest)) = (word ++ (gap ++ name)) ++ rest := by simp
      rw [cut, shape] at trimmed
      exact .header spelled blank apart wellNamed.1.1 ends
        ((parameterText?_eq_some_iff trimmed).mp list) (items_eq_iff.mp rfl) wellNamed.1.2
        (noRepeats_iff.mp wellNamed.2)
    · cases accepted
  · rintro ⟨spelled, blank, apart, named, ends, list, listed, names, distinct⟩
    rename_i word gap name inner rest parameters
    obtain ⟨nonempty, letters, _⟩ := isName_iff.mp named
    obtain ⟨taken, dropped⟩ := Text.span_append letters ends
    have shape : word ++ (gap ++ (name ++ rest)) = (word ++ (gap ++ name)) ++ rest := by simp
    rw [shape] at trimmed
    refine ⟨name ++ rest, afterKeyword?_eq_some_iff.mpr ⟨?_, word, gap, spelled, blank, apart, rfl⟩,
      inner, ?_, ?_⟩
    · obtain ⟨c, more, rfl⟩ := List.exists_cons_of_ne_nil nonempty
      rintro _ ⟨⟩
      exact Text.isBlank_of_isLetter (letters c (List.mem_cons_self ..))
    · rw [dropped]
      exact (parameterText?_eq_some_iff trimmed).mpr list
    · have accepted : (isName name && parameters.all isName && noRepeats parameters) = true := by
        simp only [named, List.all_eq_true.mpr names, noRepeats_iff.mpr distinct, Bool.and_self]
      rw [taken, items_eq_iff.mpr listed, if_pos accepted]

/-- What is trimmed off at the end of a header belongs to no parameter. -/
theorem WrittenAs.trim {header : Header} {t : Text} (written : header.WrittenAs t) :
    header.WrittenAs (Text.trim t) := by
  obtain ⟨spelled, blank, apart, named, ends, list, listed, names, distinct⟩ := written
  rename_i word gap name inner rest parameters
  have letters : ∀ c ∈ word, Text.isLetter c = true := by
    have found := Keyword.ofWord?_eq_some_iff (k := .opening .method).mpr spelled
    exact (Keyword.letters_of_ofWord? found).2
  obtain ⟨c, more, rfl⟩ : ∃ c more, word = c :: more := by
    cases word with
    | nil => cases spelled
    | cons c more => exact ⟨c, more, rfl⟩
  rw [Text.trim_of_letter (c := c) rfl (letters c (List.mem_cons_self ..))]
  cases list with
  | @enclosed gap' inner blank' bare =>
    rw [Text.trimEnd_of_closing ((c :: more) ++ (gap ++ (name ++ (gap' ++ '(' :: inner)))) (by simp)]
    exact .header spelled blank apart named ends (.enclosed blank' bare) listed names distinct
  | rest bare =>
    obtain ⟨nonempty, shown, _⟩ := isName_iff.mp named
    have kept := Text.trimEnd_append (fun c member => Text.isBlank_of_isLetter (shown c member)) inner
    have goesOn : Text.trimEnd (name ++ inner) ≠ [] := by simp [kept, nonempty]
    rw [← List.append_assoc, Text.trimEnd_append_of_ne_nil _ goesOn, kept, List.append_assoc]
    obtain ⟨cut, _, whole⟩ := Text.exists_gap_trimEnd inner
    have bare' : ∀ c ∈ Text.trimEnd inner, isParenthesis c = false :=
      fun c member => bare c (whole ▸ List.mem_append_left cut member)
    exact .header spelled blank apart named (fun d first => ends d (Text.head?_trimEnd first))
      (.rest bare') listed.trimEnd names distinct

end Header

namespace Signature

/-- A trimmed text is read as a call, or as a header, exactly when it is written as one.

A list is read back whatever mix of commas and blanks separates its items: that of a call, that of a
header with parentheses, and that of a header without, where something separates the first parameter
from the name. -/
theorem calls_and_headers_read_exactly :
    (∀ (s : Text) (invocation : Call),
      Call.parse? (Text.trim s) = some invocation ↔ invocation.WrittenAs (Text.trim s)) ∧
    (∀ (s : Text) (header : Header),
      Header.parse? (Text.trim s) = some header ↔ header.WrittenAs (Text.trim s)) ∧
    (∀ (invocation : Call) (gap closing : Text) (entries : List (Text × Text)),
      isName invocation.name = true → (∀ argument ∈ invocation.arguments, argument.Passable) →
      gap.IsGap → Separated closing entries → entries.map Prod.snd = invocation.arguments →
      Call.parse? (Text.trim
        (invocation.name ++ (gap ++ '(' :: (listing closing entries ++ [')'])))) =
        some invocation) ∧
    ∀ (header : Header) (word gap closing : Text) (entries : List (Text × Text)),
      word.map Char.toLower = "method".toList → gap.IsGap → gap ≠ [] →
      isName header.name = true → (∀ p ∈ header.parameters, isName p = true) →
      header.parameters.Nodup → Separated closing entries →
      entries.map Prod.snd = header.parameters →
      (∀ gap' : Text, gap'.IsGap → Header.parse? (Text.trim (word ++ (gap ++ (header.name ++
        (gap' ++ '(' :: (listing closing entries ++ [')'])))))) = some header) ∧
      ((∀ entry, entries.head? = some entry → entry.1 ≠ []) → Header.parse? (Text.trim
        (word ++ (gap ++ (header.name ++ listing closing entries)))) = some header) := by
  refine ⟨fun s invocation => Call.parse?_eq_some_iff_of_trimmed (Text.trim_trim s),
    fun s header => Header.parse?_eq_some_iff_of_trimmed (Text.trim_trim s), ?_, ?_⟩
  · intro invocation gap closing entries named passable blank separated same
    obtain ⟨name, arguments⟩ := invocation
    subst same
    have written : Call.WrittenAs ⟨name, entries.map Prod.snd⟩ _ :=
      .call named blank (bare_listing separated passable) (lists_listing separated passable)
    rw [written.trimmed]
    exact (Call.parse?_eq_some_iff_of_trimmed written.trimmed).mpr written
  · intro header word gap closing entries spelled blank apart named names distinct separated same
    obtain ⟨name, parameters⟩ := header
    subst same
    have passable : ∀ p ∈ entries.map Prod.snd, p.Passable :=
      fun p member => Substitution.passable_of_isName (names p member)
    have bare := bare_listing separated passable
    have listed := lists_listing separated passable
    refine ⟨fun gap' blank' => ?_, fun separate => ?_⟩
    · refine (Header.parse?_eq_some_iff_of_trimmed (Text.trim_trim _)).mpr (.trim ?_)
      exact .header spelled blank apart named (ends_of_gap blank') (.enclosed blank' bare) listed
        names distinct
    · refine (Header.parse?_eq_some_iff_of_trimmed (Text.trim_trim _)).mpr (.trim ?_)
      refine .header spelled blank apart named (fun c first => ?_) (.rest bare) listed names distinct
      have out := head?_listing separated separate c first
      exact Substitution.isLetter_of_not_isRunChar (Substitution.isRunChar_of_not_isItemChar out)

/-- Commas at both ends, and a header in capitals without parentheses. -/
theorem calls_and_headers_read_exactly_of_mixed_separators :
    let invocation : Call := ⟨"turn".toList, ["-3".toList, "x=y".toList]⟩
    let header : Header := ⟨"turn".toList, ["a".toList, "b".toList]⟩
    let arguments := [(", ".toList, "-3".toList), (" ,,".toList, "x=y".toList)]
    let parameters := [(", ".toList, "a".toList), ("\t".toList, "b".toList)]
    Call.parse? (Text.trim (invocation.name ++ ("  ".toList ++ '(' ::
        (listing ",".toList arguments ++ [')'])))) = some invocation ∧
      Header.parse? (Text.trim ("MeThod".toList ++ (" ".toList ++ (header.name ++ ([] ++ '(' ::
        (listing " ".toList parameters ++ [')'])))))) = some header ∧
      Header.parse? (Text.trim ("MeThod".toList ++ (" ".toList ++ (header.name ++
        listing " ".toList parameters)))) = some header := by
  intro invocation header arguments parameters
  have passable : ∀ argument ∈ invocation.arguments, argument.Passable :=
    List.forall_mem_cons.mpr ⟨by decide, List.forall_mem_singleton.mpr (by decide)⟩
  have separated : Separated ",".toList arguments := ⟨by decide, by decide, by decide⟩
  have separated' : Separated " ".toList parameters := ⟨by decide, by decide, by decide⟩
  obtain ⟨_, _, call, headers⟩ := calls_and_headers_read_exactly
  have read := headers header "MeThod".toList " ".toList " ".toList parameters (by decide)
    (by decide) (by decide) (by decide) (by decide) (by decide) separated' rfl
  exact ⟨call invocation "  ".toList ",".toList arguments (by decide) passable (by decide) separated
    rfl, read.1 [] (by decide), read.2 (by simp [parameters])⟩

end Signature

end Plotter
