import Mathlib.Data.List.Nodup
import Plotter.Proofs.Text.Run
import Plotter.Script.Signature

/-!
# What headers and calls are made of

The arguments of a call are maximal runs of visible characters, so each of them is a nonempty
text without blanks.  The name and the parameters of a header are names, and the parameters are
pairwise distinct.
-/

namespace Plotter

namespace Signature

theorem isVisible_of_mem_items {t item : Text} (member : item ∈ items t) :
    item.isVisible = true := by
  obtain ⟨nonempty, inside⟩ := Text.mem_runs member
  refine Text.isVisible_iff.mpr ⟨nonempty, fun c found => ?_⟩
  have visible := inside c found
  simp only [isItemChar, Bool.and_eq_true, Bool.not_eq_true'] at visible
  exact visible.1

theorem span_closing {inner : Text} (bare : ∀ c ∈ inner, isParenthesis c = false) (tail : Text) :
    (inner ++ ')' :: tail).takeWhile (fun c => !isParenthesis c) = inner ∧
      (inner ++ ')' :: tail).dropWhile (fun c => !isParenthesis c) = ')' :: tail := by
  refine Text.span_append (by simpa using bare) fun c first => ?_
  cases first
  rfl

/-- The text that parentheses enclose has none inside. -/
theorem parenthesised?_eq_some_iff {t inner : Text} :
    parenthesised? t = some inner ↔
      (∀ c ∈ inner, isParenthesis c = false) ∧
        ∃ tail, (tail = [] ∨ tail = ['\n']) ∧ t = '(' :: (inner ++ ')' :: tail) := by
  constructor
  · intro enclosed
    unfold parenthesised? at enclosed
    split at enclosed
    next rest =>
      have inside : ∀ c ∈ rest.takeWhile (fun c => !isParenthesis c), isParenthesis c = false :=
        fun c member => by simpa using List.mem_takeWhile_imp member
      have whole := List.takeWhile_append_dropWhile (p := fun c => !isParenthesis c) (l := rest)
      split at enclosed
      next closed =>
        cases enclosed
        exact ⟨inside, [], Or.inl rfl, by rw [← closed, whole]⟩
      next closed =>
        cases enclosed
        exact ⟨inside, ['\n'], Or.inr rfl, by rw [← closed, whole]⟩
      · cases enclosed
    · cases enclosed
  · rintro ⟨inside, tail, ends, rfl⟩
    obtain ⟨taken, dropped⟩ := span_closing inside tail
    unfold parenthesised?
    simp only [taken, dropped]
    rcases ends with rfl | rfl <;> rfl

theorem noRepeats_iff {texts : List Text} : noRepeats texts = true ↔ texts.Nodup := by
  induction texts with
  | nil => simp [noRepeats]
  | cons first rest ih => simp [noRepeats, List.nodup_cons, ih]

end Signature

theorem Call.isVisible_of_parse? {t : Text} {invocation : Call}
    (parsed : Call.parse? t = some invocation) :
    ∀ argument ∈ invocation.arguments, argument.isVisible = true := by
  simp only [Call.parse?] at parsed
  split at parsed
  · cases parsed
  · obtain ⟨inner, _, rfl⟩ := Option.map_eq_some_iff.mp parsed
    exact fun _ => Signature.isVisible_of_mem_items

open Signature

/-- What can be passed to a parameter. -/
structure Text.Passable (t : Text) : Prop where
  nonempty : t ≠ []
  item : ∀ c ∈ t, isItemChar c = true
  bare : ∀ c ∈ t, isParenthesis c = false

instance (t : Text) : Decidable t.Passable :=
  decidable_of_iff (t ≠ [] ∧ t.all isItemChar = true ∧ t.any isParenthesis = false)
    ⟨fun ⟨nonempty, item, bare⟩ => ⟨nonempty, List.all_eq_true.mp item,
      fun c member => by simpa using List.any_eq_false.mp bare c member⟩,
    fun passable => ⟨passable.nonempty, List.all_eq_true.mpr passable.item,
      List.any_eq_false.mpr fun c member => by simp [passable.bare c member]⟩⟩

/-- The parts of a call. -/
theorem Call.parse?_eq_some_iff {t : Text} {invocation : Call} :
    Call.parse? t = some invocation ↔
      invocation.name = t.takeWhile Text.isLetter ∧ invocation.name ≠ [] ∧
        isReserved invocation.name = false ∧
        ∃ inner, parenthesised? (Text.trimStart (t.dropWhile Text.isLetter)) = some inner ∧
          invocation.arguments = items inner := by
  obtain ⟨name, arguments⟩ := invocation
  simp only [Call.parse?]
  split
  next refused =>
    constructor
    · intro parsed
      cases parsed
    · rintro ⟨rfl, nonempty, free, _⟩
      simp [nonempty, free] at refused
  next named =>
    simp only [Bool.or_eq_true, List.isEmpty_iff, not_or, Bool.not_eq_true] at named
    rw [Option.map_eq_some_iff]
    constructor
    · rintro ⟨inner, enclosed, ⟨⟩⟩
      exact ⟨rfl, named.1, named.2, inner, enclosed, rfl⟩
    · rintro ⟨rfl, _, _, inner, enclosed, rfl⟩
      exact ⟨inner, enclosed, rfl⟩

theorem Call.passable_of_parse? {t : Text} {invocation : Call}
    (parsed : Call.parse? t = some invocation) :
    ∀ argument ∈ invocation.arguments, argument.Passable := by
  obtain ⟨_, _, _, inner, enclosed, listed⟩ := Call.parse?_eq_some_iff.mp parsed
  intro argument member
  rw [listed] at member
  obtain ⟨nonempty, item⟩ := Text.mem_runs member
  refine ⟨nonempty, item, fun c found => ?_⟩
  exact (parenthesised?_eq_some_iff.mp enclosed).1 c (Text.mem_of_mem_runs member c found)

/-- A call is a name, some blanks and a parenthesis. -/
theorem Call.shape_of_parse? {t : Text} {invocation : Call}
    (parsed : Call.parse? t = some invocation) :
    ∃ blanks rest, t = invocation.name ++ (blanks ++ '(' :: rest) ∧
      (∀ c ∈ invocation.name, Text.isLetter c = true) ∧ ∀ c ∈ blanks, Text.isBlank c = true := by
  obtain ⟨name, _, _, inner, enclosed, _⟩ := Call.parse?_eq_some_iff.mp parsed
  obtain ⟨_, tail, _, shape⟩ := parenthesised?_eq_some_iff.mp enclosed
  refine ⟨(t.dropWhile Text.isLetter).takeWhile Text.isBlank, inner ++ ')' :: tail, ?_, ?_, ?_⟩
  · rw [← shape, Text.trimStart, List.takeWhile_append_dropWhile, name,
      List.takeWhile_append_dropWhile]
  · rw [name]
    exact fun c member => List.mem_takeWhile_imp member
  · exact fun c member => List.mem_takeWhile_imp member

/-- The parts of a header that has been read. -/
theorem Header.names_of_parse? {t : Text} {header : Header}
    (parsed : Header.parse? t = some header) :
    isName header.name = true ∧ (∀ p ∈ header.parameters, isName p = true) ∧
      header.parameters.Nodup := by
  simp only [Header.parse?, Option.bind_eq_bind, Option.bind_eq_some_iff] at parsed
  obtain ⟨rest, _, inner, _, accepted⟩ := parsed
  split at accepted
  next wellNamed =>
    cases accepted
    simp only [Bool.and_eq_true, List.all_eq_true] at wellNamed
    exact ⟨wellNamed.1.1, wellNamed.1.2, Signature.noRepeats_iff.mp wellNamed.2⟩
  · cases accepted

end Plotter
