import Plotter.Proofs.Outcome
import Plotter.Yaml.Document

/-!
# Keys of a settings file

A key of a mapping may be given more than once; the mapping keeps its first place and its last
value.

## Main result

`ofText_isKeyed`: in the value of a text, and in the mappings that it holds, no two keys are the
same.  So a text that is a key stands for one value (`Distinct.unique`).

## Proof strategy

Entering a value leaves the keys alone or adds one that is not among them (`keys_put`).  The entries
of a mapping are entered one by one, so the induction is on the nodes that are left to enter; that
each value is the value of a node goes with it, and gives the mappings one level below.
-/

namespace Plotter

namespace Value

/-- No two keys of a mapping are the same. -/
def Distinct (entries : List (Value × Value)) : Prop :=
  (entries.map Prod.fst).Pairwise fun first later => sameKey first later = false

/-- The keys of a mapping are distinct, and so are those of the mappings in it. -/
def IsKeyed (v : Value) : Prop :=
  ∀ entries, v = .map entries →
    Distinct entries ∧ ∀ key body, (key, .map body) ∈ entries → Distinct body

theorem isKeyed_map_iff {entries : List (Value × Value)} :
    (Value.map entries).IsKeyed ↔
      Distinct entries ∧ ∀ key body, (key, .map body) ∈ entries → Distinct body := by
  simp [IsKeyed]

/-- A text that is a key has one value. -/
theorem Distinct.unique {entries : List (Value × Value)} (distinct : Distinct entries) {t : Text}
    {v w : Value} (first : (.text t, v) ∈ entries) (second : (.text t, w) ∈ entries) : v = w := by
  have same : sameKey (.text t) (.text t) = true := by simp [sameKey]
  induction entries with
  | nil => cases first
  | cons entry rest ih =>
    obtain ⟨apart, distinct⟩ := List.pairwise_cons.mp distinct
    -- No later entry has the key of the first.
    have absent {u : Value} (later : (.text t, u) ∈ rest) : entry.1 ≠ .text t := by
      intro key
      have different := apart (.text t) (List.mem_map.mpr ⟨_, later, rfl⟩)
      rw [key, same] at different
      cases different
    rcases List.mem_cons.mp first with rfl | here
    · rcases List.mem_cons.mp second with same | there
      · exact (Prod.mk.inj same).2.symm
      · exact absurd rfl (absent there)
    · rcases List.mem_cons.mp second with rfl | there
      · exact absurd rfl (absent here)
      · exact ih distinct here there

end Value

namespace Yaml

/-- A scalar is no mapping. -/
theorem Plain.value_ne_map (k : ScalarKind) (t : Text) (entries : List (Value × Value)) :
    Plain.value k t ≠ .ok (.map entries) := by
  intro read
  cases k with
  | null | text | merge | default => cases read
  | bool | int | float =>
    obtain ⟨_, _, same⟩ := map_eq_ok read
    cases same
  | moment =>
    simp only [Plain.value, Plain.readMoment] at read
    split at read
    · cases read
    · split at read <;> cases read

namespace Document

variable {key v : Value} {entries found : List (Value × Value)} {fuel : Nat} {node : Node}

/-- Entering a value adds no key but its own, and that only if it is not among the keys. -/
theorem keys_put (key v : Value) (entries : List (Value × Value)) :
    (put key v entries).map Prod.fst = entries.map Prod.fst ∨
      (put key v entries).map Prod.fst = entries.map Prod.fst ++ [key] ∧
        ∀ k ∈ entries.map Prod.fst, k.sameKey key = false := by
  induction entries with
  | nil => exact Or.inr ⟨rfl, nofun⟩
  | cons entry rest ih =>
    obtain ⟨k, old⟩ := entry
    unfold put
    split
    · exact Or.inl rfl
    next other =>
      rcases ih with kept | ⟨added, apart⟩
      · exact Or.inl (by simp [kept])
      · exact Or.inr ⟨by simp [added], by simpa [other] using apart⟩

theorem distinct_put (distinct : Value.Distinct entries) : Value.Distinct (put key v entries) := by
  unfold Value.Distinct
  rcases keys_put key v entries with kept | ⟨added, apart⟩
  · rw [kept]
    exact distinct
  · rw [added]
    exact List.pairwise_append.mpr
      ⟨distinct, List.pairwise_singleton .., fun k member l last =>
        List.mem_singleton.mp last ▸ apart k member⟩

theorem mem_put {entry : Value × Value} (member : entry ∈ put key v entries) :
    entry.2 = v ∨ entry ∈ entries := by
  induction entries with
  | nil => exact Or.inl (by rw [List.mem_singleton.mp member])
  | cons first rest ih =>
    obtain ⟨k, old⟩ := first
    unfold put at member
    split at member
    · rcases List.mem_cons.mp member with rfl | later
      · exact Or.inl rfl
      · exact Or.inr (List.mem_cons_of_mem _ later)
    · rcases List.mem_cons.mp member with rfl | later
      · exact Or.inr (List.mem_cons_self ..)
      · exact (ih later).imp_right (List.mem_cons_of_mem _)

/-- Entries as they are while a mapping is made: distinct keys, and values of nodes. -/
def Built (entries : List (Value × Value)) : Prop :=
  Value.Distinct entries ∧ ∀ entry ∈ entries, ∃ fuel node, value fuel node = .ok entry.2

theorem built_nil : Built [] := ⟨List.Pairwise.nil, nofun⟩

/-- What is entered under one more key is the value of a node. -/
theorem built_put (built : Built found) (given : value fuel node = .ok v) :
    Built (put key v found) := by
  refine ⟨distinct_put built.1, fun entry member => ?_⟩
  rcases mem_put member with same | earlier
  · exact ⟨fuel, node, same ▸ given⟩
  · exact built.2 entry earlier

theorem built_pairs {nodes : List (Node × Node)} (built : Built found)
    (entered : pairs fuel found nodes = .ok entries) : Built entries := by
  -- Entering a node costs one of the fuel and adds to what is found, so both vary in the induction.
  induction nodes generalizing fuel found with
  | nil =>
    cases fuel with
    | zero => cases entered
    | succ fuel => cases entered; exact built
  | cons pair rest ih =>
    obtain ⟨k, item⟩ := pair
    cases fuel with
    | zero => cases entered
    | succ fuel =>
      obtain ⟨key, _, entered⟩ := bind_eq_ok entered
      split at entered
      · cases entered
      · obtain ⟨v, given, entered⟩ := bind_eq_ok entered
        exact ih (built_put built given) entered

theorem scalar_ne_map (tag : Option Text) (implicit : Bool) (t : Text) :
    scalar tag implicit t ≠ .ok (.map entries) := by
  intro read
  unfold scalar at read
  split at read
  · split at read
    · exact Plain.value_ne_map _ _ _ read
    · cases read
  · split at read
    · exact Plain.value_ne_map _ _ _ read
    · cases read

/-- The mapping that a node stands for is made of distinct keys and values of nodes. -/
theorem built_of_value (given : value fuel node = .ok (.map entries)) : Built entries := by
  cases fuel with
  | zero => cases given
  | succ fuel =>
    unfold value at given
    split at given
    · exact absurd given (scalar_ne_map _ _ _)
    · split at given
      · obtain ⟨_, _, same⟩ := map_eq_ok given
        cases same
      · cases given
    · split at given
      · obtain ⟨_, _, given⟩ := bind_eq_ok given
        obtain ⟨_, entered, given⟩ := bind_eq_ok given
        cases given
        exact built_pairs built_nil entered
      · cases given

theorem value_isKeyed (given : value fuel node = .ok v) : v.IsKeyed := by
  rintro entries rfl
  obtain ⟨distinct, values⟩ := built_of_value given
  refine ⟨distinct, fun key body member => ?_⟩
  obtain ⟨_, _, inner⟩ := values _ member
  exact (built_of_value inner).1

/-- In the value of a text no two keys are the same. -/
theorem ofText_isKeyed {t : Text} (read : ofText t = .ok v) : v.IsKeyed := by
  obtain ⟨found, _, read⟩ := bind_eq_ok read
  split at read
  · cases read
    exact nofun
  · exact value_isKeyed read

end Document

end Yaml

end Plotter
