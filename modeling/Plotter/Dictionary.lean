import Plotter.Text.Basic

/-!
# Dictionaries

Names are kept in the order in which they were first entered; entering a name again replaces its
value and keeps its place.
-/

namespace Plotter

structure Dictionary (α : Type) where
  entries : List (Text × α) := []

namespace Dictionary

variable {α : Type}

def empty : Dictionary α := ⟨[]⟩

def lookup (name : Text) : List (Text × α) → Option α
  | [] => none
  | (key, value) :: rest => if key = name then some value else lookup name rest

/-- Replaces the value of a name, or enters it at the end. -/
def put (name : Text) (value : α) : List (Text × α) → List (Text × α)
  | [] => [(name, value)]
  | (key, old) :: rest =>
    if key = name then (key, value) :: rest else (key, old) :: put name value rest

def get? (d : Dictionary α) (name : Text) : Option α := lookup name d.entries

def set (d : Dictionary α) (name : Text) (value : α) : Dictionary α :=
  ⟨put name value d.entries⟩

def contains (d : Dictionary α) (name : Text) : Bool := (d.get? name).isSome

def names (d : Dictionary α) : List Text := d.entries.map Prod.fst

def size (d : Dictionary α) : Nat := d.entries.length

def ofList (pairs : List (Text × α)) : Dictionary α :=
  pairs.foldl (fun d pair => d.set pair.1 pair.2) empty

theorem lookup_put (name other : Text) (value : α) (entries : List (Text × α)) :
    lookup other (put name value entries) =
      if name = other then some value else lookup other entries := by
  induction entries with
  | nil => simp [put, lookup]
  | cons entry rest ih =>
    obtain ⟨key, old⟩ := entry
    by_cases same : key = name
    · subst same
      by_cases found : key = other <;> simp [put, lookup, found]
    · by_cases found : key = other
      · subst found
        simp [put, lookup, same, Ne.symm same]
      · simp [put, lookup, same, found, ih]

@[simp] theorem get?_set (d : Dictionary α) (name other : Text) (value : α) :
    (d.set name value).get? other = if name = other then some value else d.get? other :=
  lookup_put name other value d.entries

theorem mem_of_get? {d : Dictionary α} {name : Text} {value : α}
    (found : d.get? name = some value) : (name, value) ∈ d.entries := by
  obtain ⟨entries⟩ := d
  simp only [get?] at found
  induction entries with
  | nil => cases found
  | cons entry rest ih =>
    obtain ⟨key, old⟩ := entry
    simp only [lookup] at found
    split at found
    next same =>
      cases found
      simp [same]
    · exact List.mem_cons_of_mem _ (ih found)

/-- What is entered under a name besides what was there. -/
theorem mem_entries_set {d : Dictionary α} {name : Text} {value : α} {entry : Text × α}
    (member : entry ∈ (d.set name value).entries) :
    entry = (name, value) ∨ entry ∈ d.entries := by
  obtain ⟨entries⟩ := d
  simp only [set] at member
  induction entries with
  | nil => simpa [put] using member
  | cons first rest ih =>
    obtain ⟨key, old⟩ := first
    simp only [put] at member
    split at member
    next same =>
      rcases List.mem_cons.mp member with rfl | later
      · exact Or.inl (by rw [same])
      · exact Or.inr (List.mem_cons_of_mem _ later)
    · rcases List.mem_cons.mp member with rfl | later
      · exact Or.inr (List.mem_cons_self ..)
      · rcases ih later with entered | earlier
        · exact Or.inl entered
        · exact Or.inr (List.mem_cons_of_mem _ earlier)

/-- What a dictionary made of pairs holds is one of the pairs. -/
theorem mem_of_mem_ofList {pairs : List (Text × α)} {entry : Text × α}
    (member : entry ∈ (ofList pairs).entries) : entry ∈ pairs := by
  -- The dictionary is filled from the left, so the induction needs the one filled so far.
  have filled : ∀ d : Dictionary α,
      entry ∈ (pairs.foldl (fun d pair => d.set pair.1 pair.2) d).entries →
        entry ∈ pairs ∨ entry ∈ d.entries := by
    clear member
    induction pairs with
    | nil => exact fun d found => Or.inr found
    | cons pair pairs ih =>
      intro d found
      rcases ih _ found with later | earlier
      · exact Or.inl (List.mem_cons_of_mem _ later)
      · rcases mem_entries_set earlier with rfl | old
        · exact Or.inl (List.mem_cons_self ..)
        · exact Or.inr old
  rcases filled .empty member with member | absent
  · exact member
  · cases absent

end Dictionary

end Plotter
