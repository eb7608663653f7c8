import Plotter.Files

/-!
# Files that have been written

A write puts its bytes at the place to which the path leads, and nowhere else.  It replaces no
directory, so every path leads where it led before, and what is read at any other place is what was
read there before.

## Main results

* `Files.read_of_write`: what has been written is read back.
* `Files.read_of_write_elsewhere`: a path to another place gives what it gave before.
-/

namespace Plotter.Files

variable {files left : Files} {p q : Path} {bytes : List UInt8} {place other : List Text}

/-- The bytes stand at a place where no directory was, and everything else is as it was. -/
structure Puts (files : Files) (place : List Text) (bytes : List UInt8) (left : Files) : Prop where
  here : left.here = files.here
  free : files.node? place ≠ some .directory
  there : left.node? place = some (.file bytes)
  elsewhere : ∀ other, other ≠ place → left.node? other = files.node? other

theorem puts_of_write (written : files.write p bytes = .ok left) :
    ∃ place, files.resolve p = .ok place ∧ files.Puts place bytes left := by
  unfold write at written
  split at written
  · cases written
  next place leads =>
    refine ⟨place, leads, ?_⟩
    split at written
    · cases written
    next free =>
      cases written
      have outside : place.isPrefixOf files.here = false := by
        cases above : place.isPrefixOf files.here with
        | false => rfl
        | true => exact absurd (if_pos above) free
      refine ⟨rfl, free, ?_, fun other apart => ?_⟩
      · -- All that stood at the place has been taken out, so what is found is the new file.
        have taken : (files.nodes.filter fun entry => entry.1 != place).find?
            (fun entry => entry.1 == place) = none := by
          rw [List.find?_eq_none]
          intro entry member
          simpa using (List.mem_filter.mp member).2
        simp [node?, outside, List.find?_append, taken]
      · have kept : (files.nodes.filter fun entry => entry.1 != place).find?
            (fun entry => entry.1 == other) =
              files.nodes.find? (fun entry => entry.1 == other) := by
          rw [List.find?_filter]
          congr 1
          funext entry
          by_cases same : entry.1 = other
          · simp [same, apart]
          · simp [same]
        simp [node?, List.find?_append, kept, Ne.symm apart]

/-- Parts that lead up go on from the directory above, and others through a directory. -/
theorem locate_cons_cons_iff {directory later : List Text} {part next : Text} :
    files.locate directory (part :: next :: later) = .ok place ↔
      part = ['.', '.'] ∧ files.locate directory.dropLast (next :: later) = .ok place ∨
        part ≠ ['.', '.'] ∧ files.node? (directory ++ [part]) = some .directory ∧
          files.locate (directory ++ [part]) (next :: later) = .ok place := by
  rw [locate]
  by_cases up : part = ['.', '.']
  · simp [up]
  · rcases stands : files.node? (directory ++ [part]) with _ | _ | _ <;> simp [up, stands]

namespace Puts

/-- The same directories stand where they stood. -/
theorem directory_iff (puts : files.Puts place bytes left) :
    left.node? other = some .directory ↔ files.node? other = some .directory := by
  by_cases same : other = place
  · subst same
    simp [puts.there, puts.free]
  · rw [puts.elsewhere other same]

/-- Parts lead to the same place as before. -/
theorem locate_iff (puts : files.Puts place bytes left) {directory parts : List Text} :
    left.locate directory parts = .ok other ↔ files.locate directory parts = .ok other := by
  induction parts generalizing directory with
  | nil => rfl
  | cons part rest ih =>
    cases rest with
    | nil => rfl
    | cons next later =>
      -- The walk goes on only where a directory stands, before the write and after it.
      rw [locate_cons_cons_iff, locate_cons_cons_iff, puts.directory_iff]
      exact or_congr (and_congr_right fun _ => ih)
        (and_congr_right fun _ => and_congr_right fun _ => ih)

theorem resolve_iff (puts : files.Puts place bytes left) :
    left.resolve q = .ok other ↔ files.resolve q = .ok other := by
  unfold resolve
  rw [puts.here]
  exact puts.locate_iff

end Puts

/-- What is read is the file at the place to which the path leads. -/
theorem read_eq_ok_iff :
    files.read p = .ok bytes ↔
      ∃ place, files.resolve p = .ok place ∧ files.node? place = some (.file bytes) := by
  unfold read find
  cases files.resolve p with
  | error e => simp
  | ok place =>
    rcases stands : files.node? place with _ | _ | _ <;> simp [stands]

/-- What has been written is read back. -/
theorem read_of_write (written : files.write p bytes = .ok left) : left.read p = .ok bytes := by
  obtain ⟨place, leads, puts⟩ := puts_of_write written
  exact read_eq_ok_iff.mpr ⟨place, puts.resolve_iff.mpr leads, puts.there⟩

/-- A path that leads to another place gives what it gave before. -/
theorem read_of_write_elsewhere (written : files.write p bytes = .ok left)
    (apart : files.resolve q ≠ files.resolve p) (found : List UInt8) :
    left.read q = .ok found ↔ files.read q = .ok found := by
  obtain ⟨place, leads, puts⟩ := puts_of_write written
  rw [read_eq_ok_iff, read_eq_ok_iff]
  refine exists_congr fun other => ?_
  rw [puts.resolve_iff]
  refine and_congr_right fun there => ?_
  rw [puts.elsewhere other]
  rintro rfl
  exact apart (there.trans leads.symm)

end Plotter.Files
