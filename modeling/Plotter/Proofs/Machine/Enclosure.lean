import Plotter.Machine.State
import Plotter.Proofs.Script.Line

/-!
# Block structure

A script can be cut into its blocks by the keywords at the start of its lines, without running it.
`Enclosure` is what has to be remembered from line to line: the kind of the block that the next
line stands in, and how many blocks of the same kind are open inside it.  Blocks of another kind
are lines like any other there.

The open block of a machine has such a place too.
-/

namespace Plotter

/-- Where a script stands in its blocks: outside of them, or inside a block of a kind, with so many
more of the same kind open in it. -/
inductive Enclosure where
  | outside
  | inside (kind : BlockKind) (nested : Nat)
  deriving DecidableEq, Repr

/-- Reads the keyword at the start of a line. -/
def Enclosure.read : Enclosure → Option Keyword → Enclosure
  | outside, some (.opening .loop) => inside .loop 0
  | outside, some (.opening .method) => inside .method 0
  | inside kind nested, some (.opening found) =>
    if found = kind then inside kind (nested + 1) else inside kind nested
  | inside kind nested, some (.closing found) =>
    if found ≠ kind then inside kind nested
    else
      match nested with
      | 0 => outside
      | nested + 1 => inside kind nested
  | place, _ => place

def Mode.enclosure : Mode → Enclosure
  | idle => .outside
  | loop block => .inside .loop block.nested
  | method block => .inside .method block.nested

/-- A block is left, or a block of the same kind is still open. -/
theorem Enclosure.read_inside (kind : BlockKind) (nested : Nat) (keyword : Option Keyword) :
    (inside kind nested).read keyword = outside ∨
      ∃ deeper, (inside kind nested).read keyword = inside kind deeper := by
  cases keyword with
  | none => exact Or.inr ⟨nested, rfl⟩
  | some keyword =>
    cases keyword with
    | command p => exact Or.inr ⟨nested, rfl⟩
    | opening found =>
      simp only [read]
      split
      · exact Or.inr ⟨nested + 1, rfl⟩
      · exact Or.inr ⟨nested, rfl⟩
    | closing found =>
      simp only [read]
      split
      · exact Or.inr ⟨nested, rfl⟩
      · cases nested with
        | zero => exact Or.inl rfl
        | succ nested => exact Or.inr ⟨nested, rfl⟩

/-- Only a header leads into a method. -/
theorem Enclosure.read_eq_method {place : Enclosure} {keyword : Option Keyword} {nested : Nat}
    (entered : place.read keyword = inside .method nested) :
    keyword = some (.opening .method) ∨ ∃ outer, place = inside .method outer := by
  cases place with
  | inside kind outer =>
    rcases read_inside kind outer keyword with left | ⟨deeper, stays⟩
    · rw [left] at entered
      cases entered
    · rw [stays] at entered
      cases entered
      exact Or.inr ⟨outer, rfl⟩
  | outside =>
    rcases keyword with _ | (_ | kind | _)
    · cases entered
    · cases entered
    · cases kind with
      | method => exact Or.inl rfl
      | conditional => cases entered
      | loop => cases entered
    · cases entered

theorem Mode.enclosure_eq_outside_iff {mode : Mode} : mode.enclosure = .outside ↔ mode = .idle := by
  cases mode <;> simp [enclosure]

theorem Mode.exists_loop_iff {mode : Mode} :
    (∃ block, mode = .loop block) ↔ ∃ nested, mode.enclosure = .inside .loop nested := by
  cases mode <;> simp [enclosure]

theorem Mode.exists_method_iff {mode : Mode} :
    (∃ block, mode = .method block) ↔ ∃ nested, mode.enclosure = .inside .method nested := by
  cases mode <;> simp [enclosure]

/-- What a line was classified as tells the same as the keyword at its start. -/
theorem Enclosure.read_of_classify {line : Line} {statement : Statement}
    (read : Statement.classify line.text = .ok statement) (place : Enclosure) :
    place.read line.keyword? = place.read statement.keyword? := by
  have isOf := Statement.isOf_classify read
  cases statement with
  | block kind closing arguments => rw [Statement.keyword?_of_block read]
  | _ =>
    -- The line is of no block, so its keyword, if it has one, is not looked at.
    cases found : line.keyword? with
    | none => cases place <;> rfl
    | some keyword =>
      cases keyword with
      | command => cases place <;> rfl
      | opening kind => simpa [Line.isOf, found, Statement.isOf] using isOf kind
      | closing kind => simpa [Line.isOf, found, Statement.isOf] using isOf kind

/-- Outside of every block, a line that opens none changes nothing. -/
theorem Enclosure.read_of_unopened {line : Line} {statement : Statement}
    (read : Statement.classify line.text = .ok statement)
    (unopened : statement.opensBlock = false) : outside.read line.keyword? = outside := by
  rw [read_of_classify read]
  cases statement with
  | block kind closing arguments =>
    cases kind <;> cases closing <;> first | rfl | cases unopened
  | _ => rfl

end Plotter
