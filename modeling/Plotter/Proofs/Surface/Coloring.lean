import Mathlib.Algebra.Ring.Int.Defs
import Plotter.Host
import Plotter.Proofs.Outcome
import Plotter.Proofs.Surface.Drawing

/-!
# Colours that are accepted

A host may offer any value as a colour.  Whether a surface takes it and what it is converted to are
told by two functions, which look at its kind in different ways.

## Main result

`accepted_colors_convert`: what a surface takes as a colour, but for the transparent brush, becomes
three bytes, three fractions and an index of the table.  The index of three whole numbers is the
first one whose entry is nearest to them.  So whatever a host tries to set, the line colour and the
background stay colours that can be converted.

## Proof strategy

A colour is a name, an index or three bytes (`isColor_cases`), and each conversion is by these cases.
The search for the nearest entry keeps the nearest of the entries that it has seen, and the first of
equally near ones (`nearestFrom_isNearest`).
-/

namespace Plotter

namespace Binary

/-- A quotient with a numerator of at most a thousand bits is in the range of a double. -/
theorem nearest_isSome {num : Nat} (den : Nat) (small : num.log2 < 1000) :
    (nearest num den).isSome = true := by
  have bound : exponentOf num den < 971 := by
    unfold exponentOf leastExponent
    dsimp only
    split <;> omega
  unfold nearest
  split
  · rfl
  · simp [fitsDouble, bound]

end Binary

namespace Color

/-! ### Colours by their kind -/

/-- The whole number that a component stands for is one byte. -/
theorem isByte_iff {v : Value} : isByte v = true ↔ ∃ n, v.whole? = some n ∧ 0 ≤ n ∧ n ≤ 255 := by
  simp [isByte, Option.any_eq_true]

/-- Every named colour is made of bytes and has an index of the table. -/
theorem named_bounds : ∀ entry ∈ names, (∀ c ∈ entry.components.toList, c ≤ 255) ∧
    entry.index < table.length := by
  decide

theorem table_bounds : ∀ entry ∈ table, ∀ c ∈ entry.toList, c ≤ 255 := by
  decide

theorem ofName?_mem {name : Text} {entry : Named} (found : ofName? name = some entry) :
    entry ∈ names := by
  unfold ofName? at found
  exact List.mem_of_find?_eq_some found

theorem ofIndex?_eq_some_iff {n : Int} {entry : Triple Nat} :
    ofIndex? n = some entry ↔ 0 ≤ n ∧ table[n.toNat]? = some entry := by
  unfold ofIndex?
  split
  next nonneg => simp [nonneg]
  next negative => simp [negative]

/-- A colour that is not the transparent brush is a name, an index, or three bytes. -/
theorem isColor_cases {v : Value} (color : isColor v = true) (opaque_ : v ≠ .bool false) :
    (∃ name entry, v = .text name ∧ ofName? name = some entry) ∨
      (∃ n entry, v = .int n ∧ ofIndex? n = some entry) ∨
      ∃ t : Triple Value, v = .list t.toList ∧ ∀ c ∈ t.toList, isByte c = true := by
  unfold isColor at color
  split at color
  next b =>
    obtain rfl : b = false := by simpa using color
    exact absurd rfl opaque_
  next n =>
    obtain ⟨entry, found⟩ := Option.isSome_iff_exists.mp color
    exact Or.inr (Or.inl ⟨n, entry, rfl, found⟩)
  next name =>
    obtain ⟨entry, found⟩ := Option.isSome_iff_exists.mp color
    exact Or.inl ⟨name, entry, rfl, found⟩
  next red green blue =>
    refine Or.inr (Or.inr ⟨⟨red, green, blue⟩, rfl, ?_⟩)
    simpa [Triple.toList, and_assoc] using color
  next => cases color

/-! ### Conversions -/

/-- A colour can be shown: it has three bytes, three fractions, and an index of the table. -/
structure Converts (v : Value) : Prop where
  bytes : ∃ t : Triple Value, convert (.text ['b']) v = .ok (.list t.toList) ∧
    ∀ c ∈ t.toList, ∃ n, c.whole? = some n ∧ 0 ≤ n ∧ n ≤ 255
  fractions : ∃ t : Triple Float, convert (.text ['f']) v = .ok (.list (t.toList.map .float))
  index : ∃ i : Nat, i ≤ 9 ∧ convert (.text ['i']) v = .ok (.int i)

theorem number?_of_whole? {v : Value} {n : Int} (stands : v.whole? = some n) :
    v.number? = some (.whole n) := by
  cases v <;> simp_all [Value.number?, Value.whole?]

theorem fraction_of_isByte {c : Value} (byte : isByte c = true) : ∃ x, fraction c = .ok x := by
  obtain ⟨n, stands, nonneg, small⟩ := isByte_iff.mp byte
  have bits : n.natAbs.log2 < 1000 := by
    by_cases zero : n.natAbs = 0
    · rw [zero]
      decide
    · have byte := (Nat.log2_lt zero).mpr (by omega : n.natAbs < 2 ^ 8)
      omega
  obtain ⟨b, near⟩ := Option.isSome_iff_exists.mp (Binary.nearest_isSome 1 bits)
  simp [fraction, number?_of_whole? stands, Number.toFloat?, Number.quotient?, near]

/-- The components of a colour are bytes, of whatever kind it is. -/
theorem components_of_isColor {v : Value} (color : isColor v = true) (opaque_ : v ≠ .bool false) :
    ∃ t, components v = .ok t ∧ ∀ c ∈ t.toList, isByte c = true := by
  have small {entry : Triple Nat} (bound : ∀ c ∈ entry.toList, c ≤ 255) :
      ∀ c ∈ (entry.map ofNat).toList, isByte c = true := by
    simp only [Triple.toList, Triple.map, List.forall_mem_cons] at bound ⊢
    obtain ⟨red, green, blue, _⟩ := bound
    simp only [isByte_iff, ofNat, Value.whole?, Option.some.injEq, exists_eq_left']
    exact ⟨by omega, by omega, by omega, List.forall_mem_nil _⟩
  rcases isColor_cases color opaque_ with
    ⟨name, entry, rfl, found⟩ | ⟨n, entry, rfl, found⟩ | ⟨t, rfl, bytes⟩
  · refine ⟨entry.components.map ofNat, ?_, small (named_bounds entry (ofName?_mem found)).1⟩
    simp only [components, found]
  · obtain ⟨_, here⟩ := ofIndex?_eq_some_iff.mp found
    refine ⟨entry.map ofNat, ?_, small (table_bounds entry (List.mem_of_getElem? here))⟩
    simp only [components, found]
  · exact ⟨t, rfl, bytes⟩

/-! ### The nearest entry -/

/-- The square of the distance between an entry of the table and three whole numbers. -/
def distance (entry : Triple Nat) (target : Triple Int) : Int :=
  (entry.red - target.red) ^ 2 + (entry.green - target.green) ^ 2 +
    (entry.blue - target.blue) ^ 2

/-- The first of the entries to which none is nearer. -/
def IsNearest (entries : List (Triple Nat)) (target : Triple Int) (i : Nat) : Prop :=
  ∃ entry, entries[i]? = some entry ∧ ∀ j other, entries[j]? = some other →
    distance entry target ≤ distance other target ∧
      (j < i → distance entry target < distance other target)

/-- The whole numbers that three components stand for. -/
structure StandFor (components : Triple Value) (target : Triple Int) : Prop where
  red : components.red.whole? = some target.red
  green : components.green.whole? = some target.green
  blue : components.blue.whole? = some target.blue

theorem squaredDistance_of_standFor {components : Triple Value} {target : Triple Int}
    (stand : StandFor components target) (entry : Triple Nat) :
    squaredDistance entry components = .ok (.whole (distance entry target)) := by
  have gap {c : Value} {n : Int} (e : Nat) (stands : c.whole? = some n) :
      squaredGap e c = .ok (.whole ((e - n) ^ 2)) := by
    simp [squaredGap, number?_of_whole? stands, Number.sub?, Number.combine, Number.square?,
      Int.pow_succ]
  simp only [squaredDistance, gap _ stand.red, gap _ stand.green, gap _ stand.blue]
  rfl

theorem isLess_whole {a b : Int} : Number.isLess (.whole a) (.whole b) = true ↔ a < b := by
  simp [Number.isLess, Number.order?, Number.fraction?, Int.compare_eq_lt]

/-- Every whole number is below the start of the search. -/
theorem isLess_infinite (n : Int) :
    Number.isLess (.whole n) (.real (1.0 / 0.0)) = true := by
  have infinite : (Number.real (1.0 / 0.0)).fraction? = none := by decide +kernel
  have greater : Number.orderFloats? 0.0 (1.0 / 0.0) = some .lt := by decide +kernel
  have whole : (Number.whole n).fraction? = some (n, 1) := rfl
  simp only [Number.isLess, Number.order?, infinite, whole, Number.toFloat?, Option.bind_some,
    greater, beq_self_eq_true]

section Search

variable {components : Triple Value} {target : Triple Int} {seen : List (Triple Nat)}
  {best : Nat} {entry next : Triple Nat}

theorem IsNearest.concat_of_less (nearest : IsNearest seen target best)
    (here : seen[best]? = some entry) (less : distance next target < distance entry target) :
    IsNearest (seen ++ [next]) target seen.length := by
  obtain ⟨entry', here', least⟩ := nearest
  obtain rfl : entry' = entry := Option.some_inj.mp (here'.symm.trans here)
  refine ⟨next, by simp, fun j other found => ?_⟩
  by_cases old : j < seen.length
  · rw [List.getElem?_append_left old] at found
    have further := (least j other found).1
    exact ⟨by omega, fun _ => by omega⟩
  · rw [List.getElem?_append_right (Nat.le_of_not_lt old), List.getElem?_singleton] at found
    split at found
    · cases found
      exact ⟨Int.le_refl _, fun earlier => absurd earlier old⟩
    · cases found

theorem IsNearest.concat_of_not_less (nearest : IsNearest seen target best)
    (here : seen[best]? = some entry) (notLess : ¬distance next target < distance entry target) :
    IsNearest (seen ++ [next]) target best := by
  obtain ⟨entry', here', least⟩ := nearest
  obtain rfl : entry' = entry := Option.some_inj.mp (here'.symm.trans here)
  obtain ⟨inside, _⟩ := List.getElem?_eq_some_iff.mp here
  refine ⟨entry', by rw [List.getElem?_append_left inside, here], fun j other found => ?_⟩
  by_cases old : j < seen.length
  · rw [List.getElem?_append_left old] at found
    exact least j other found
  · rw [List.getElem?_append_right (Nat.le_of_not_lt old), List.getElem?_singleton] at found
    split at found
    · cases found
      exact ⟨by omega, fun earlier => by omega⟩
    · cases found

/-- The search goes on from the nearest of the entries that it has seen. -/
theorem nearestFrom_isNearest (stand : StandFor components target) (rest : List (Triple Nat))
    (nearest : IsNearest seen target best) (here : seen[best]? = some entry) :
    ∃ i, nearestFrom components seen.length best (some (.whole (distance entry target))) rest =
      .ok i ∧ IsNearest (seen ++ rest) target i := by
  induction rest generalizing seen best entry with
  | nil => exact ⟨best, rfl, by rwa [List.append_nil]⟩
  | cons next rest ih =>
    have size : (seen ++ [next]).length = seen.length + 1 := by simp
    have joined : seen ++ next :: rest = seen ++ [next] ++ rest := by simp
    rw [joined]
    simp only [nearestFrom, squaredDistance_of_standFor stand, Option.getD_some, isLess_whole,
      bind, Except.bind]
    split
    next less =>
      rw [← size]
      exact ih (nearest.concat_of_less here less) (by simp)
    next notLess =>
      obtain ⟨inside, _⟩ := List.getElem?_eq_some_iff.mp here
      rw [← size]
      exact ih (nearest.concat_of_not_less here notLess)
        (by rw [List.getElem?_append_left inside, here])

/-- The index of three whole numbers is the first one whose entry is nearest to them. -/
theorem nearestIndex_isNearest (stand : StandFor components target) :
    ∃ i, nearestIndex components = .ok i ∧ IsNearest table target i := by
  obtain ⟨first, rest, whole⟩ : ∃ first rest, table = first :: rest := ⟨_, _, rfl⟩
  have start : IsNearest [first] target 0 := by
    refine ⟨first, rfl, fun j other found => ?_⟩
    cases j with
    | zero =>
      cases found
      exact ⟨Int.le_refl _, fun earlier => absurd earlier (Nat.lt_irrefl 0)⟩
    | succ j => simp at found
  obtain ⟨i, found, nearest⟩ := nearestFrom_isNearest stand rest start rfl
  refine ⟨i, ?_, whole ▸ nearest⟩
  rw [nearestIndex, whole, nearestFrom, squaredDistance_of_standFor stand]
  simp only [bind, Except.bind, Option.getD_none, isLess_infinite, if_true]
  exact found

end Search

theorem IsNearest.lt_length {entries : List (Triple Nat)} {target : Triple Int} {i : Nat}
    (nearest : IsNearest entries target i) : i < entries.length := by
  obtain ⟨entry, here, _⟩ := nearest
  exact (List.getElem?_eq_some_iff.mp here).1

/-- The index of a colour is one of the table, of whatever kind it is. -/
theorem index_of_isColor {v : Value} (color : isColor v = true) (opaque_ : v ≠ .bool false) :
    ∃ i, index v = .ok i ∧ i < table.length := by
  rcases isColor_cases color opaque_ with
    ⟨name, entry, rfl, found⟩ | ⟨n, entry, rfl, found⟩ | ⟨t, rfl, bytes⟩
  · refine ⟨entry.index, ?_, (named_bounds entry (ofName?_mem found)).2⟩
    simp only [index, found]
  · obtain ⟨_, here⟩ := ofIndex?_eq_some_iff.mp found
    refine ⟨n.toNat, ?_, (List.getElem?_eq_some_iff.mp here).1⟩
    simp only [index, found]
  · simp only [Triple.toList, List.forall_mem_cons, isByte_iff] at bytes
    obtain ⟨⟨red, isRed, _⟩, ⟨green, isGreen, _⟩, ⟨blue, isBlue, _⟩, _⟩ := bytes
    have stand : StandFor t ⟨red, green, blue⟩ := ⟨isRed, isGreen, isBlue⟩
    obtain ⟨i, found, nearest⟩ := nearestIndex_isNearest stand
    exact ⟨i, found, nearest.lt_length⟩

/-- What a surface takes as a colour can be converted, but for the transparent brush. -/
theorem converts_of_isColor {v : Value} (color : isColor v = true) (opaque_ : v ≠ .bool false) :
    Converts v := by
  obtain ⟨t, made, bytes⟩ := components_of_isColor color opaque_
  refine ⟨⟨t, ?_, fun c member => isByte_iff.mp (bytes c member)⟩, ?_, ?_⟩
  · simp only [convert, Conversion.ofValue?, made]
    rfl
  · simp only [Triple.toList, List.forall_mem_cons] at bytes
    obtain ⟨x, isX⟩ := fraction_of_isByte bytes.1
    obtain ⟨y, isY⟩ := fraction_of_isByte bytes.2.1
    obtain ⟨z, isZ⟩ := fraction_of_isByte bytes.2.2.1
    refine ⟨⟨x, y, z⟩, ?_⟩
    simp only [convert, Conversion.ofValue?, Color.fractions, made, bind, Except.bind, isX, isY, isZ]
    rfl
  · obtain ⟨i, found, small⟩ := index_of_isColor color opaque_
    refine ⟨i, Nat.le_of_lt_succ small, ?_⟩
    simp only [convert, Conversion.ofValue?, found]
    rfl

end Color

/-! ### Setting colours -/

namespace Palette

variable {p q : Palette} {property : Property} {v : Value}

theorem set_eq_ok_iff :
    p.set property v = .ok q ↔ accepts property v = true ∧ q = p.put property v := by
  unfold set
  split
  next accepted => simp [accepted, eq_comm]
  next rejected => simp [rejected]

theorem opaque_of_accepts (accepted : (Color.isColor v && !v.isFalse) = true) :
    Color.isColor v = true ∧ v ≠ .bool false := by
  rw [Bool.and_eq_true, Bool.not_eq_true'] at accepted
  refine ⟨accepted.1, ?_⟩
  rintro rfl
  cases accepted.2

theorem isColor_of_accepts (colors : property ≠ .lineWidth) (accepted : accepts property v = true) :
    Color.isColor v = true := by
  cases property with
  | lineColor => exact (opaque_of_accepts accepted).1
  | fillColor => exact accepted
  | background => exact (opaque_of_accepts accepted).1
  | lineWidth => exact absurd rfl colors

/-- The line colour and the background are colours, and the fill colour is one or is transparent. -/
structure Colored (p : Palette) : Prop where
  line : Color.isColor p.line = true
  lineOpaque : p.line ≠ .bool false
  background : Color.isColor p.background = true
  backgroundOpaque : p.background ≠ .bool false
  fill : Color.isColor p.fill = true

theorem colored_default : Colored {} where
  line := by decide
  lineOpaque := nofun
  background := by decide
  backgroundOpaque := nofun
  fill := by decide

theorem Colored.set (colored : p.Colored) (done : p.set property v = .ok q) : q.Colored := by
  obtain ⟨accepted, rfl⟩ := set_eq_ok_iff.mp done
  cases property with
  | lineColor =>
    obtain ⟨color, opaque_⟩ := opaque_of_accepts accepted
    exact { colored with line := color, lineOpaque := opaque_ }
  | fillColor => exact { colored with fill := accepted }
  | background =>
    obtain ⟨color, opaque_⟩ := opaque_of_accepts accepted
    exact { colored with background := color, backgroundOpaque := opaque_ }
  | lineWidth => exact { colored with }

end Palette

namespace Stage

/-- A surface after a host has tried to set a member of it.  A value that is rejected changes
nothing. -/
def attempt (stage : Stage) (change : Member × Value) : Stage :=
  match stage.set change.1 change.2 with
  | .ok next => next
  | .error _ => stage

@[simp] theorem palette_withPalette (stage : Stage) (p : Palette) :
    (stage.withPalette p).palette = p := by
  cases stage <;> rfl

/-- Only a property changes the palette. -/
theorem palette_of_set {stage next : Stage} {member : Member} {v : Value}
    (done : stage.set member v = .ok next) :
    next.palette = stage.palette ∨
      ∃ property, stage.palette.set property v = .ok next.palette := by
  unfold set at done
  split at done
  next property =>
    obtain ⟨p, set, rfl⟩ := map_eq_ok done
    exact Or.inr ⟨property, by rw [set, palette_withPalette]⟩
  next =>
    cases done
    exact Or.inl rfl
  next => cases done
  next => cases done

theorem colored_attempts {stage : Stage} (colored : stage.palette.Colored)
    (changes : List (Member × Value)) : (changes.foldl attempt stage).palette.Colored := by
  induction changes generalizing stage with
  | nil => exact colored
  | cons change changes ih =>
    refine ih ?_
    unfold attempt
    split
    next next done =>
      rcases palette_of_set done with same | ⟨property, set⟩
      · exact same ▸ colored
      · exact colored.set set
    · exact colored

/-- Whatever a surface takes for one of its three colours can be converted to bytes, to fractions and
to an index, if it is not `false`, which only the fill colour can be.  The index of any three whole
numbers is the first one whose entry of the table is nearest to them.

On a new surface that a host sets as it likes, with values that are taken and others that are
rejected, the line colour and the background are therefore never `false`, and they can always be
converted; so can the fill colour, if it is not `false`. -/
theorem accepted_colors_convert :
    (∀ (p q : Palette) (property : Property) (v : Value), property ≠ .lineWidth →
      p.set property v = .ok q → v ≠ .bool false → Color.Converts v) ∧
    (∀ (components : Triple Value) (target : Triple Int), Color.StandFor components target →
      ∃ i : Nat, Color.convert (.text ['i']) (.list components.toList) = .ok (.int i) ∧
        Color.IsNearest Color.table target i) ∧
    ∀ (stage : Stage) (changes : List (Member × Value)), stage.palette = {} →
      let after := (changes.foldl attempt stage).palette
      after.line ≠ .bool false ∧ Color.Converts after.line ∧
        after.background ≠ .bool false ∧ Color.Converts after.background ∧
        (after.fill ≠ .bool false → Color.Converts after.fill) := by
  refine ⟨?_, ?_, ?_⟩
  · intro p q property v colors done opaque_
    obtain ⟨accepted, _⟩ := Palette.set_eq_ok_iff.mp done
    exact Color.converts_of_isColor (Palette.isColor_of_accepts colors accepted) opaque_
  · intro components target stand
    obtain ⟨i, found, nearest⟩ := Color.nearestIndex_isNearest stand
    refine ⟨i, ?_, nearest⟩
    simp only [Color.convert, Color.Conversion.ofValue?, Triple.toList, Color.index, found]
    rfl
  · intro stage changes fresh after
    have colored : after.Colored := colored_attempts (fresh ▸ Palette.colored_default) changes
    exact ⟨colored.lineOpaque, Color.converts_of_isColor colored.line colored.lineOpaque,
      colored.backgroundOpaque,
      Color.converts_of_isColor colored.background colored.backgroundOpaque,
      Color.converts_of_isColor colored.fill⟩

/-- Truth values count as components, a tie goes to the lower index, and a background that is
rejected is not the one that is in effect. -/
theorem accepted_colors_convert_of_mixed :
    let mixed : Value := .list [.bool true, .int 200, .bool false]
    let halfway : Triple Value := ⟨.int 0, .int 64, .int 64⟩
    let changes : List (Member × Value) :=
      [(.property .lineColor, mixed), (.property .background, .bool false),
        (.property .background, .text "DarkGrey".toList), (.property .lineColor, .int 10),
        (.property .fillColor, .bool false)]
    let after := (changes.foldl attempt (.recording Recording.surface)).palette
    Color.Converts mixed ∧
      (∃ i : Nat, Color.convert (.text ['i']) (.list halfway.toList) = .ok (.int i) ∧
        Color.IsNearest Color.table ⟨0, 64, 64⟩ i) ∧
      after.line = mixed ∧ after.background = .text "DarkGrey".toList ∧
      Color.Converts after.line ∧ Color.Converts after.background := by
  intro mixed halfway changes after
  obtain ⟨taken, nearest, sessions⟩ := accepted_colors_convert
  obtain ⟨_, line, _, background, _⟩ := sessions (.recording Recording.surface) changes rfl
  refine ⟨taken {} _ .lineColor mixed nofun rfl nofun, ?_, rfl, rfl, line, background⟩
  exact nearest halfway ⟨0, 64, 64⟩ ⟨rfl, rfl, rfl⟩

end Stage

end Plotter
