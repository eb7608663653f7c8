import Plotter.Settings

/-!
# Settings from values

Values of any kind are given for some of the fields.  The settings take them if each fits its field,
and have defaults elsewhere; otherwise the first value that does not fit is named.

## Main result

`ofFields_eq_ok_iff` and `ofFields_eq_error_iff` say when there are settings and what they hold, and
which field is at fault when there are none.  They are stated over `get`, one field at a time:
settings with the same values are the same (`ext_get`).

## Proof strategy

`set?` takes what fits (`isSome_set?_iff`) and changes one field only (`get_of_set?`).  `setAll` goes
through the fields in order, so the induction is on the list of fields that are left.
-/

namespace Plotter

namespace Count

variable {v : Value} {c : Count}

theorem value_of_ofValue? (read : ofValue? v = some c) : c.value = v := by
  unfold ofValue? at read
  split at read
  next n =>
    split at read
    next positive =>
      cases read
      exact congrArg Value.int (Int.toNat_of_nonneg (Int.le_of_lt positive))
    · cases read
  · cases read
    rfl
  · cases read

theorem isSome_ofValue?_iff : (ofValue? v).isSome ↔ ∃ n, v.whole? = some n ∧ 0 < n := by
  cases v with
  | int n => by_cases positive : 0 < n <;> simp [ofValue?, Value.whole?, positive]
  | bool b => cases b <;> simp [ofValue?, Value.whole?]
  | _ => simp [ofValue?, Value.whole?]

theorem value_injective : Function.Injective value := by
  intro a b same
  cases a <;> cases b
  case whole.whole => exact congrArg whole (Int.ofNat.inj (Value.int.inj same))
  case affirmative.affirmative => rfl
  all_goals cases same

end Count

namespace PenColor

variable {t : Text} {color : PenColor}

theorem word_of_ofWord? (found : ofWord? t = some color) : color.word = t := by
  simpa using List.find?_some found

@[simp] theorem ofWord?_word (color : PenColor) : ofWord? color.word = some color := by
  cases color <;> decide

theorem word_injective : Function.Injective word := by
  intro a b same
  have found := ofWord?_word a
  rw [same, ofWord?_word] at found
  exact (Option.some.inj found).symm

end PenColor

namespace Field

@[simp] theorem mem_all (f : Field) : f ∈ all := by
  cases f <;> decide

theorem nodup_all : all.Nodup := by decide

/-- No two fields have the same place in a file. -/
theorem place_injective : Function.Injective place := by
  intro f g same
  revert same
  cases f <;> cases g <;> decide

/-- What a value must be for a field. -/
def Fits : Field → Value → Prop
  | .stopOnError, v | .fill, v => ∃ b, v = .bool b
  | .maxCallDepth, v | .canvasWidth, v | .canvasHeight, v => ∃ n, v.whole? = some n ∧ 0 < n
  | .penColor, v => ∃ color : PenColor, v = .text color.word
  | .background, v => ∃ t, v = .text t ∧ ∃ entry ∈ Color.names, entry.name = Text.lower t
  | .outputFilename, v => ∃ t, v = .text t ∧ t ≠ []

end Field

namespace Settings

variable {s s' : Settings} {f : Field} {v : Value} {values : FieldValues}

/-! ### One field -/

/-- Settings are told apart by the values of their fields. -/
theorem ext_get (same : ∀ f, s.get f = s'.get f) : s = s' := by
  have stop := same .stopOnError
  have depth := same .maxCallDepth
  have color := same .penColor
  have fill := same .fill
  have width := same .canvasWidth
  have height := same .canvasHeight
  have background := same .background
  have output := same .outputFilename
  obtain ⟨_, _, _, _, _, _, _, _⟩ := s
  obtain ⟨_, _, _, _, _, _, _, _⟩ := s'
  simp only [get, Value.bool.injEq, Value.text.injEq] at *
  congr
  · exact Count.value_injective depth
  · exact PenColor.word_injective color
  · exact Count.value_injective width
  · exact Count.value_injective height

theorem isSome_set?_iff : (s.set? f v).isSome ↔ f.Fits v := by
  cases f with
  | stopOnError | fill => cases v <;> simp [set?, Field.Fits]
  | maxCallDepth | canvasWidth | canvasHeight =>
    simpa [set?, Field.Fits] using Count.isSome_ofValue?_iff
  | penColor =>
    cases v with
    | text t =>
      simp only [set?, Field.Fits, Option.isSome_map, Value.text.injEq]
      constructor
      · intro found
        obtain ⟨color, found⟩ := Option.isSome_iff_exists.mp found
        exact ⟨color, (PenColor.word_of_ofWord? found).symm⟩
      · rintro ⟨color, rfl⟩
        simp
    | _ => simp [set?, Field.Fits]
  | background =>
    cases v with
    | text t =>
      have named : Color.isName t ↔ ∃ entry ∈ Color.names, entry.name = Text.lower t := by
        simp [Color.isName, Color.ofName?]
      by_cases known : Color.isName t <;> simp [set?, Field.Fits, ← named, known]
    | _ => simp [set?, Field.Fits]
  | outputFilename =>
    cases v with
    | text t => cases t <;> simp [set?, Field.Fits]
    | _ => simp [set?, Field.Fits]

/-- A field that is set has the value that was given, and the others stay. -/
theorem get_of_set? (done : s.set? f v = some s') (g : Field) :
    s'.get g = if g = f then v else s.get g := by
  unfold set? at done
  split at done
  case h_1 | h_4 => cases done; cases g <;> rfl
  case h_2 | h_5 | h_6 =>
    obtain ⟨c, read, rfl⟩ := Option.map_eq_some_iff.mp done
    cases Count.value_of_ofValue? read
    cases g <;> rfl
  case h_3 =>
    obtain ⟨color, found, rfl⟩ := Option.map_eq_some_iff.mp done
    cases PenColor.word_of_ofWord? found
    cases g <;> rfl
  case h_7 =>
    split at done
    · cases done; cases g <;> rfl
    · cases done
  case h_8 =>
    split at done
    · cases done
    · cases done; cases g <;> rfl
  case h_9 => cases done

/-- Every default fits its field. -/
theorem fits_default (f : Field) : f.Fits (({} : Settings).get f) := by
  cases f with
  | stopOnError => exact ⟨false, rfl⟩
  | fill => exact ⟨true, rfl⟩
  | maxCallDepth => exact ⟨32, rfl, by decide⟩
  | canvasWidth => exact ⟨640, rfl, by decide⟩
  | canvasHeight => exact ⟨480, rfl, by decide⟩
  | penColor => exact ⟨.black, rfl⟩
  | background =>
    exact ⟨_, rfl, ⟨"darkgray".toList, ⟨169, 169, 169⟩, 8⟩, by decide, by decide⟩
  | outputFilename => exact ⟨_, rfl, by decide⟩

/-! ### All fields -/

/-- Setting every field that has a value: each fits, and nothing else changes. -/
theorem setAll_ok {fields : List Field} (distinct : fields.Nodup)
    (done : setAll values fields s = .ok s') :
    (∀ f ∈ fields, ∀ v, values f = some v → f.Fits v) ∧
      ∀ f, s'.get f = if f ∈ fields then (values f).getD (s.get f) else s.get f := by
  -- A field that is set does not come again, so what later fields change leaves it as it is.
  induction fields generalizing s with
  | nil => cases done; simp
  | cons field rest ih =>
    obtain ⟨absent, distinct⟩ := List.nodup_cons.mp distinct
    unfold setAll at done
    split at done
    next untouched =>
      obtain ⟨fit, got⟩ := ih distinct done
      refine ⟨by simpa [untouched] using fit, fun f => ?_⟩
      rw [got]
      by_cases same : f = field
      · subst same; simp [absent, untouched]
      · simp [same]
    next v given =>
      split at done
      next next_ changed =>
        obtain ⟨fit, got⟩ := ih distinct done
        have fitting : field.Fits v := isSome_set?_iff.mp (by rw [changed]; rfl)
        refine ⟨by simpa [given] using ⟨fitting, fit⟩, fun f => ?_⟩
        rw [got, get_of_set? changed]
        by_cases same : f = field
        · subst same; simp [absent, given]
        · simp [same]
      · cases done

/-- The first value that does not fit is named. -/
theorem setAll_error {fields : List Field} {e : SettingsError}
    (failed : setAll values fields s = .error e) :
    ∃ front f back v, fields = front ++ f :: back ∧
      (∀ g ∈ front, ∀ w, values g = some w → g.Fits w) ∧ values f = some v ∧ ¬ f.Fits v ∧
        e = .invalid f v := by
  induction fields generalizing s with
  | nil => cases failed
  | cons field rest ih =>
    unfold setAll at failed
    split at failed
    next untouched =>
      obtain ⟨front, f, back, v, rfl, fit, found⟩ := ih failed
      exact ⟨field :: front, f, back, v, rfl, by simpa [untouched] using fit, found⟩
    next v given =>
      split at failed
      next next_ changed =>
        obtain ⟨front, f, back, w, rfl, fit, found⟩ := ih failed
        have fitting : field.Fits v := isSome_set?_iff.mp (by rw [changed]; rfl)
        exact ⟨field :: front, f, back, w, rfl, by simpa [given] using ⟨fitting, fit⟩, found⟩
      next unchanged =>
        cases failed
        refine ⟨[], field, rest, v, rfl, nofun, given, fun fitting => ?_, rfl⟩
        have taken := isSome_set?_iff (s := s) |>.mpr fitting
        simp [unchanged] at taken

/-- The value of a field when values are given for some. -/
def merged (values : FieldValues) (f : Field) : Value := (values f).getD (({} : Settings).get f)

theorem fits_merged_iff : f.Fits (merged values f) ↔ ∀ v, values f = some v → f.Fits v := by
  unfold merged
  cases values f with
  | none => simpa using fits_default f
  | some v => simp

/-- There are settings if every value fits, and they hold the values, or defaults. -/
theorem ofFields_eq_ok_iff :
    ofFields values = .ok s ↔ ∀ f, f.Fits (merged values f) ∧ s.get f = merged values f := by
  have sound {s : Settings} (done : ofFields values = .ok s) (f : Field) :
      f.Fits (merged values f) ∧ s.get f = merged values f := by
    obtain ⟨fit, got⟩ := setAll_ok Field.nodup_all done
    exact ⟨fits_merged_iff.mpr (fit f f.mem_all), by simp [got, merged]⟩
  -- The fields say what the settings are, so whatever is returned is what holds.
  refine ⟨sound, fun holds => ?_⟩
  cases outcome : ofFields values with
  | ok other =>
    exact congrArg Except.ok (ext_get fun f => (sound outcome f).2.trans (holds f).2.symm)
  | error e =>
    obtain ⟨_, f, _, v, _, _, given, misfit, _⟩ := setAll_error outcome
    exact absurd (fits_merged_iff.mp (holds f).1 v given) misfit

/-- The error names the first field whose value does not fit. -/
theorem ofFields_eq_error_iff {e : SettingsError} :
    ofFields values = .error e ↔
      ∃ front f back, Field.all = front ++ f :: back ∧
        (∀ g ∈ front, g.Fits (merged values g)) ∧ ¬ f.Fits (merged values f) ∧
          e = .invalid f (merged values f) := by
  have sound {e : SettingsError} (failed : ofFields values = .error e) :
      ∃ front f back, Field.all = front ++ f :: back ∧
        (∀ g ∈ front, g.Fits (merged values g)) ∧ ¬ f.Fits (merged values f) ∧
          e = .invalid f (merged values f) := by
    obtain ⟨front, f, back, v, order, fit, given, misfit, rfl⟩ := setAll_error failed
    have value : merged values f = v := by simp [merged, given]
    exact ⟨front, f, back, order, fun g member => fits_merged_iff.mpr (fit g member),
      value ▸ misfit, value ▸ rfl⟩
  refine ⟨sound, ?_⟩
  rintro ⟨front, f, back, order, fit, misfit, rfl⟩
  cases outcome : ofFields values with
  | ok s => exact absurd (ofFields_eq_ok_iff.mp outcome f).1 misfit
  | error other =>
    obtain ⟨front', f', back', order', fit', misfit', rfl⟩ := sound outcome
    -- Two first misfits of one list: neither stands before the other.
    obtain rfl : f' = f := by
      rcases List.append_eq_append_iff.mp (order.symm.trans order') with
        ⟨between, longer, rest⟩ | ⟨between, longer, rest⟩
      · cases between with
        | nil => simpa using (List.cons.inj rest).1.symm
        | cons g _ =>
          cases (List.cons.inj rest).1
          exact absurd (fit' f (by simp [longer])) misfit
      · cases between with
        | nil => simpa using (List.cons.inj rest).1
        | cons g _ =>
          cases (List.cons.inj rest).1
          exact absurd (fit f' (by simp [longer])) misfit'
    rfl

end Settings

end Plotter
