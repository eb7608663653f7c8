import Plotter.Proofs.Configuration.Reading

/-!
# Layers of settings

A field has the value that a variable gives it, or else the one that the file gives it, or else its
default; and values are checked when all three are laid over each other.

## Main result

`settings_layered`: there are settings just when the file is a mapping of known settings, the
variables are understood and every field has a value that fits it after layering, and then each
field has that value.  If only the last fails, the error names the first field at fault, unless its
value is a number of too many digits or holds one (`wide_misfit_unnamed`).

## Proof strategy

`Effective` puts the layers together by what they say, not by the functions that read them.  What
`ofFields` checks are the effective values (`effective_merged`), and a field has only one since no
key stands twice in a file (`Effective.unique`).  `layered_ok` and `layered_error` say all that can
happen, and the main result puts them together.
-/

namespace Plotter

namespace Configuration

variable {environment : Environment} {given : Option (Text × Value)} {path : Text} {file v w : Value}
  {f : Field} {fields : List (Field × Value)} {e : SettingsError}

/-! ### The file, if there is one -/

/-- The file, if there is one, holds settings. -/
def HoldsSettings (given : Option (Text × Value)) : Prop :=
  ∀ path file, given = some (path, file) → file.IsSettings

@[simp] theorem holdsSettings_some_iff : HoldsSettings (some (path, file)) ↔ file.IsSettings := by
  simp [HoldsSettings]

/-- The settings of a file, if there is one, are those that it holds. -/
theorem sourceFields_ok (read : sourceFields given = .ok fields) :
    HoldsSettings given ∧
      ∀ f v, (f, v) ∈ fields ↔ ∃ path file, given = some (path, file) ∧ file.Holds f v := by
  match given with
  | none =>
    cases read
    exact ⟨nofun, by simp⟩
  | some (path, file) =>
    obtain ⟨isSettings, held⟩ := fieldsOfValue_ok read
    constructor
    · rintro _ _ ⟨⟩
      exact isSettings
    · intro f v
      rw [held]
      constructor
      · exact fun holds => ⟨path, file, rfl, holds⟩
      · rintro ⟨_, _, ⟨⟩, holds⟩
        exact holds

theorem sourceFields_error (failed : sourceFields given = .error e) :
    ¬ HoldsSettings given ∧ e.isRefusal = true := by
  match given with
  | none => cases failed
  | some (path, file) =>
    obtain ⟨bad, refused⟩ := fieldsOfValue_error failed
    exact ⟨fun holds => bad (holds path file rfl), refused⟩

/-- The keys of the file, if there is one, are distinct. -/
def Keyed (given : Option (Text × Value)) : Prop :=
  ∀ path file, given = some (path, file) → file.IsKeyed

@[simp] theorem keyed_some_iff : Keyed (some (path, file)) ↔ file.IsKeyed := by
  simp [Keyed]

/-! ### All layers -/

/-- The value that a field has when the layers are laid over each other. -/
inductive Effective (given : Option (Text × Value)) (environment : Environment) (f : Field) :
    Value → Prop
  | overridden {text : Text} {v : Value} (set : overriding environment f = some text)
    (reads : Reads f text v) : Effective given environment f v
  | fromFile {path : Text} {file v : Value} (unset : overriding environment f = none)
    (source : given = some (path, file)) (holds : file.Holds f v) : Effective given environment f v
  | default (unset : overriding environment f = none)
    (absent : ∀ path file v, given = some (path, file) → ¬ file.Holds f v) :
    Effective given environment f (({} : Settings).get f)

/-- A field has one value. -/
theorem Effective.unique (keyed : Keyed given) (first : Effective given environment f v)
    (second : Effective given environment f w) : v = w := by
  -- Within a layer the value is the same, and no two layers give one.
  cases first with
  | overridden set reads =>
    cases second with
    | overridden again same =>
      cases set.symm.trans again
      exact reads.unique same
    | fromFile unset | default unset => cases set.symm.trans unset
  | fromFile unset source holds =>
    cases second with
    | overridden set => cases set.symm.trans unset
    | fromFile _ again same =>
      cases source.symm.trans again
      exact holds.unique (keyed _ _ source) same
    | default _ absent => exact absurd holds (absent _ _ _ source)
  | default unset absent =>
    cases second with
    | overridden set => cases set.symm.trans unset
    | fromFile _ source holds => exact absurd holds (absent _ _ _ source)
    | default => rfl

/-- What is checked for a field is its effective value. -/
theorem effective_merged {fromFile fromEnvironment : List (Field × Value)}
    (first : sourceFields given = .ok fromFile)
    (second : overrides environment = .ok fromEnvironment) (f : Field) :
    Effective given environment f
      (Settings.merged (Settings.lastValues (fromFile ++ fromEnvironment)) f) := by
  have held := (sourceFields_ok first).2 f
  have related := overrides_ok second f
  -- What the environment gives comes later, so it is looked at before the file.
  rw [Settings.merged, Settings.lastValues_append]
  cases set : overriding environment f with
  | some text =>
    rw [set] at related
    cases value : Settings.lastValues fromEnvironment f with
    | none => rw [value] at related; cases related
    | some v =>
      rw [value] at related
      cases related with
      | some reads => exact .overridden set reads
  | none =>
    rw [set] at related
    cases value : Settings.lastValues fromEnvironment f with
    | some v => rw [value] at related; cases related
    | none =>
      cases given : Settings.lastValues fromFile f with
      | some v =>
        obtain ⟨path, file, source, holds⟩ := (held v).mp (Settings.mem_of_lastValues given)
        exact .fromFile set source holds
      | none =>
        refine .default set fun path file v source holds => ?_
        have found := Settings.lastValues_isSome ((held v).mpr ⟨path, file, source, holds⟩)
        rw [given] at found
        cases found

/-- The first field, in the order in which they are looked at, whose effective value does not fit.
-/
def FirstMisfit (given : Option (Text × Value)) (environment : Environment) (f : Field) (v : Value) :
    Prop :=
  ∃ front back, Field.all = front ++ f :: back ∧ Effective given environment f v ∧ ¬ f.Fits v ∧
    ∀ g ∈ front, ∃ w, Effective given environment g w ∧ g.Fits w

theorem layered_eq {fromFile fromEnvironment : List (Field × Value)}
    (first : sourceFields given = .ok fromFile)
    (second : overrides environment = .ok fromEnvironment) :
    layered given environment =
      Settings.ofFields (Settings.lastValues (fromFile ++ fromEnvironment)) := by
  rw [layered, first, second]
  rfl

/-- Settings are made of what is understood, and have the effective values. -/
theorem layered_ok {s : Settings} (done : layered given environment = .ok s) :
    HoldsSettings given ∧ IsReadable environment ∧
      ∀ f, Effective given environment f (s.get f) ∧ f.Fits (s.get f) := by
  obtain ⟨fromFile, first, done⟩ := bind_eq_ok done
  obtain ⟨fromEnvironment, second, done⟩ := bind_eq_ok done
  refine ⟨(sourceFields_ok first).1, fun f text set => ?_, fun f => ?_⟩
  · have related := overrides_ok second f
    rw [set] at related
    generalize Settings.lastValues fromEnvironment f = value at related
    cases related with
    | some reads => exact ⟨_, reads⟩
  · obtain ⟨fits, got⟩ := Settings.ofFields_eq_ok_iff.mp done f
    rw [got]
    exact ⟨effective_merged first second f, fits⟩

/-- Without settings, a layer is not understood or there is a first misfit, which is named. -/
theorem layered_error (failed : layered given environment = .error e) :
    ¬ (HoldsSettings given ∧ IsReadable environment) ∧ e.isRefusal = true ∨
      ∃ f v, FirstMisfit given environment f v ∧ e = .invalid f v := by
  rcases bind_eq_error failed with first | ⟨fromFile, first, failed⟩
  · obtain ⟨bad, refused⟩ := sourceFields_error first
    exact Or.inl ⟨fun both => bad both.1, refused⟩
  · rcases bind_eq_error failed with second | ⟨fromEnvironment, second, failed⟩
    · obtain ⟨bad, refused⟩ := overrides_error second
      exact Or.inl ⟨fun both => bad both.2, refused⟩
    · obtain ⟨front, f, back, order, fit, misfit, rfl⟩ := Settings.ofFields_eq_error_iff.mp failed
      have effective := effective_merged first second
      exact Or.inr ⟨f, _, ⟨front, back, order, effective f, misfit,
        fun g member => ⟨_, effective g, fit g member⟩⟩, rfl⟩

/-! ### Files -/

/-- In what a reader gives, no key of a mapping stands twice. -/
def Reader.GivesKeyed (reader : Reader) : Prop := ∀ t v, reader t = .ok v → v.IsKeyed

theorem gives_keyed_ofText : Reader.GivesKeyed Yaml.Document.ofText :=
  fun _ _ => Yaml.Document.ofText_isKeyed

variable {reader : Reader}

theorem fileValue_isKeyed (gives : reader.GivesKeyed) {files : Files} {path : Path}
    (read : fileValue reader files path = .ok file) : file.IsKeyed := by
  unfold fileValue at read
  split at read
  · obtain ⟨bytes, _, read⟩ := bind_eq_ok read
    obtain ⟨text, _, read⟩ := bind_eq_ok read
    exact gives text file (mapError_eq_ok read)
  · cases read

/-- The keys of what a file holds are distinct. -/
theorem source_keyed (gives : reader.GivesKeyed) {files : Files} {asked : Option Text}
    (read : source reader files asked environment = .ok given) : Keyed given := by
  unfold source at read
  split at read
  · cases read
    exact nofun
  · obtain ⟨file, value, rfl⟩ := map_eq_ok read
    rw [keyed_some_iff]
    exact fileValue_isKeyed gives value

theorem chooseFile_eq_none_iff {asked : Option Text} :
    chooseFile asked environment = none ↔
      (asked = none ∨ asked = some []) ∧ lookup environment fileVariable = none := by
  cases asked with
  | none => simp [chooseFile]
  | some name => cases name <;> simp [chooseFile]

theorem source_eq_none_iff {files : Files} {asked : Option Text}
    (read : source reader files asked environment = .ok given) :
    given = none ↔ chooseFile asked environment = none := by
  unfold source at read
  split at read
  next unnamed =>
    cases read
    simp [unnamed]
  next name named =>
    obtain ⟨file, _, rfl⟩ := map_eq_ok read
    simp [named]

end Configuration

namespace SettingsError

variable {f : Field} {v : Value} {e : SettingsError}

/-- The message of an error starts with the section and the key of a field. -/
def Names (e : SettingsError) (f : Field) : Prop := f.place.1 ++ '.' :: f.place.2 <+: e.message

theorem message_eq (shown : e.parts.all Value.isWritable = true) : e.message = e.wording := by
  rw [message, message?, if_pos shown, Option.getD_some]

theorem wording_invalid :
    (invalid f v).wording = f.place.1 ++ '.' :: f.place.2 ++
      (" must be ".toList ++ (f.requirement ++ (": ".toList ++ v.shown))) := by
  unfold wording
  simp only [List.append_assoc]
  rfl

/-- What stands in the place of a message that cannot be written names no field. -/
theorem not_names_of_hidden (hidden : e.parts.all Value.isWritable = false) (f : Field) :
    ¬ e.Names f := by
  have message : e.message = unwritten := by
    rw [SettingsError.message, message?, hidden]
    rfl
  unfold Names
  rw [message]
  cases f <;> decide

/-- A misfit is named if it can be shown. -/
theorem names_invalid_iff : (invalid f v).Names f ↔ v.isWritable = true := by
  have parts : (invalid f v).parts.all Value.isWritable = v.isWritable := by
    simp [SettingsError.parts]
  cases writable : v.isWritable with
  | false => simp [not_names_of_hidden (parts.trans writable)]
  | true =>
    unfold Names
    rw [message_eq (parts.trans writable), wording_invalid]
    simp

end SettingsError

namespace Configuration

/-- Layering is exact.  There are settings just when the file holds settings, the variables can be
read and every field has an effective value that fits it, and then each field has that value.  All
else is refused; and if only a value does not fit, the error is that of the first such field, which
its message names just when the value can be shown.  The file is the one that is asked for or that
the environment names; without one, nothing is given, and in one no key stands twice, if the reader
of files gives none twice. -/
theorem settings_layered (given : Option (Text × Value)) (environment : Environment) :
    (Keyed given →
      ((∃ s, layered given environment = .ok s) ↔
        HoldsSettings given ∧ IsReadable environment ∧
          ∀ f, ∃ v, Effective given environment f v ∧ f.Fits v)) ∧
    (∀ s, layered given environment = .ok s → ∀ f, Effective given environment f (s.get f)) ∧
    (∀ e, layered given environment = .error e → e.isRefusal = true) ∧
    (HoldsSettings given → IsReadable environment →
      (¬ ∀ f, ∃ v, Effective given environment f v ∧ f.Fits v) →
        ∃ f v, FirstMisfit given environment f v ∧
          layered given environment = .error (.invalid f v) ∧
            ((SettingsError.invalid f v).Names f ↔ v.isWritable = true)) ∧
    ∀ (reader : Reader) files asked, source reader files asked environment = .ok given →
      load reader files asked environment = (layered given environment).mapError .settings ∧
        (given = none ↔ (asked = none ∨ asked = some []) ∧ lookup environment fileVariable = none) ∧
          (reader.GivesKeyed → Keyed given) := by
  refine ⟨fun keyed => ⟨?_, ?_⟩, ?_, ?_, ?_, ?_⟩
  · rintro ⟨s, done⟩
    obtain ⟨holds, readable, effective⟩ := layered_ok done
    exact ⟨holds, readable, fun f => ⟨_, effective f⟩⟩
  · rintro ⟨holds, readable, fit⟩
    cases outcome : layered given environment with
    | ok s => exact ⟨s, rfl⟩
    | error e =>
      rcases layered_error outcome with ⟨bad, _⟩ | ⟨f, v, ⟨_, _, _, effective, misfit, _⟩, _⟩
      · exact absurd ⟨holds, readable⟩ bad
      -- The misfit that is named would be a second value of its field.
      · obtain ⟨w, same, fits⟩ := fit f
        exact absurd (same.unique keyed effective ▸ fits) misfit
  · exact fun s done f => ((layered_ok done).2.2 f).1
  · intro e failed
    rcases layered_error failed with ⟨_, refused⟩ | ⟨f, v, _, rfl⟩
    · exact refused
    · rfl
  · intro holds readable misfit
    cases outcome : layered given environment with
    | ok s => exact absurd (fun f => ⟨_, (layered_ok outcome).2.2 f⟩) misfit
    | error e =>
      rcases layered_error outcome with ⟨bad, _⟩ | ⟨f, v, first, rfl⟩
      · exact absurd ⟨holds, readable⟩ bad
      · exact ⟨f, v, first, rfl, SettingsError.names_invalid_iff⟩
  · intro reader files asked read
    refine ⟨?_, (source_eq_none_iff read).trans chooseFile_eq_none_iff,
      fun gives => source_keyed gives read⟩
    rw [load, read]
    rfl

/-- A bad number of calls is in the file, and the environment replaces it. -/
theorem settings_layered_of_override :
    let file : Value := .map [
      (.text "interpreter".toList, .map [(.text "max_call_depth".toList, .text "many".toList)]),
      (.text "canvas".toList, .map [(.text "width".toList, .bool true)])]
    let given := some ("settings.yaml".toList, file)
    let environment : Environment := ⟨[(stopVariable, []), (depthVariable, " ٤_0\n".toList)]⟩
    Keyed given ∧ HoldsSettings given ∧ IsReadable environment ∧
      ∃ s, layered given environment = .ok s ∧ s.maxCallDepth = .whole 40 ∧
        Effective given environment .maxCallDepth (.int 40) ∧
          Effective given environment .canvasWidth (.bool true) ∧
            Effective given environment .canvasHeight (.int 480) := by
  intro file given environment
  have keyed : Keyed given := by
    rw [keyed_some_iff, Value.isKeyed_map_iff]
    refine ⟨by simp [Value.Distinct, Value.sameKey], fun key body member => ?_⟩
    simp only [List.mem_cons, List.not_mem_nil, or_false] at member
    rcases member with same | same
    all_goals
      cases same
      exact List.pairwise_singleton ..
  have done : layered given environment =
      .ok { maxCallDepth := .whole 40, canvasWidth := .affirmative } := by rfl
  obtain ⟨succeeds, fields, _⟩ := settings_layered given environment
  obtain ⟨holds, readable, _⟩ := (succeeds keyed).mp ⟨_, done⟩
  have effective := fields _ done
  exact ⟨keyed, holds, readable, _, done, rfl, effective .maxCallDepth, effective .canvasWidth,
    effective .canvasHeight⟩

/-- A width of too many digits is the only fault, but the error names no field. -/
theorem wide_misfit_unnamed :
    let width : Int := -(Nat.pow 16 4000 - 1 : Nat)
    let file : Value := .map [(.text "canvas".toList, .map [(.text "width".toList, .int width)])]
    let given := some ("settings.yaml".toList, file)
    let environment : Environment := .empty
    Keyed given ∧ HoldsSettings given ∧ IsReadable environment ∧
      FirstMisfit given environment .canvasWidth (.int width) ∧
        ∃ e, layered given environment = .error e ∧ ∀ f, ¬ e.Names f := by
  intro width file given environment
  have negative : width < 0 := by decide +kernel
  have hidden : (Value.int width).isWritable = false := by decide +kernel
  -- From here on only its sign and its size matter.
  clear_value width
  have keyed : Keyed given := by
    rw [keyed_some_iff, Value.isKeyed_map_iff]
    simp [Value.Distinct]
  have holds : HoldsSettings given := by
    rw [holdsSettings_some_iff]
    refine Or.inr ⟨_, rfl, ?_⟩
    intro name body member
    cases List.mem_singleton.mp member
    refine ⟨_, rfl, fun key v inner => ?_⟩
    cases List.mem_singleton.mp inner
    exact ⟨.canvasWidth, rfl, rfl⟩
  have readable : IsReadable environment := by
    intro f text set
    cases f <;> cases set
  have failed : layered given environment = .error (.invalid .canvasWidth (.int width)) := by
    have fromFile : sourceFields given = .ok [(.canvasWidth, .int width)] := by rfl
    have fromEnvironment : overrides environment = .ok [] := by rfl
    refine (layered_eq fromFile fromEnvironment).trans (Settings.ofFields_eq_error_iff.mpr
      ⟨[.stopOnError, .maxCallDepth, .penColor, .fill], .canvasWidth,
        [.canvasHeight, .background, .outputFilename], rfl, fun g member => ?_, ?_, rfl⟩)
    · have other : g ≠ .canvasWidth := by
        rintro rfl
        simp at member
      simpa [Settings.merged, Settings.lastValues, other] using Settings.fits_default g
    · rintro ⟨n, ⟨⟩, positive⟩
      omega
  rcases layered_error failed with ⟨bad, _⟩ | ⟨f, v, first, same⟩
  · exact absurd ⟨holds, readable⟩ bad
  · cases same
    exact ⟨keyed, holds, readable, first, _, failed,
      SettingsError.not_names_of_hidden (by simp [SettingsError.parts, hidden])⟩

end Configuration

end Plotter
