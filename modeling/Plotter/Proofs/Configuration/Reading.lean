import Plotter.Configuration
import Plotter.Proofs.Configuration.Fields
import Plotter.Proofs.Configuration.Keys
import Plotter.Proofs.Outcome

/-!
# Reading the layers of settings

What a file and the environment give is said by `Value.Holds` and `Reads`, without the functions that
read them: a field has a section and a key in a file, and a variable is a word or a numeral.

## Main results

* `fieldsOfValue_ok`, `fieldsOfValue_error`: the value of a file is read if it is a mapping of known
  settings, and gives those that it holds.
* `overrides_ok`, `overrides_error`: the variables are read if each that is set can be read, and they
  give what they say.

## Proof strategy

The settings of a file are compared with what it holds by membership, one entry and one section at a
time.  For each function there is one lemma about what it returns and one about what it refuses.
-/

namespace Plotter

namespace Field

variable {f : Field} {first second : Value}

/-- The variable that overrides a field, if there is one. -/
def overriddenBy? : Field → Option Text
  | .stopOnError => some Configuration.stopVariable
  | .maxCallDepth => some Configuration.depthVariable
  | _ => none

theorem ofPlace?_eq_some_iff :
    ofPlace? first second = some f ↔ first = .text f.place.1 ∧ second = .text f.place.2 := by
  constructor
  · intro found
    unfold ofPlace? at found
    split at found
    next section_ key =>
      have place : f.place = (section_, key) := by simpa using List.find?_some found
      exact ⟨by rw [place], by rw [place]⟩
    · cases found
  · rintro ⟨rfl, rfl⟩
    cases f <;> decide

/-- Two fields with the same section and key are the same. -/
theorem eq_of_place {g : Field} (sections : Value.text f.place.1 = .text g.place.1)
    (keys : Value.text f.place.2 = .text g.place.2) : f = g :=
  place_injective (Prod.ext (Value.text.inj sections) (Value.text.inj keys))

end Field

namespace Value

/-- A value stands for a field in the value of a file. -/
def Holds (file : Value) (f : Field) (v : Value) : Prop :=
  ∃ sections body, file = .map sections ∧ (.text f.place.1, .map body) ∈ sections ∧
    (.text f.place.2, v) ∈ body

/-- A section is a mapping of settings that it has. -/
def IsSection (name body : Value) : Prop :=
  ∃ entries, body = .map entries ∧
    ∀ key v, (key, v) ∈ entries → ∃ f : Field, name = .text f.place.1 ∧ key = .text f.place.2

/-- The value of a file is absent or a mapping of sections. -/
def IsSettings (file : Value) : Prop :=
  file.isPresent = false ∨
    ∃ sections, file = .map sections ∧ ∀ name body, (name, body) ∈ sections → IsSection name body

/-- A file whose keys are distinct gives one value for a field. -/
theorem Holds.unique {file v w : Value} {f : Field} (keyed : file.IsKeyed) (first : file.Holds f v)
    (second : file.Holds f w) : v = w := by
  obtain ⟨sections, body, rfl, here, value⟩ := first
  obtain ⟨_, other, same, there, again⟩ := second
  cases same
  obtain ⟨distinct, inner⟩ := keyed sections rfl
  cases distinct.unique here there
  exact (inner _ body here).unique value again

end Value

namespace Settings

variable {f : Field} {v : Value} {fields first second : List (Field × Value)}

theorem mem_of_lastValues (found : lastValues fields f = some v) : (f, v) ∈ fields := by
  induction fields with
  | nil => cases found
  | cons field rest ih =>
    obtain ⟨g, w⟩ := field
    unfold lastValues at found
    cases later : lastValues rest f with
    | some u =>
      rw [later] at found
      cases found
      exact List.mem_cons_of_mem _ (ih later)
    | none =>
      rw [later, Option.none_or] at found
      split at found
      next same =>
        cases found
        cases same
        exact List.mem_cons_self
      · cases found

theorem lastValues_eq_none (absent : ∀ v, (f, v) ∉ fields) : lastValues fields f = none := by
  cases found : lastValues fields f with
  | none => rfl
  | some v => exact absurd (mem_of_lastValues found) (absent v)

theorem lastValues_isSome (member : (f, v) ∈ fields) : (lastValues fields f).isSome := by
  induction fields with
  | nil => cases member
  | cons field rest ih =>
    unfold lastValues
    rcases List.mem_cons.mp member with rfl | later
    · simp
    · simp [ih later]

/-- Later values go before earlier ones. -/
theorem lastValues_append (first second : List (Field × Value)) (f : Field) :
    lastValues (first ++ second) f = (lastValues second f).or (lastValues first f) := by
  induction first with
  | nil => simp [lastValues]
  | cons field rest ih => simp only [List.cons_append, lastValues, ih, Option.or_assoc]

end Settings

namespace Configuration

variable {environment : Environment} {given : Option (Text × Value)} {path : Text} {f : Field}
  {name text : Text} {section_ key file v w : Value} {body sections : List (Value × Value)}
  {fields : List (Field × Value)} {e : SettingsError}

/-! ### The file -/

/-- A section that is read is one, and its settings are those that it holds. -/
theorem sectionFields_ok (read : sectionFields section_ body = .ok fields) :
    Value.IsSection section_ (.map body) ∧
      ∀ f v, (f, v) ∈ fields ↔ section_ = .text f.place.1 ∧ (.text f.place.2, v) ∈ body := by
  induction body generalizing fields with
  | nil =>
    cases read
    exact ⟨⟨[], rfl, nofun⟩, by simp⟩
  | cons entry rest ih =>
    obtain ⟨key, given⟩ := entry
    simp only [sectionFields] at read
    split at read
    · cases read
    next field found =>
      obtain ⟨rfl, rfl⟩ := Field.ofPlace?_eq_some_iff.mp found
      obtain ⟨others, later, rfl⟩ := map_eq_ok read
      obtain ⟨⟨_, same, known⟩, held⟩ := ih later
      cases same
      constructor
      · refine ⟨_, rfl, fun key v member => ?_⟩
        rcases List.mem_cons.mp member with here | after
        · exact ⟨field, rfl, (Prod.mk.inj here).1⟩
        · exact known key v after
      · intro f v
        simp only [List.mem_cons, Prod.mk.injEq, held]
        constructor
        · rintro (⟨rfl, rfl⟩ | ⟨named, after⟩)
          · exact ⟨rfl, Or.inl ⟨rfl, rfl⟩⟩
          · exact ⟨named, Or.inr after⟩
        · rintro ⟨named, ⟨keyed, rfl⟩ | after⟩
          -- The section is that of the first field, so the key tells the field.
          · exact Or.inl ⟨Field.eq_of_place named keyed.symm |>.symm, rfl⟩
          · exact Or.inr ⟨named, after⟩

theorem sectionFields_error (failed : sectionFields section_ body = .error e) :
    ¬ Value.IsSection section_ (.map body) ∧ ∃ key, e = .unknownSetting section_ key := by
  induction body with
  | nil => cases failed
  | cons entry rest ih =>
    obtain ⟨key, given⟩ := entry
    simp only [sectionFields] at failed
    split at failed
    next unknown =>
      cases failed
      refine ⟨?_, key, rfl⟩
      rintro ⟨_, same, known⟩
      cases same
      obtain ⟨f, place⟩ := known key given List.mem_cons_self
      rw [Field.ofPlace?_eq_some_iff.mpr place] at unknown
      cases unknown
    next field found =>
      obtain ⟨bad, named⟩ := ih (map_eq_error failed)
      refine ⟨?_, named⟩
      rintro ⟨_, same, known⟩
      cases same
      exact bad ⟨rest, rfl, fun key v member => known key v (List.mem_cons_of_mem _ member)⟩

/-- All sections are sections, and the settings are those that they hold. -/
theorem allFields_ok (read : allFields sections = .ok fields) :
    (∀ name body, (name, body) ∈ sections → Value.IsSection name body) ∧
      ∀ f v, (f, v) ∈ fields ↔
        ∃ body, (.text f.place.1, .map body) ∈ sections ∧ (.text f.place.2, v) ∈ body := by
  induction sections generalizing fields with
  | nil =>
    cases read
    exact ⟨nofun, by simp⟩
  | cons entry rest ih =>
    unfold allFields at read
    split at read
    · cases ‹_ = []›
    next section_ body _ same =>
      cases same
      obtain ⟨own, first, read⟩ := bind_eq_ok read
      obtain ⟨others, later, read⟩ := bind_eq_ok read
      cases read
      obtain ⟨isSection, held⟩ := sectionFields_ok first
      obtain ⟨areSections, heldLater⟩ := ih later
      constructor
      · intro name inner member
        rcases List.mem_cons.mp member with here | after
        · cases here
          exact isSection
        · exact areSections name inner after
      · intro f v
        simp only [List.mem_append, held, heldLater, List.mem_cons, Prod.mk.injEq, Value.map.injEq]
        constructor
        · rintro (⟨named, value⟩ | ⟨inner, after, value⟩)
          · exact ⟨body, Or.inl ⟨named.symm, rfl⟩, value⟩
          · exact ⟨inner, Or.inr after, value⟩
        · rintro ⟨inner, ⟨named, rfl⟩ | after, value⟩
          · exact Or.inl ⟨named.symm, value⟩
          · exact Or.inr ⟨inner, after, value⟩
    · cases read

theorem allFields_error (failed : allFields sections = .error e) :
    (∃ name body, (name, body) ∈ sections ∧ ¬ Value.IsSection name body) ∧
      e.isRefusal = true := by
  induction sections with
  | nil => cases failed
  | cons entry rest ih =>
    unfold allFields at failed
    split at failed
    · cases failed
    next section_ body _ same =>
      cases same
      rcases bind_eq_error failed with first | ⟨own, _, failed⟩
      · obtain ⟨bad, key, rfl⟩ := sectionFields_error first
        exact ⟨⟨section_, .map body, List.mem_cons_self, bad⟩, rfl⟩
      · rcases bind_eq_error failed with later | ⟨_, _, returned⟩
        · obtain ⟨⟨name, inner, member, bad⟩, refused⟩ := ih later
          exact ⟨⟨name, inner, List.mem_cons_of_mem _ member, bad⟩, refused⟩
        · cases returned
    next section_ other _ noMap same =>
      cases same
      cases failed
      refine ⟨⟨section_, other, List.mem_cons_self, ?_⟩, rfl⟩
      rintro ⟨entries, rfl, _⟩
      exact noMap entries rfl

/-- The settings of a file are those that it holds. -/
theorem fieldsOfValue_ok (read : fieldsOfValue path file = .ok fields) :
    file.IsSettings ∧ ∀ f v, (f, v) ∈ fields ↔ file.Holds f v := by
  unfold fieldsOfValue at read
  split at read
  next absent =>
    cases read
    refine ⟨Or.inl (by simpa using absent), fun f v => ⟨nofun, ?_⟩⟩
    rintro ⟨sections, body, rfl, member, _⟩
    simp only [Value.isPresent, Bool.not_not, List.isEmpty_iff] at absent
    rw [absent] at member
    cases member
  next present =>
    split at read
    next sections =>
      obtain ⟨areSections, held⟩ := allFields_ok read
      refine ⟨Or.inr ⟨sections, rfl, areSections⟩, fun f v => (held f v).trans ?_⟩
      constructor
      · rintro ⟨body, here, value⟩
        exact ⟨sections, body, rfl, here, value⟩
      · rintro ⟨_, body, same, here, value⟩
        cases same
        exact ⟨body, here, value⟩
    · cases read

theorem fieldsOfValue_error (failed : fieldsOfValue path file = .error e) :
    ¬ file.IsSettings ∧ e.isRefusal = true := by
  unfold fieldsOfValue at failed
  split at failed
  · cases failed
  next present =>
    split at failed
    next sections =>
      obtain ⟨⟨name, body, member, bad⟩, refused⟩ := allFields_error failed
      refine ⟨?_, refused⟩
      rintro (absent | ⟨_, same, areSections⟩)
      · exact present (by simp [absent])
      · cases same
        exact bad (areSections name body member)
    next noMap =>
      cases failed
      refine ⟨?_, rfl⟩
      rintro (absent | ⟨sections, rfl, _⟩)
      · exact present (by simp [absent])
      · exact noMap sections rfl

/-! ### The environment -/

/-- The text of the variable that overrides a field, if it is set to one. -/
def overriding (environment : Environment) (f : Field) : Option Text :=
  f.overriddenBy?.bind (lookup environment)

/-- What the text of a variable gives a field. -/
inductive Reads : Field → Text → Value → Prop
  | affirmed {text : Text} (word : Text.lower (Text.trim text) ∈ trueWords) :
    Reads .stopOnError text (.bool true)
  | denied {text : Text} (word : Text.lower (Text.trim text) ∈ falseWords) :
    Reads .stopOnError text (.bool false)
  | counted {text : Text} {n : Int} (numeral : Text.readInteger (Text.trim text) = .ok n) :
    Reads .maxCallDepth text (.int n)

theorem readBool_eq_ok_iff : readBool name text = .ok v ↔ Reads .stopOnError text v := by
  have exclusive : ∀ word ∈ trueWords, word ∉ falseWords := by decide
  unfold readBool
  dsimp only
  constructor
  · intro read
    split at read
    next word => cases read; exact .affirmed (by simpa using word)
    · split at read
      next word => cases read; exact .denied (by simpa using word)
      · cases read
  · intro reads
    cases reads with
    | affirmed word => simp [word]
    | denied word =>
      have other : Text.lower (Text.trim text) ∉ trueWords := fun both => exclusive _ both word
      simp [word, other]

theorem readInt_eq_ok_iff : readInt name text = .ok v ↔ Reads .maxCallDepth text v := by
  unfold readInt
  constructor
  · intro read
    split at read
    next numeral => cases read; exact .counted numeral
    · cases read
  · intro reads
    cases reads with
    | counted numeral => rw [numeral]

theorem Reads.unique (first : Reads f text v) (second : Reads f text w) : v = w := by
  cases f with
  | stopOnError =>
    have read : readBool [] text = .ok v := readBool_eq_ok_iff.mpr first
    exact Except.ok.inj (read.symm.trans (readBool_eq_ok_iff.mpr second))
  | maxCallDepth =>
    have read : readInt [] text = .ok v := readInt_eq_ok_iff.mpr first
    exact Except.ok.inj (read.symm.trans (readInt_eq_ok_iff.mpr second))
  | _ => cases first

theorem readBool_error (failed : readBool name text = .error e) : e.isRefusal = true := by
  unfold readBool at failed
  dsimp only at failed
  split at failed
  · cases failed
  · split at failed <;> cases failed
    rfl

theorem readInt_error (failed : readInt name text = .error e) : e.isRefusal = true := by
  unfold readInt at failed
  split at failed <;> cases failed
  rfl

/-- The variables that are set can be read. -/
def IsReadable (environment : Environment) : Prop :=
  ∀ f text, overriding environment f = some text → ∃ v, Reads f text v

section Override

variable {read : Text → Text → Except SettingsError Value} (named : f.overriddenBy? = some name)
  (gives : ∀ {text v}, read name text = .ok v ↔ Reads f text v)

include named gives

/-- A variable that is read gives its field a value, or none if it is not set. -/
theorem override_ok (done : override environment f name read = .ok fields) :
    Option.Rel (Reads f) (overriding environment f) (Settings.lastValues fields f) ∧
      ∀ g v, (g, v) ∈ fields → g = f := by
  have found : overriding environment f = lookup environment name := by
    rw [overriding, named, Option.bind_some]
  rw [found]
  unfold override at done
  split at done
  next text set =>
    obtain ⟨v, outcome, rfl⟩ := map_eq_ok done
    rw [set]
    exact ⟨by simpa [Settings.lastValues] using gives.mp outcome, by simp⟩
  next unset =>
    cases done
    rw [unset]
    exact ⟨.none, nofun⟩

theorem override_error (failed : override environment f name read = .error e) :
    ¬ IsReadable environment ∧ ∃ text, read name text = .error e := by
  unfold override at failed
  split at failed
  next text set =>
    have unread := map_eq_error failed
    refine ⟨fun readable => ?_, text, unread⟩
    obtain ⟨v, reads⟩ := readable f text (by rw [overriding, named, Option.bind_some, set])
    rw [gives.mpr reads] at unread
    cases unread
  · cases failed

end Override

/-- The variables that are set are read, and give the fields what they say. -/
theorem overrides_ok (done : overrides environment = .ok fields) (f : Field) :
    Option.Rel (Reads f) (overriding environment f) (Settings.lastValues fields f) := by
  obtain ⟨stop, first, done⟩ := bind_eq_ok done
  obtain ⟨depth, second, done⟩ := bind_eq_ok done
  cases done
  obtain ⟨stopped, onlyStop⟩ := override_ok rfl readBool_eq_ok_iff first
  obtain ⟨bounded, onlyDepth⟩ := override_ok rfl readInt_eq_ok_iff second
  have other {fields : List (Field × Value)} {g : Field} (only : ∀ h v, (h, v) ∈ fields → h = g)
      (apart : f ≠ g) : Settings.lastValues fields f = none :=
    Settings.lastValues_eq_none fun v member => apart (only f v member)
  -- Each variable gives a value to its own field only, so the two do not meet.
  rw [Settings.lastValues_append]
  cases f with
  | stopOnError => rwa [other onlyDepth nofun, Option.none_or]
  | maxCallDepth => rwa [other onlyStop nofun, Option.or_none]
  | _ =>
    rw [other onlyStop nofun, other onlyDepth nofun]
    exact .none

theorem overrides_error (failed : overrides environment = .error e) :
    ¬ IsReadable environment ∧ e.isRefusal = true := by
  rcases bind_eq_error failed with first | ⟨stop, _, failed⟩
  · obtain ⟨unreadable, text, unread⟩ := override_error rfl readBool_eq_ok_iff first
    exact ⟨unreadable, readBool_error unread⟩
  · rcases bind_eq_error failed with second | ⟨_, _, returned⟩
    · obtain ⟨unreadable, text, unread⟩ := override_error rfl readInt_eq_ok_iff second
      exact ⟨unreadable, readInt_error unread⟩
    · cases returned

end Configuration

end Plotter
