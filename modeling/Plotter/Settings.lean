import Plotter.Surface.Color

/-!
# Settings

The settings of a run.  A count of one may have been given as the truth value `true`; it is kept
as it was given, since reports show it.

`ofFields` builds settings from values of any kind, one for each field that is not left at its
default.  Fields are looked at in a fixed order, and the first bad one is named.
-/

namespace Plotter

/-- A positive whole number, as it was given. -/
inductive Count where
  | whole (n : Nat)
  | affirmative
  deriving DecidableEq, Repr

namespace Count

def toNat : Count → Nat
  | .whole n => n
  | .affirmative => 1

def value : Count → Value
  | .whole n => .int n
  | .affirmative => .bool true

def text (c : Count) : Text := c.value.plain

/-- A value that counts as a positive whole number. -/
def ofValue? : Value → Option Count
  | .int n => if 0 < n then some (.whole n.toNat) else none
  | .bool true => some .affirmative
  | _ => none

end Count

structure Settings where
  stopOnError : Bool := false
  maxCallDepth : Count := .whole 32
  penColor : PenColor := .black
  fill : Bool := true
  canvasWidth : Count := .whole 640
  canvasHeight : Count := .whole 480
  background : Text := "darkgray".toList
  outputFilename : Text := "penscript-out".toList
  deriving DecidableEq, Repr

inductive Field where
  | stopOnError | maxCallDepth | penColor | fill | canvasWidth | canvasHeight | background
  | outputFilename
  deriving DecidableEq, Repr

namespace Field

/-- All fields, in the order in which they are looked at. -/
def all : List Field :=
  [.stopOnError, .maxCallDepth, .penColor, .fill, .canvasWidth, .canvasHeight, .background,
    .outputFilename]

/-- The name of a field where fields are given by name. -/
def name : Field → Text
  | .stopOnError => "stop_on_error".toList
  | .maxCallDepth => "max_call_depth".toList
  | .penColor => "pen_color".toList
  | .fill => "fill".toList
  | .canvasWidth => "canvas_width".toList
  | .canvasHeight => "canvas_height".toList
  | .background => "background".toList
  | .outputFilename => "output_filename".toList

def ofName? (name : Text) : Option Field := all.find? fun f => f.name == name

/-- The section and the key of a field in a settings file. -/
def place : Field → Text × Text
  | .stopOnError => ("interpreter".toList, "stop_on_error".toList)
  | .maxCallDepth => ("interpreter".toList, "max_call_depth".toList)
  | .penColor => ("pen".toList, "color".toList)
  | .fill => ("pen".toList, "fill".toList)
  | .canvasWidth => ("canvas".toList, "width".toList)
  | .canvasHeight => ("canvas".toList, "height".toList)
  | .background => ("canvas".toList, "background".toList)
  | .outputFilename => ("output".toList, "filename".toList)

/-- The field at a section and a key. -/
def ofPlace? : Value → Value → Option Field
  | .text section_, .text key => all.find? fun f => f.place == (section_, key)
  | _, _ => none

/-- What a field must be, in the message that rejects a value. -/
def requirement : Field → Text
  | .stopOnError | .fill => "a boolean".toList
  | .maxCallDepth | .canvasWidth | .canvasHeight => "a positive integer".toList
  | .penColor => "one of ".toList ++ Text.join ", ".toList (PenColor.all.map PenColor.word)
  | .background => "a color name".toList
  | .outputFilename => "a non-empty string".toList

end Field

/-- Why there are no settings. -/
inductive SettingsError where
  | invalid (field : Field) (value : Value)
  | unknownField (name : Text)
  | notAMapping (file : Text)
  | badSection (section_ : Value)
  | unknownSetting (section_ key : Value)
  | badOverride (variable_ requirement text : Text)

namespace SettingsError

/-- Whether an error refuses what was given; a field that does not exist is a mistake of the caller. -/
def isRefusal : SettingsError → Bool
  | .unknownField _ => false
  | _ => true

/-- The value, the section and the key that a message shows. -/
def parts : SettingsError → List Value
  | .invalid _ value => [value]
  | .badSection section_ => [section_]
  | .unknownSetting section_ key => [section_, key]
  | .unknownField _ | .notAMapping _ | .badOverride .. => []

/-- What a message says if all its parts can be shown. -/
def wording : SettingsError → Text
  | .invalid field value =>
    let (section_, key) := field.place
    section_ ++ ".".toList ++ key ++ " must be ".toList ++ field.requirement ++ ": ".toList
      ++ value.shown
  | .unknownField name => "unknown setting ".toList ++ Text.quoted name
  | .notAMapping file =>
    "config file ".toList ++ file ++ " must contain a mapping".toList
  | .badSection section_ =>
    "config section '".toList ++ section_.plain ++ "' must be a mapping".toList
  | .unknownSetting section_ key =>
    "unknown config setting '".toList ++ section_.plain ++ ".".toList ++ key.plain
      ++ "'".toList
  | .badOverride variable_ requirement text =>
    variable_ ++ " must be ".toList ++ requirement ++ ": ".toList ++ Text.quoted text

/-- The message of an error, if it can be written. -/
def message? (e : SettingsError) : Option Text :=
  if e.parts.all Value.isWritable then some e.wording else none

/-- What is said in the place of a message that shows a number of too many digits. -/
def unwritten : Text :=
  "Exceeds the limit (".toList ++ Text.ofNat Text.maxDigits
    ++ " digits) for integer string conversion; ".toList
    ++ "use sys.set_int_max_str_digits() to increase the limit".toList

def message (e : SettingsError) : Text := e.message?.getD unwritten

end SettingsError

/-- Values for fields, at most one for each. -/
abbrev FieldValues := Field → Option Value

namespace Settings

/-- Sets a field, if the value fits it. -/
def set? (s : Settings) : Field → Value → Option Settings
  | .stopOnError, .bool b => some { s with stopOnError := b }
  | .maxCallDepth, v => (Count.ofValue? v).map fun c => { s with maxCallDepth := c }
  | .penColor, .text t => (PenColor.ofWord? t).map fun c => { s with penColor := c }
  | .fill, .bool b => some { s with fill := b }
  | .canvasWidth, v => (Count.ofValue? v).map fun c => { s with canvasWidth := c }
  | .canvasHeight, v => (Count.ofValue? v).map fun c => { s with canvasHeight := c }
  | .background, .text t => if Color.isName t then some { s with background := t } else none
  | .outputFilename, .text t => if t.isEmpty then none else some { s with outputFilename := t }
  | _, _ => none

def get (s : Settings) : Field → Value
  | .stopOnError => .bool s.stopOnError
  | .maxCallDepth => s.maxCallDepth.value
  | .penColor => .text s.penColor.word
  | .fill => .bool s.fill
  | .canvasWidth => s.canvasWidth.value
  | .canvasHeight => s.canvasHeight.value
  | .background => .text s.background
  | .outputFilename => .text s.outputFilename

/-- Sets the fields that have a value, and names the first that does not fit. -/
def setAll (values : FieldValues) : List Field → Settings → Except SettingsError Settings
  | [], s => .ok s
  | field :: rest, s =>
    match values field with
    | none => setAll values rest s
    | some v =>
      match s.set? field v with
      | some next => setAll values rest next
      | none => .error (.invalid field v)

/-- The value that was given last for each field. -/
def lastValues : List (Field × Value) → FieldValues
  | [] => fun _ => none
  | (field, v) :: rest => fun f => (lastValues rest f).or (if f = field then some v else none)

/-- The fields that have the given names. -/
def fieldsOf : List (Text × Value) → Except SettingsError (List (Field × Value))
  | [] => .ok []
  | (name, v) :: rest =>
    match Field.ofName? name with
    | none => .error (.unknownField name)
    | some field => (fieldsOf rest).map ((field, v) :: ·)

/-- The settings with the given values, and defaults for the other fields. -/
def ofFields (values : FieldValues) : Except SettingsError Settings :=
  setAll values Field.all {}

/-- The settings with values for fields given by name. -/
def ofNamed (values : List (Text × Value)) : Except SettingsError Settings := do
  ofFields (lastValues (← fieldsOf values))

end Settings

end Plotter
