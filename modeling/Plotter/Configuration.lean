import Plotter.Dictionary
import Plotter.Files
import Plotter.Settings
import Plotter.Text.Utf8
import Plotter.Yaml.Cursor

/-!
# Where settings come from

Settings have three layers: the defaults, a settings file, and the environment.  The file is the
one that is asked for, or else the one that the environment names.  A value from a higher layer
replaces the one below before anything is checked, so a bad value that is replaced does no harm.

How the text of a settings file becomes a value is up to a reader.
-/

namespace Plotter

/-- The environment variables. -/
abbrev Environment := Dictionary Text

/-- Why there are no settings. -/
inductive ConfigurationError where
  | settings (e : SettingsError)
  | file (e : FileError) (path : Text)
  | undecodable (e : DecodeError)
  | document (e : Yaml.LoadError)

/-- The message that says why there are no settings.  A file that is not understood has none; a
number in it that is too long, or none at all, has. -/
def ConfigurationError.message : ConfigurationError → Except Yaml.LoadError Text
  | .settings e => .ok e.message
  | .file e path => .ok (e.message path)
  | .undecodable e => .ok e.message
  | .document (.number message) => .ok message
  | .document e => .error e

namespace Configuration

/-- A way to read the text of a settings file. -/
abbrev Reader := Text → Except Yaml.LoadError Value

def fileVariable : Text := "PENSCRIPT_CONFIG".toList

def stopVariable : Text := "PENSCRIPT_STOP_ON_ERROR".toList

def depthVariable : Text := "PENSCRIPT_MAX_CALL_DEPTH".toList

/-- A variable that is set to something. -/
def lookup (environment : Environment) (name : Text) : Option Text :=
  (environment.get? name).filter fun value => !value.isEmpty

def trueWords : List Text := ["1".toList, "true".toList, "yes".toList, "on".toList]

def falseWords : List Text := ["0".toList, "false".toList, "no".toList, "off".toList]

/-- A truth value given as a word. -/
def readBool (name text : Text) : Except SettingsError Value :=
  let word := Text.lower (Text.trim text)
  if trueWords.contains word then .ok (.bool true)
  else if falseWords.contains word then .ok (.bool false)
  else .error (.badOverride name "a boolean".toList text)

def readInt (name text : Text) : Except SettingsError Value :=
  match Text.readInteger (Text.trim text) with
  | .ok n => .ok (.int n)
  | .error _ => .error (.badOverride name "an integer".toList text)

/-- The settings of one section of a file. -/
def sectionFields (section_ : Value) :
    List (Value × Value) → Except SettingsError (List (Field × Value))
  | [] => .ok []
  | (key, v) :: rest =>
    match Field.ofPlace? section_ key with
    | none => .error (.unknownSetting section_ key)
    | some field => (sectionFields section_ rest).map ((field, v) :: ·)

/-- The settings of all sections of a file. -/
def allFields : List (Value × Value) → Except SettingsError (List (Field × Value))
  | [] => .ok []
  | (section_, .map body) :: rest => do
    return (← sectionFields section_ body) ++ (← allFields rest)
  | (section_, _) :: _ => .error (.badSection section_)

/-- The settings that the value of a file holds; an absent value holds none. -/
def fieldsOfValue (path : Text) (v : Value) : Except SettingsError (List (Field × Value)) :=
  if !v.isPresent then .ok []
  else
    match v with
    | .map sections => allFields sections
    | _ => .error (.notAMapping path)

/-- The text of a settings file. -/
def decodeFile (bytes : List UInt8) : Except ConfigurationError Text :=
  match Utf8.decode bytes with
  | .ok t => .ok (Text.unifyNewlines t)
  | .error e => .error (.undecodable e.inPieces)

/-- The value that a file holds. -/
def fileValue (reader : Reader) (files : Files) (path : Path) :
    Except ConfigurationError Value := do
  let bytes ← match files.read path with
    | .ok bytes => .ok bytes
    | .error e => .error (.file e path.text)
  (reader (← decodeFile bytes)).mapError .document

/-- The settings in a file. -/
def fileFields (reader : Reader) (files : Files) (name : Text) :
    Except ConfigurationError (List (Field × Value)) := do
  let path := Path.ofText name
  (fieldsOfValue path.text (← fileValue reader files path)).mapError .settings

/-- The setting of a variable, if it is set. -/
def override (environment : Environment) (field : Field) (variable_ : Text)
    (read : Text → Text → Except SettingsError Value) :
    Except SettingsError (List (Field × Value)) :=
  match lookup environment variable_ with
  | some text => (read variable_ text).map fun v => [(field, v)]
  | none => .ok []

/-- The settings that the environment overrides. -/
def overrides (environment : Environment) : Except SettingsError (List (Field × Value)) := do
  return (← override environment .stopOnError stopVariable readBool)
    ++ (← override environment .maxCallDepth depthVariable readInt)

/-- The file to read: the one that is asked for, or the one in the environment. -/
def chooseFile (asked : Option Text) (environment : Environment) : Option Text :=
  match asked with
  | some (c :: rest) => some (c :: rest)
  | _ => lookup environment fileVariable

/-- The path of the file to read, if there is one, and the value that it holds. -/
def source (reader : Reader) (files : Files) (asked : Option Text) (environment : Environment) :
    Except ConfigurationError (Option (Text × Value)) :=
  match chooseFile asked environment with
  | none => .ok none
  | some name =>
    let path := Path.ofText name
    (fileValue reader files path).map fun value => some (path.text, value)

/-- The settings that a file holds, if there is one. -/
def sourceFields : Option (Text × Value) → Except SettingsError (List (Field × Value))
  | none => .ok []
  | some (path, value) => fieldsOfValue path value

/-- The settings of the value of a file, of the environment, and defaults for the others. -/
def layered (given : Option (Text × Value)) (environment : Environment) :
    Except SettingsError Settings := do
  let fromFile ← sourceFields given
  let fromEnvironment ← overrides environment
  Settings.ofFields (Settings.lastValues (fromFile ++ fromEnvironment))

/-- The settings of all layers. -/
def load (reader : Reader) (files : Files) (asked : Option Text) (environment : Environment) :
    Except ConfigurationError Settings := do
  (layered (← source reader files asked environment) environment).mapError .settings

end Configuration

end Plotter
