import Plotter.CommandLine.Request
import Plotter.Text.Quoted

/-!
# Help and usage

Every page has a usage line, which may be broken, and details that follow it when help is asked
for.  A command line that is not understood is answered by the usage of the page at which the
mistake was found, and the mistake.
-/

namespace Plotter.CommandLine

namespace UsageError

def requiredText (name : Text) : Text :=
  "the following arguments are required: ".toList ++ name

/-- A mistake in the use of an option. -/
def aboutFlag (flag : Flag) (trouble : Text) : Text :=
  "argument ".toList ++ flag.label ++ ": ".toList ++ trouble

def message : UsageError → Text
  | .ambiguous argument candidates =>
    "ambiguous option: ".toList ++ argument ++ " could match ".toList
      ++ Text.join ", ".toList candidates
  | .ignoredValue flag value =>
    aboutFlag flag ("ignored explicit argument ".toList ++ Text.quoted value)
  | .missingValue flag => aboutFlag flag "expected one argument".toList
  | .missingFile => requiredText "file".toList
  | .missingAction => requiredText "action".toList
  | .unknownAction word =>
    "argument action: invalid choice: ".toList ++ Text.quoted word ++ " (choose from ".toList
      ++ Text.join ", ".toList (Action.all.map fun a => Text.quoted a.word) ++ ")".toList
  | .unrecognized arguments =>
    "unrecognized arguments: ".toList ++ Text.join [' '] arguments

end UsageError

namespace Page

/-- The name under which a page speaks. -/
def speaker : Page → Text
  | .program => "python -m penscript.script".toList
  | .action a => "python -m penscript.script ".toList ++ a.word

def usageLines : Page → List String
  | .program => ["usage: python -m penscript.script [-h] \x7bcheck,run,show,repl\x7d ..."]
  | .action .check =>
    [ "usage: python -m penscript.script check [-h] [--config FILE] [--stop-on-error]",
      "                                        [--json] [-v]",
      "                                        file" ]
  | .action .run =>
    [ "usage: python -m penscript.script run [-h] [--config FILE] [--stop-on-error]",
      "                                      [--json] [-v] [-o FILE]",
      "                                      file" ]
  | .action .view =>
    [ "usage: python -m penscript.script show [-h] [--config FILE] [--stop-on-error]",
      "                                       [--json] [-v]",
      "                                       file" ]
  | .action .repl =>
    ["usage: python -m penscript.script repl [-h] [--config FILE] [-o FILE] [-v]"]

/-- The details of an action that runs a file and has no other option. -/
def fileDetails : List String :=
  [ "",
    "positional arguments:",
    "  file             penscript source file",
    "",
    "options:",
    "  -h, --help       show this help message and exit",
    "  --config FILE    YAML settings file (default: $PENSCRIPT_CONFIG)",
    "  --stop-on-error  Halt at the first line with an error",
    "  --json           Print diagnostics as JSON on stdout",
    "  -v, --verbose    More logging (repeat for debug output)" ]

def detailLines : Page → List String
  | .program =>
    [ "",
      "penscript interpreter",
      "",
      "positional arguments:",
      "  \x7bcheck,run,show,repl\x7d",
      "    check               Run a script and report errors",
      "    run                 Run a script and write a DXF file",
      "    show                Run a script and show it in a window",
      "    repl                Run lines as they are typed",
      "",
      "options:",
      "  -h, --help            show this help message and exit" ]
  | .action .check | .action .view => fileDetails
  | .action .run =>
    [ "",
      "positional arguments:",
      "  file                  penscript source file",
      "",
      "options:",
      "  -h, --help            show this help message and exit",
      "  --config FILE         YAML settings file (default: $PENSCRIPT_CONFIG)",
      "  --stop-on-error       Halt at the first line with an error",
      "  --json                Print diagnostics as JSON on stdout",
      "  -v, --verbose         More logging (repeat for debug output)",
      "  -o FILE, --output FILE",
      "                        Output DXF file (default: output.filename setting)" ]
  | .action .repl =>
    [ "",
      "options:",
      "  -h, --help            show this help message and exit",
      "  --config FILE         YAML settings file (default: $PENSCRIPT_CONFIG)",
      "  -o FILE, --output FILE",
      "                        Write the drawing to a DXF file at end of input",
      "  -v, --verbose         More logging (repeat for debug output)" ]

/-- Lines with their ends. -/
def printed (lines : List String) : Text := lines.flatMap fun line => line.toList ++ ['\n']

def help (p : Page) : Text := printed (p.usageLines ++ p.detailLines)

/-- The answer to a mistake. -/
def complaint (p : Page) (e : UsageError) : Text :=
  printed p.usageLines ++ p.speaker ++ ": error: ".toList ++ e.message ++ ['\n']

end Page

end Plotter.CommandLine
