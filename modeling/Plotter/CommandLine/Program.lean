import Plotter.CommandLine.Command
import Plotter.CommandLine.Help

/-!
# The program

From the arguments and the surroundings to the transcript of the whole run.  Asking for help is a
success; a command line that is not understood ends with code two.
-/

namespace Plotter.CommandLine.Program

/-- The answer to arguments that are no request. -/
def refuse (start : Console) : Refusal → Transcript
  | .help page => ⟨.exit 0, { start with out := page.help }⟩
  | .usage page e => ⟨.exit 2, { start with err := page.complaint e }⟩

/-- Runs the program. -/
def run (arguments : List Text) (s : Surroundings) : Transcript :=
  let start : Console := { files := s.files }
  match Request.ofArguments arguments with
  | .error refusal => refuse start refusal
  | .ok request =>
    let threshold := Verbosity.threshold request.verbosity s.environment
    (Command.perform s threshold request.task).transcript start

end Plotter.CommandLine.Program
