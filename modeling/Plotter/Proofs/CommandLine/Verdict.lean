import Plotter.CommandLine.Program
import Plotter.Proofs.CommandLine.Agreement
import Plotter.Proofs.CommandLine.Dialogue
import Plotter.Proofs.Files.Writing

/-!
# One verdict from every action

The four actions run a script on different surfaces, from a file or from what is typed, and they
print different things in between.  Followed from one end to the other, each of them comes to the
verdict on the plain run of the script, unless it breaks off.

A job that is to stop may still come to its end: what is open at the end of the script is reported
when no line is left to stop at, and then the drawing is written after all.

## Main results

* `Command.leads_check`, `Command.leads_run`, `Command.leads_view`, `Command.leads_repl`: what each
  action comes to.
* `Program.exit_code_is_verdict`: the exit code of the program, whatever it is asked for, and what
  is read from the drawing file afterwards, however drawings are written.
-/

namespace Plotter.CommandLine

namespace Task

/-- The settings file that is asked for. -/
def config : Task → Option Text
  | .check job => job.config
  | .run job _ => job.config
  | .view job => job.config
  | .repl config _ => config

/-- The script that a task runs is this text: the file holds it, or it is typed. -/
def Reads (s : Surroundings) (script : Text) : Task → Prop
  | .check job => Holds s.files job
  | .run job _ => Holds s.files job
  | .view job => Holds s.files job
  | .repl _ _ => s.input = script
where
  Holds (files : Files) (job : Job) : Prop :=
    ∃ bytes, files.read (Path.ofText job.file) = .ok bytes ∧ Utf8.decode bytes = .ok script

end Task

namespace Command

open Dialogue

variable {ε : Type} {s : Surroundings} {files : Files} {settings : Settings} {threshold : Nat}
  {job : Job} {script : Text}

theorem gives_loadSettings {asked : Option Text}
    (loaded : Configuration.load s.reader files asked s.environment = .ok settings) :
    (loadSettings s asked).Gives files settings := by
  refine gives_files.andThen ?_
  rw [loaded]
  exact gives_pure settings

theorem gives_readScript {path : Path} {bytes : List UInt8} (read : files.read path = .ok bytes)
    (decoded : Utf8.decode bytes = .ok script) :
    (readScript path).Gives files (Text.unifyNewlines script) := by
  refine gives_files.andThen ?_
  simp only [read, decoded]
  exact gives_pure _

/-- A report breaks off or leaves the files as they are. -/
theorem leads_report {path : Path} {result : Result} {exits : Nat → Files → Prop} :
    (report job path result).Leads files (fun _ left => left = files) exits := by
  unfold report
  split
  · exact leads_orBreak_bind fun _ _ => (gives_printLine _).leads rfl
  · exact (gives_warnAbout _).leads rfl

/-- A file that can be read is there. -/
theorem contains_of_read {path : Path} {bytes : List UInt8} (read : files.read path = .ok bytes) :
    files.contains path = true := by
  unfold Files.read at read
  unfold Files.contains
  split at read
  next found => rw [found]; rfl
  · cases read
  · cases read

/-- The settings under which a job is run. -/
def effective (settings : Settings) (job : Job) : Settings :=
  { settings with stopOnError := settings.stopOnError || job.stopOnError }

/-- The run of a job with its script, on a surface that may depend on the settings. -/
def jobRun (settings : Settings) (job : Job) (script : Text) (surface : Settings → Surface ε) :
    Machine ε × Except Failure Result :=
  let settings := effective settings job
  let machine := Machine.create settings (prepared settings (surface settings))
  machine.run settings script (some (Path.ofText job.file).name)

/-- A script file is run on a fresh machine, and the rest is up to what the run comes to. -/
theorem leads_runScript {surface : Settings → Surface ε} {returns : Ran ε → Files → Prop}
    {exits : Nat → Files → Prop} (given : Task.Reads.Holds script files job)
    (loaded : Configuration.load s.reader files job.config s.environment = .ok settings)
    (goesOn : ∀ result, (jobRun settings job script surface).2 = .ok result →
      returns ⟨effective settings job, result, (jobRun settings job script surface).1.surface⟩
        files) :
    (runScript s threshold job surface).Leads files returns exits := by
  obtain ⟨bytes, read, decoded⟩ := given
  unfold runScript
  -- The file is there, and both the settings and the script are understood.
  refine gives_files.bind ?_
  simp only [contains_of_read read, Bool.not_true, Bool.false_eq_true, if_false]
  refine (gives_loadSettings loaded).bind ?_
  refine (gives_readScript read decoded).bind ?_
  rw [Machine.run_unifyNewlines]
  refine (gives_log threshold _).bind ?_
  refine leads_orBreak_bind fun result finished => ?_
  refine leads_report.bind ?_
  rintro _ _ rfl
  exact leads_pure (goesOn result finished)

/-- A drawing is shown unless its run has stopped. -/
theorem leads_render {writer : Drafting.Writer} {ran : Ran ε} {stage : Stage}
    {exits : Nat → Files → Prop} (stopped : ran.result.stopped = true → exits 1 files) :
    (render writer threshold job ran stage).Leads files
      (fun _ left => ran.result.stopped = false ∧
        ∃ value, (stage.display writer files).value = .ok value ∧
          left = (stage.display writer files).files) exits := by
  unfold render
  dsimp only
  split
  next early => exact (gives_warnLine _).bind (leads_exit_bind (stopped early))
  next whole =>
    refine (gives_log threshold _).bind (leads_display.imp ?_)
    exact fun _ _ shown => ⟨by simpa using whole, shown⟩

/-- A drawing that has been shown has been written to its file. -/
theorem write_of_display {writer : Drafting.Writer} {name : Text} {surface : Surface Entity}
    {value : Value}
    (shown : ((Stage.drafting name surface).display writer files).value = .ok value) :
    files.write (Path.ofText (Drafting.target name)) (writer surface.entries.toList) =
      .ok ((Stage.drafting name surface).display writer files).files := by
  unfold Stage.display at shown ⊢
  dsimp only at shown ⊢
  split at shown
  next written => rw [written]
  · cases shown

/-! ### Typed lines -/

theorem leads_settle {before : Machine ε} {fed : Machine ε × Option Failure}
    {exits : Nat → Files → Prop} :
    (settle threshold before fed).Leads files
      (fun next left => fed = (next, none) ∧ left = files) exits := by
  obtain ⟨after, failure⟩ := fed
  refine (gives_log threshold _).bind ?_
  cases failure with
  | none => exact (gives_warnAbout _).bind (leads_pure ⟨rfl, rfl⟩)
  | some f => exact leads_breakOff _

theorem gives_ask (interactive : Bool) (m : Machine ε) : (ask interactive m).Gives files () := by
  unfold ask
  split
  · exact gives_print _
  · exact gives_pure ()

/-- Lines that are typed are fed one after another, each under its number. -/
theorem leads_converse {interactive : Bool} {taken : Nat} {pieces : List Text} {m : Machine ε}
    {exits : Nat → Files → Prop} :
    (converse interactive threshold settings taken pieces m).Leads files
      (fun last left =>
        m.feedPieces settings (taken + 1) pieces = (last, none) ∧ left = files) exits := by
  induction pieces generalizing taken m with
  | nil => exact (gives_ask interactive m).bind (leads_pure ⟨rfl, rfl⟩)
  | cons piece rest ih =>
    -- A line that fails breaks the dialogue off, so that here it has been fed.
    refine (gives_ask interactive m).bind (leads_settle.bind ?_)
    rintro next _ ⟨fed, rfl⟩
    have goesOn := @ih (taken + 1) next
    push_cast at fed goesOn
    simp only [Machine.feedPieces, fed]
    exact goesOn

/-- Unless the end of typed input breaks off, it gives what the lines have come to. -/
theorem leads_conclude {m : Machine ε} {returns : Result × Surface ε → Files → Prop}
    {exits : Nat → Files → Prop}
    (holds : returns (m.finish.result false, m.finish.surface) files) :
    (conclude threshold m).Leads files returns exits := by
  refine leads_settle.bind ?_
  rintro _ _ ⟨⟨⟩, rfl⟩
  dsimp only
  refine leads_orBreak_bind fun place _ => ?_
  exact (gives_printLine _).bind (leads_pure holds)

/-- What is typed has been fed piece by piece, and then the input has ended. -/
theorem leads_typed {surface : Surface ε}
    {returns : Result × Surface ε → Files → Prop} {exits : Nat → Files → Prop}
    (holds : ∀ last, Machine.feedPieces settings 1 (typedLines s.input)
        (Machine.create settings (prepared settings surface)) = (last, none) →
      returns (last.finish.result false, last.finish.surface) files) :
    (typed s threshold settings surface).Leads files returns exits := by
  refine leads_converse.bind ?_
  rintro last _ ⟨heard, rfl⟩
  exact leads_conclude (holds last heard)

theorem leads_save {writer : Drafting.Writer} {name : Text} {surface : Surface Entity}
    {exits : Nat → Files → Prop} :
    (save writer threshold name surface).Leads files (fun _ _ => True) exits :=
  leads_display.bind fun _ _ _ => (gives_printLine _).leads trivial

/-! ### Verdicts -/

/-- The exit code for a result, by the diagnostics alone. -/
def verdict (r : Result) : Nat := if r.diagnostics = [] then 0 else 1

theorem exitCode_eq {found result : Result}
    (same : found.success = true ↔ result.diagnostics = []) : exitCode found = verdict result := by
  unfold exitCode verdict
  by_cases clean : result.diagnostics = []
  · rw [if_pos (same.mpr clean), if_pos clean]
  · rw [if_neg (mt same.mp clean), if_neg clean]

section Plain

variable {ε' : Type} {m : Machine ε'} {filename : Option Text} {result : Result}

/-- Some line of the script leaves a diagnostic, and the job is to be stopped then. -/
def Stops (settings : Settings) (job : Job) (script : Text) (filename : Option Text)
    (m : Machine ε') : Prop :=
  (effective settings job).stopOnError = true ∧
    (m.reset settings |>.feedLines settings (Line.ofSource script filename)).1.diagnostics ≠ []

/-- What a job leaves behind: what was there if it has stopped.  Otherwise its drawing is read from
the drawing file, and any path to another place gives what it gave before. -/
def Leaves (writer : Drafting.Writer) (settings : Settings) (job : Job) (output : Option Text)
    (script : Text) (filename : Option Text) (m : Machine ε') (files left : Files) : Prop :=
  (Stops settings job script filename m → left = files) ∧
    (¬ Stops settings job script filename m →
      let drawing := (jobRun settings job script fun _ => Drafting.surface).1.surface
      let target := Path.ofText (Drafting.target (drawingName settings output))
      left.read target = .ok (writer drawing.entries.toList) ∧
        ∀ other found, files.resolve other ≠ files.resolve target →
          (left.read other = .ok found ↔ files.read other = .ok found))

variable (plain : (m.run { settings with stopOnError := false } script filename).2 = .ok result)
include plain

theorem verdict_of_stops (stops : Stops settings job script filename m) : verdict result = 1 := by
  obtain ⟨last, fed, rfl⟩ := Machine.fed_of_plain plain
  have reported := stops.2
  rw [fed] at reported
  exact if_neg (Machine.finish_diagnostics_ne_nil reported false)

section Jobs

variable (given : Task.Reads.Holds script files job)
  (loaded : Configuration.load s.reader files job.config s.environment = .ok settings)
include given loaded

theorem leads_runScript_verdict (surface : Settings → Surface ε) {exits : Nat → Files → Prop} :
    (runScript s threshold job surface).Leads files
      (fun ran left => left = files ∧ exitCode ran.result = verdict result ∧
        (ran.result.stopped = true ↔ Stops settings job script filename m) ∧
        ran.settings = effective settings job ∧
        ran.surface = (jobRun settings job script surface).1.surface) exits := by
  refine leads_runScript given loaded fun found ran => ?_
  obtain ⟨success, stopped⟩ := Machine.run_verdict plain ran
  exact ⟨rfl, exitCode_eq success, stopped, rfl, rfl⟩

theorem leads_check {exits : Nat → Files → Prop} :
    (check s threshold job).Leads files (fun code _ => code = verdict result) exits := by
  refine (leads_runScript_verdict plain given loaded _).bind ?_
  rintro ran _ ⟨rfl, code, _⟩
  dsimp only
  split
  · split
    · exact (gives_printLine _).bind (leads_pure code)
    · exact (gives_warnLine _).bind (leads_pure code)
  · exact leads_pure code

theorem leads_view :
    (view s threshold job).Leads files (fun code _ => code = verdict result)
      (fun code _ => code = verdict result) := by
  refine (leads_runScript_verdict plain given loaded _).bind ?_
  rintro ran _ ⟨rfl, code, stopped, _⟩
  refine (leads_render fun early => ?_).bind fun _ _ _ => leads_pure code
  exact (verdict_of_stops plain (stopped.mp early)).symm

theorem leads_run {output : Option Text} :
    let ends := fun code left => code = verdict result ∧
      Leaves s.writer settings job output script filename m files left
    (run s threshold job output).Leads files ends ends := by
  intro ends
  refine (leads_runScript_verdict plain given loaded _).bind ?_
  rintro ⟨_, found, _⟩ _ ⟨rfl, code, stopped, rfl, rfl⟩
  -- The run has stopped and ends the command, or the drawing is shown and the command goes on.
  refine (leads_render fun early => ?_).bind ?_
  · have stops := stopped.mp early
    exact ⟨(verdict_of_stops plain stops).symm, fun _ => rfl, fun going => absurd stops going⟩
  · rintro _ left ⟨whole, value, shown, rfl⟩
    have goesOn : ¬ Stops settings job script filename m := fun stops =>
      Bool.false_ne_true (whole.symm.trans (stopped.mpr stops))
    have written := write_of_display shown
    have ended : ends (exitCode found) _ :=
      ⟨code, fun stops => absurd stops goesOn, fun _ =>
        ⟨Files.read_of_write written, fun _ found apart =>
          Files.read_of_write_elsewhere written apart found⟩⟩
    dsimp only
    split
    · exact (gives_printLine _).bind (leads_pure ended)
    · exact leads_pure ended

end Jobs

/-- Whatever the surface, typed lines come to the verdict on the whole. -/
theorem leads_typed_verdict (given : s.input = script) (surface : Surface ε)
    {exits : Nat → Files → Prop} :
    (typed s threshold settings surface).Leads files
      (fun found _ => exitCode found.1 = verdict result) exits := by
  subst given
  exact leads_typed fun _ heard => exitCode_eq (Machine.typed_verdict plain heard)

theorem leads_repl {config output : Option Text} (given : s.input = script)
    (loaded : Configuration.load s.reader files config s.environment = .ok settings)
    {exits : Nat → Files → Prop} :
    (repl s threshold config output).Leads files (fun code _ => code = verdict result) exits := by
  refine (gives_loadSettings loaded).bind ?_
  split
  · refine (leads_typed_verdict plain given _).bind ?_
    exact fun found _ code => leads_pure code
  · refine (leads_typed_verdict plain given _).bind fun found _ code => ?_
    refine leads_save.bind fun _ _ _ => ?_
    exact leads_pure code

end Plain

end Command

namespace Program

open CommandLine.Command

/-- Whatever is asked for, the program ends with the verdict on the plain run of the script, on
whatever surface that is made.  If the run has been stopped, which it is exactly if a line has left
a diagnostic and the run was to stop at one, the files are what they were.  Otherwise the drawing is
read from the drawing file, and nothing else has changed. -/
theorem exit_code_is_verdict {ε : Type} {arguments : List Text} {s : Surroundings}
    {request : Request} {script : Text} {settings : Settings} {filename : Option Text}
    {m : Machine ε} {result : Result}
    (asked : Request.ofArguments arguments = .ok request)
    (given : request.task.Reads s script)
    (loaded : Configuration.load s.reader s.files request.task.config s.environment = .ok settings)
    (plain : (m.run { settings with stopOnError := false } script filename).2 = .ok result)
    (unbroken : ∀ t, (run arguments s).ending ≠ .broken t) :
    (run arguments s).ending = .exit (verdict result) ∧
      ∀ job output, request.task = .run job output →
        Leaves s.writer settings job output script filename m s.files
          (run arguments s).console.files := by
  obtain ⟨task, verbosity⟩ := request
  simp only [run, asked] at unbroken ⊢
  cases task with
  | check job =>
    obtain ⟨code, ended, rfl⟩ := (leads_check plain given loaded).transcript unbroken
    exact ⟨ended, nofun⟩
  | run job output =>
    obtain ⟨code, ended, rfl, left⟩ := (leads_run plain given loaded).transcript unbroken
    refine ⟨ended, ?_⟩
    rintro _ _ ⟨⟩
    exact left
  | view job =>
    obtain ⟨code, ended, rfl⟩ := (leads_view plain given loaded).transcript unbroken
    exact ⟨ended, nofun⟩
  | repl config output =>
    obtain ⟨code, ended, rfl⟩ := (leads_repl plain given loaded).transcript unbroken
    exact ⟨ended, nofun⟩

/-- A loop that is never closed is reported at the end of the script only, so nothing stops. -/
theorem exit_code_is_verdict_of_open_loop :
    let script := "moveto 3 4\r\nloop 2\nbogus\n".toList
    let source := script.map fun c => c.toNat.toUInt8
    let s : Surroundings := { files := { nodes := [(["a.pen".toList], .file source)] } }
    let arguments := ["run", "--stop-on-error", "a.pen", "-o", "out"].map String.toList
    (run arguments s).ending = .exit 1 ∧
      (run arguments s).console.files.read (Path.ofText "out.dxf".toList) =
        .ok (Exchange.bytes []) := by
  intro script source s arguments
  let job : Job := { file := "a.pen".toList, stopOnError := true }
  let task : Task := .run job (some "out".toList)
  let blank := Machine.create {} Recording.surface
  have asked : Request.ofArguments arguments = .ok { task := task } := by rfl
  have given : task.Reads s script := ⟨source, by decide +kernel, by decide +kernel⟩
  have loaded : Configuration.load s.reader s.files task.config s.environment = .ok {} := by rfl
  have verdicts {result : Result} (plain : (blank.run {} script none).2 = .ok result)
      (unbroken : ∀ t, (run arguments s).ending ≠ .broken t) :
      (run arguments s).ending = .exit (verdict result) ∧
        Leaves s.writer {} job (some "out".toList) script none blank s.files
          (run arguments s).console.files :=
    have ended := exit_code_is_verdict (s := s) asked given loaded plain unbroken
    ⟨ended.1, ended.2 job _ rfl⟩
  have exits : (run arguments s).ending matches .exit _ := by decide +kernel
  have reported : (blank.run {} script none).2.toOption.map
      (fun r => r.diagnostics.isEmpty) = some false := by decide +kernel
  have quiet : ((blank.reset {}).feedLines {} (Line.ofSource script none)).1.diagnostics.isEmpty =
      true := by decide +kernel
  have undrawn : (jobRun {} job script
      fun _ => Drafting.surface).1.surface.entries.toList.isEmpty = true := by decide +kernel
  have writer : s.writer = Exchange.bytes := rfl
  -- From here on nothing is computed.
  clear_value blank s job arguments
  generalize run arguments s = ended at exits verdicts ⊢
  generalize finished : (blank.run {} script none).2 = outcome at verdicts reported
  rcases outcome with failure | result
  · cases reported
  · have unbroken : ∀ t, ended.ending ≠ .broken t := by
      intro t broken
      rw [broken] at exits
      cases exits
    obtain ⟨code, left⟩ := verdicts rfl unbroken
    have faulty : verdict result = 1 := if_neg (by simpa [Except.toOption] using reported)
    obtain ⟨written, _⟩ := left.2 fun stops => stops.2 (List.isEmpty_iff.mp quiet)
    rw [List.isEmpty_iff.mp undrawn, writer] at written
    exact ⟨by rw [code, faulty], written⟩

end Program

end Plotter.CommandLine
