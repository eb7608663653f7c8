import Plotter.CommandLine.Argument
import Plotter.CommandLine.Command
import Plotter.CommandLine.Console
import Plotter.CommandLine.Flag
import Plotter.CommandLine.Help
import Plotter.CommandLine.Payload
import Plotter.CommandLine.Program
import Plotter.CommandLine.Request
import Plotter.CommandLine.Verbosity
import Plotter.Configuration
import Plotter.Diagnostic
import Plotter.Dictionary
import Plotter.Failure
import Plotter.Files
import Plotter.Host
import Plotter.Journal
import Plotter.Json
import Plotter.Machine.Basic
import Plotter.Machine.Command
import Plotter.Machine.Run
import Plotter.Machine.State
import Plotter.Machine.Step
import Plotter.Main
import Plotter.Number.Basic
import Plotter.Number.Double
import Plotter.Number.Rounding
import Plotter.Proofs.Machine.Enclosure
import Plotter.Proofs.Machine.Failing
import Plotter.Proofs.Machine.Feeding
import Plotter.Proofs.Machine.Footprint
import Plotter.Proofs.Machine.Inlining
import Plotter.Proofs.Machine.Lexical
import Plotter.Proofs.Machine.Likeness
import Plotter.Proofs.Machine.Move
import Plotter.Proofs.Machine.Restoring
import Plotter.Proofs.Machine.Task
import Plotter.Proofs.Machine.Termination
import Plotter.Proofs.Machine.Unrolling
import Plotter.Proofs.Machine.Validity
import Plotter.Proofs.Outcome
import Plotter.Proofs.Script.Chain
import Plotter.Proofs.Script.Condition
import Plotter.Proofs.Script.Evaluation
import Plotter.Proofs.Script.Expansion
import Plotter.Proofs.Script.Expression
import Plotter.Proofs.Script.Line
import Plotter.Proofs.Script.Literal
import Plotter.Proofs.Script.Passing
import Plotter.Proofs.Script.Signature
import Plotter.Proofs.Script.Statement
import Plotter.Proofs.Script.Substitution
import Plotter.Proofs.Text.Literal
import Plotter.Proofs.Text.LowerCase
import Plotter.Proofs.Text.Run
import Plotter.Report
import Plotter.Script.Condition
import Plotter.Script.Evaluation
import Plotter.Script.Expression
import Plotter.Script.Keyword
import Plotter.Script.Line
import Plotter.Script.Method
import Plotter.Script.Parameters
import Plotter.Script.Signature
import Plotter.Script.Statement
import Plotter.Script.Substitution
import Plotter.Script.Variables
import Plotter.Settings
import Plotter.Surface.Basic
import Plotter.Surface.Color
import Plotter.Surface.Drafting
import Plotter.Surface.Exchange
import Plotter.Surface.Figure
import Plotter.Surface.Note
import Plotter.Surface.Outline
import Plotter.Surface.Palette
import Plotter.Surface.Recording
import Plotter.Surface.Window
import Plotter.Text.Basic
import Plotter.Text.Blank
import Plotter.Text.Case
import Plotter.Text.CaseTable
import Plotter.Text.Digit
import Plotter.Text.Lines
import Plotter.Text.Numeral
import Plotter.Text.Printable
import Plotter.Text.Quoted
import Plotter.Text.Utf8
import Plotter.Value
import Plotter.Yaml.Cursor
import Plotter.Yaml.Document
import Plotter.Yaml.Moment
import Plotter.Yaml.Node
import Plotter.Yaml.Plain
import Plotter.Yaml.Scalar
import Plotter.Yaml.Token
import Plotter.Proofs.Machine.Session
import Plotter.Proofs.Machine.Stopping
import Plotter.Proofs.Machine.Skipping
import Plotter.Proofs.Machine.Discarding
import Plotter.Proofs.Machine.Redrawing
import Plotter.Proofs.Machine.Independence
import Plotter.Proofs.Machine.Gestures
import Plotter.Proofs.Machine.Attribution
import Plotter.Proofs.Machine.CallLimit
import Plotter.Proofs.Machine.Gating
import Plotter.Proofs.Machine.Atomicity
import Plotter.Proofs.Machine.Placement
import Plotter.Proofs.CommandLine.Input
import Plotter.Proofs.CommandLine.Agreement
import Plotter.Proofs.CommandLine.Dialogue
import Plotter.Proofs.CommandLine.Verdict
import Plotter.Proofs.Script.Composition
import Plotter.Proofs.Script.Listing
import Plotter.Proofs.Script.Recognition
import Plotter.Proofs.Script.Decimal
import Plotter.Proofs.Machine.Recasting
import Plotter.Proofs.Machine.Decimals
import Plotter.Proofs.Machine.Defining
import Plotter.Proofs.Number.Halving
import Plotter.Proofs.Machine.Commands
import Plotter.Proofs.Machine.Triangle
import Plotter.Proofs.Machine.Brush
import Plotter.Proofs.Machine.Options
import Plotter.Proofs.Script.Source
import Plotter.Proofs.Script.Scanning
import Plotter.Proofs.Surface.Coloring
import Plotter.Proofs.Configuration.Keys
import Plotter.Proofs.Configuration.Fields
import Plotter.Proofs.Configuration.Reading
import Plotter.Proofs.Configuration.Layering
import Plotter.Interpreter.State
import Plotter.Interpreter.Step
import Plotter.Interpreter.Run
import Plotter.Proofs.Files.Writing
import Plotter.Proofs.Interpreter.Simulation
import Plotter.Proofs.Interpreter.Invariant
import Plotter.Proofs.Surface.Rendering
