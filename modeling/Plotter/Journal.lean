import Plotter.Machine.State
import Plotter.Surface.Note

/-!
# The journal

The machine keeps a journal of what it does.  An entry is an event and the nesting in which it
happened: how many calls were open, and how many replays.  A host shows the entries from some
level on, and the wording of an event is only needed then.
-/

namespace Plotter

inductive Level where
  | debug | info | warning
  deriving DecidableEq, Repr

/-- How deep the machine is in calls and in replays of loops. -/
structure Nesting where
  calls : Nat := 0
  replays : Nat := 0
  deriving DecidableEq, Repr

inductive Event where
  /-- A line was taken up while the machine was doing something. -/
  | line (activity : Activity) (text : Text)
  | discarded (kind : BlockKind) (number : Int)
  | defined (m : Method)
  | replaying (lines rounds : Nat)
  | skipped (text : Text)
  | reported (number : Int) (message : Text)
  | stopping (number : Int)
  | command (primitive : Primitive) (arguments : List Text)
  | unknownPenColor (word : Text)
  | unknownFillMode (word : Text)
  | noted (note : Note)
  | rendering (name description : Text)

namespace Event

def level : Event → Level
  | .reported .. | .stopping _ | .rendering .. => .info
  | .unknownPenColor _ | .unknownFillMode _ => .warning
  | .noted (.undrawnLine ..) | .noted (.undrawnFill _) => .warning
  | .noted .undrawnClear | .noted .undrawnDisplay => .warning
  | .noted (.wrote _) => .info
  | _ => .debug

/-- The part of the program that an event comes from. -/
def origin : Event → Text
  | .command .. | .unknownPenColor _ | .unknownFillMode _ =>
    "penscript.script.runtime.primitives".toList
  | .noted (.clearing _) | .noted (.wrote _) => "penscript.ezdxf_drawable".toList
  | .noted (.built _) => "penscript.pyglet_drawable".toList
  | .noted _ => "penscript.drawable".toList
  | .rendering .. => "penscript".toList
  | _ => "penscript.script.runtime.interpreter".toList

def message : Event → Text
  | .line activity text => "[".toList ++ activity.text ++ "] ".toList ++ text
  | .discarded kind number =>
    "discarded ".toList ++ kind.openingWord ++ " block from line ".toList ++ Text.ofInt number
  | .defined m => "defined ".toList ++ m.summary
  | .replaying lines rounds =>
    "replaying ".toList ++ Text.ofNat lines ++ " line(s) ".toList ++ Text.ofNat rounds
      ++ " time(s)".toList
  | .skipped text => "skipped: ".toList ++ text
  | .reported number message => "line ".toList ++ Text.ofInt number ++ ": ".toList ++ message
  | .stopping number => "stopping at line ".toList ++ Text.ofInt number ++ " after error".toList
  | .command primitive arguments => primitive.word ++ ' ' :: Text.unwords arguments
  | .unknownPenColor word => "ignoring unknown pen color ".toList ++ Text.quoted word
  | .unknownFillMode word => "ignoring unknown fill mode ".toList ++ Text.quoted word
  | .noted note => note.message
  | .rendering name description =>
    "rendering ".toList ++ name ++ " with ".toList ++ description

end Event

def Level.text : Level → Text
  | .debug => "DEBUG".toList
  | .info => "INFO".toList
  | .warning => "WARNING".toList

/-- The rank of a level; a host shows what has at least a given rank. -/
def Level.rank : Level → Nat
  | .debug => 10
  | .info => 20
  | .warning => 30

structure JournalEntry where
  event : Event
  nesting : Nesting

/-- An entry as a host prints it. -/
def Event.logLine (e : Event) : Text :=
  e.level.text ++ " ".toList ++ e.origin ++ ": ".toList ++ e.message

end Plotter
