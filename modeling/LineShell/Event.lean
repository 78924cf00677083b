import LineShell.Line.Arguments
import LineShell.Log
import LineShell.ShellError
import LineShell.WaitStatus

/-!
# Events

What a session does is a list of events in order: the texts that its sinks took, the commands that it
dispatched, the changes of directory and the launches that it attempted, what the launched programs
wrote, and what it logged. Whatever an observer sees is read off this list.
-/

namespace LineShell

/-- The two descriptors that a program writes to. -/
inductive Stream where
  | output
  | error
  deriving DecidableEq, Repr

/-- A program that was launched. -/
structure Child where
  pid : Nat
  written : List (Stream × List UInt8)
  waited : Except IoError WaitStatus

def bytesOn (stream : Stream) (written : List (Stream × List UInt8)) : List UInt8 :=
  (written.filter (·.1 = stream)).flatMap (·.2)

/-- One thing that a session does. The first three are texts that its writers took, the last is what
a launched program wrote. -/
inductive Event where
  | prompted (text : String)
  | printed (text : String)
  | reported (text : String)
  | logged (record : Log.Record)
  | dispatched (args : ArgumentVector)
  | changedDirectory (path : String) (result : Except IoError Unit)
  | launched (args : ArgumentVector) (fault : Option IoError)
  | wrote (stream : Stream) (bytes : List UInt8)

namespace Event

def prompt : Event → String
  | .prompted text => text
  | _ => ""

def output : Event → String
  | .printed text => text
  | _ => ""

def report : Event → String
  | .reported text => text
  | _ => ""

/-- What reaches the two descriptors by itself: log records and the writing of programs. -/
def direct (threshold : Log.Threshold) (showLevel : Log.Level → String) :
    Event → List (Stream × List UInt8)
  | .logged record => [(.error, Text.Utf8.encode (record.text threshold showLevel).toList)]
  | .wrote stream bytes => [(stream, bytes)]
  | _ => []

/-- What reaches the two descriptors when the sinks of the session write to them as well. -/
def standard (threshold : Log.Threshold) (showLevel : Log.Level → String) :
    Event → List (Stream × List UInt8)
  | .prompted text | .printed text => [(.output, Text.Utf8.encode text.toList)]
  | .reported text => [(.error, Text.Utf8.encode text.toList)]
  | event => event.direct threshold showLevel

def dispatch? : Event → Option ArgumentVector
  | .dispatched args => some args
  | _ => none

def launch? : Event → Option ArgumentVector
  | .launched args _ => some args
  | _ => none

def directory? : Event → Option (String × Except IoError Unit)
  | .changedDirectory path result => some (path, result)
  | _ => none

end Event

abbrev Trace := List Event

namespace Trace

def prompts (trace : Trace) : String := String.join (trace.map Event.prompt)

def output (trace : Trace) : String := String.join (trace.map Event.output)

def reports (trace : Trace) : String := String.join (trace.map Event.report)

/-- What reaches the descriptors by itself, in order. -/
def direct (threshold : Log.Threshold) (showLevel : Log.Level → String) (trace : Trace) :
    List (Stream × List UInt8) :=
  trace.flatMap (Event.direct threshold showLevel)

/-- What reaches the descriptors when the sinks write to them as well, in order. -/
def standard (threshold : Log.Threshold) (showLevel : Log.Level → String) (trace : Trace) :
    List (Stream × List UInt8) :=
  trace.flatMap (Event.standard threshold showLevel)

def dispatches (trace : Trace) : List ArgumentVector := trace.filterMap Event.dispatch?

def launches (trace : Trace) : List ArgumentVector := trace.filterMap Event.launch?

end Trace

end LineShell
