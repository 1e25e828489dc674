import Admission.Json.Printer
import Admission.Trace

/-!
# The log

What happens is written to a log, entry by entry; entries below the threshold of the log are not
written.  Trace events become entries as well.  They are details, so they go out at the lowest
level, but when a rule for a plugin matches and the details were asked for, the event is raised by
one level.

Main definitions:

* `LogLevel`, `LogSource`, `LogEntry` — entries;
* `TraceEvent.level`, `TraceEvent.line` — the level and the message of a trace event;
* `Report` — a trace event or an entry, as it is handed to whoever keeps the log;
* `Report.line?` — the line of a report, if it is written at all.
-/

set_option autoImplicit false

namespace Admission

/-- How important an entry is. -/
inductive LogLevel where
  | debug
  | info
  | warning
  | error
  deriving DecidableEq, Repr, Inhabited

namespace LogLevel

def name : LogLevel → String
  | .debug => "DEBUG"
  | .info => "INFO"
  | .warning => "WARNING"
  | .error => "ERROR"

/-- The place of a level, from the least important one. -/
def rank : LogLevel → Nat
  | .debug => 0
  | .info => 1
  | .warning => 2
  | .error => 3

/-- An entry of the level is written to a log with the threshold. -/
def passes (level threshold : LogLevel) : Bool := threshold.rank ≤ level.rank

end LogLevel

/-- Which part of the library an entry comes from. -/
inductive LogSource where
  | engine
  | console
  | store
  | ruleFile
  | guards
  | resolver
  | chat
  deriving DecidableEq, Repr

/-- An entry of the log. -/
structure LogEntry where
  level : LogLevel
  source : LogSource
  message : String
  deriving DecidableEq, Repr

namespace TraceEvent

/-- The style of payloads in the log: on one line, characters beyond ASCII as they are, and the
text of what has no written form. -/
def payloadStyle : Json.Style := ⟨false, none, true⟩

/-- The stages whose matches are raised when details were asked for. -/
def raisedStages : List String := ["native-filter:evaluate"]

def level (details : Bool) (e : TraceEvent) : LogLevel :=
  if details && raisedStages.contains e.stage && (e.payload.getD "matched").truthy then .info
  else .debug

/-- The message of a trace event.  There is none when the payload holds an integer that is too
large. -/
def line (e : TraceEvent) : Except Fault String :=
  (Json.render payloadStyle (.ofFields e.payload)).map fun text =>
    "[trace:" ++ e.stage ++ "] " ++ text

end TraceEvent

/-- What is handed to whoever keeps the log. -/
inductive Report where
  | trace (event : TraceEvent)
  | entry (entry : LogEntry)

namespace Report

def of (stage : String) (payload : Fields) : Report := .trace ⟨stage, payload⟩

def event? : Report → Option TraceEvent
  | .trace e => some e
  | .entry _ => none

def level (details : Bool) : Report → LogLevel
  | .trace e => e.level details
  | .entry e => e.level

def source : Report → LogSource
  | .trace _ => .engine
  | .entry e => e.source

def message : Report → Except Fault String
  | .trace e => e.line
  | .entry e => .ok e.message

end Report

/-- A line of the log. -/
structure LogLine where
  level : LogLevel
  report : Report

/-- The line of a report, if its level passes the threshold. -/
def Report.line? (details : Bool) (threshold : LogLevel) (r : Report) : Option LogLine :=
  let level := r.level details
  if level.passes threshold then some ⟨level, r⟩ else none

end Admission
