/-
Log events, spans and the filter in front of them.

An event has a level, a line of text and typed fields.  A span carries the same
fields together with a name that the caller gives it.  What a filter turns away
is not even built, so a filter may be seen by code that builds an event.
-/
import Dataflow.Json

namespace Dataflow

/-- How much attention an event asks for. -/
inductive LogLevel where
  | trace
  | debug
  | info
  | warn
  | error
  deriving DecidableEq, Repr, Inhabited

namespace LogLevel

def name : LogLevel → String
  | trace => "trace"
  | debug => "debug"
  | info => "info"
  | warn => "warn"
  | error => "error"

def rank : LogLevel → Nat
  | trace => 0
  | debug => 1
  | info => 2
  | warn => 3
  | error => 4

end LogLevel

/-- The events that are wanted: none, or those of at least some level. -/
inductive LogFilter where
  | off
  | atLeast (level : LogLevel)
  deriving DecidableEq, Repr, Inhabited

namespace LogFilter

/-- Every event is wanted. -/
def all : LogFilter := atLeast .trace

def admits : LogFilter → LogLevel → Bool
  | off, _ => false
  | atLeast least, level => least.rank ≤ level.rank

end LogFilter

inductive LogValue where
  | text (value : String)
  | nat (value : Nat)
  | float (value : Float)
  deriving DecidableEq, Inhabited

def LogValue.toJson : LogValue → Json
  | text value => .str value
  | nat value => .ofNat value
  | float value => .ofFloat value

/-- Named fields in the order in which they are given. -/
abbrev LogFields := List (String × LogValue)

structure LogEvent where
  level : LogLevel
  message : String
  fields : LogFields := []
  deriving DecidableEq, Inhabited

namespace LogEvent

def toJson (e : LogEvent) : Json :=
  .obj [("level", .str e.level.name), ("message", .str e.message),
    ("fields", .obj (e.fields.map (fun (name, value) => (name, value.toJson))))]

end LogEvent

/-- A stretch of work that events can be attributed to. -/
structure LogSpan where
  level : LogLevel
  span : String
  fields : LogFields
  deriving DecidableEq, Inhabited

def LogSpan.toJson (s : LogSpan) : Json :=
  .obj [("level", .str s.level.name), ("span", .str s.span),
    ("fields", .obj (s.fields.map (fun (name, value) => (name, value.toJson))))]

/-- Everything there is to say about one kind of event. -/
structure LogRecord where
  level : LogLevel
  text : String
  fields : LogFields
  /-- The name of the kind of span. -/
  spanKind : String
  spanLevel : LogLevel := level
  spanFields : LogFields := fields

namespace LogRecord

def event (r : LogRecord) : LogEvent := ⟨r.level, r.text, r.fields⟩

/-- The span under the caller's name. -/
def span (r : LogRecord) (name : String) : LogSpan :=
  ⟨r.spanLevel, r.spanKind, ("span_name", .text name) :: r.spanFields⟩

end LogRecord
end Dataflow
