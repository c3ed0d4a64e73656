/-
Failures that a processor reports while it runs.
-/
import Dataflow.Context

namespace Dataflow

inductive ProcessorError where
  | missingParameter (name : String)
  | invalidParameter (name expected actual : String)
  | undeclaredContextKey (processor key : String)
  | context (e : ContextError)
  | validation (e : ValidationError)
  | failed (text : String)
  deriving DecidableEq, Inhabited

def ProcessorError.message : ProcessorError → String
  | missingParameter name => "parameter '" ++ name ++ "' was not resolved"
  | invalidParameter name expected actual =>
    "parameter '" ++ name ++ "' must be " ++ expected ++ ", got " ++ actual
  | undeclaredContextKey processor key =>
    "processor '" ++ processor ++ "' touched undeclared context key '" ++ key ++ "'"
  | context e => e.message
  | validation e => e.message
  | failed text => text

end Dataflow
