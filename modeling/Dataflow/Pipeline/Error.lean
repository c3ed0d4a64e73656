/-
Why a pipeline cannot be built, and why a run of one ends early.
-/
import Dataflow.Processor.Error

namespace Dataflow

/-- A list of nodes is refused before anything runs. -/
inductive TopologyError where
  | unknownProcessor (index : Nat) (reference : String)
  | malformedReference (index : Nat) (reference reason : String)
  /-- The data of one node cannot be fed into a later one. -/
  | typeMismatch (previousIndex : Nat) (previous : String) (index : Nat) (processor : String)
      (expected actual : DataType)
  /-- A node reads a context key that an earlier node has deleted for good. -/
  | deletedKeyRequired (index : Nat) (processor key : String) (deletedBy : Nat) (deleter : String)
  | contextKeywordOnNonProbe (index : Nat) (processor : String)
  | unknownParameter (index : Nat) (processor parameter : String)
  deriving DecidableEq, Repr, Inhabited

/-- A node as messages name it. -/
def nodeText (index : Nat) (processor : String) : String :=
  "node " ++ Decimal.natText index ++ " (" ++ processor ++ ")"

def TopologyError.message : TopologyError → String
  | unknownProcessor index reference =>
    "node " ++ Decimal.natText index ++ ": unknown processor reference '" ++ reference ++ "'"
  | malformedReference index reference reason =>
    "node " ++ Decimal.natText index ++ ": malformed processor reference '" ++ reference ++
      "': " ++ reason
  | typeMismatch previousIndex previous index processor expected actual =>
    nodeText index processor ++ " expects " ++ expected.name ++ " input but " ++
      nodeText previousIndex previous ++ " produces " ++ actual.name
  | deletedKeyRequired index processor key deletedBy deleter =>
    nodeText index processor ++ " requires context key '" ++ key ++ "' which " ++
      nodeText deletedBy deleter ++ " deletes; supply it in the node parameters"
  | contextKeywordOnNonProbe index processor =>
    nodeText index processor ++ " sets a context_keyword but is not a probe"
  | unknownParameter index processor parameter =>
    nodeText index processor ++ " has no parameter named '" ++ parameter ++ "'"

/-- A pipeline did not deliver its result. -/
inductive PipelineError where
  | topology (e : TopologyError)
  /-- An argument is neither configured, nor in the context, nor has it a default. -/
  | missingParameter (index : Nat) (name parameter : String)
  | typeMismatch (index : Nat) (name : String) (expected actual : DataType)
  | processor (index : Nat) (name : String) (e : ProcessorError)
  /-- The definition of the pipeline could not be read. -/
  | load (text : String)
  /-- The run crashed inside an executor. -/
  | taskPanicked (text : String)
  deriving DecidableEq, Inhabited

def PipelineError.message : PipelineError → String
  | topology e => e.message
  | missingParameter index name parameter =>
    nodeText index name ++ ": parameter '" ++ parameter ++
      "' is not in the node parameters, the context, or the defaults"
  | typeMismatch index name expected actual =>
    nodeText index name ++ " expects " ++ expected.name ++ " input but received " ++ actual.name
  | processor index name e => nodeText index name ++ " failed: " ++ e.message
  | load text => "pipeline definition could not be loaded: " ++ text
  | taskPanicked text => "pipeline task panicked: " ++ text

end Dataflow
