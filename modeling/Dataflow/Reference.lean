/-
Failures to make sense of a processor reference.
-/
namespace Dataflow

/-- Why a reference names no processor. -/
inductive ReferenceError where
  | unknown (name : String)
  | malformed (reference reason : String)
  deriving DecidableEq, Repr, Inhabited

def ReferenceError.message : ReferenceError → String
  | unknown name => "unknown processor reference '" ++ name ++ "'"
  | malformed reference reason =>
    "malformed processor reference '" ++ reference ++ "': " ++ reason

end Dataflow
