/-
References that spell out a context processor.

`rename:<old>:<new>`, `delete:<key>` and `template:<format>:<output>` need no
registration.  A reference that starts with one of the three words and a colon
either is such a processor or is malformed; every other reference is left to the
registry.
-/
import Dataflow.Processor.Template
import Dataflow.Text.Split

namespace Dataflow
namespace Processor

/-- Moves the value under one key to another. -/
def renameKey (old new : String) : ContextProcessor where
  name := "rename:" ++ old ++ ":" ++ new
  requiredKeys := [old]
  createdKeys := [new]
  suppressedKeys := [old]
  edit _ := .andThen (.rename old new) (fun _ => .done)

/-- Removes a key; an absent key is no error. -/
def deleteKey (key : String) : ContextProcessor where
  name := "delete:" ++ key
  suppressedKeys := [key]
  edit _ := .andThen (.delete key) (fun _ => .done)

/-- The part after `rename:`. -/
def renameOf? (rest : List Char) : Option ContextProcessor := do
  let (old, new) ← Text.splitFirst ':' rest
  if old.isEmpty ∨ new.isEmpty ∨ ':' ∈ new then none
  else some (renameKey (String.ofList old) (String.ofList new))

/-- The part after `delete:`. -/
def deleteOf? (rest : List Char) : Option ContextProcessor :=
  if rest.isEmpty ∨ ':' ∈ rest then none else some (deleteKey (String.ofList rest))

/-- The part after `template:`, split at the last colon. -/
def templateOf? (rest : List Char) : Option (Except ReferenceError Template) := do
  let (format, output) ← Text.splitLast ':' rest
  if format.isEmpty ∨ output.isEmpty then none
  else some (Template.parse (String.ofList format) (String.ofList output))

/-- Reads a shorthand, or nothing if the reference is none. -/
def ofShorthand? (reference : String) : Option (Except ReferenceError Processor) := do
  let (word, rest) ← Text.splitFirst ':' reference.toList
  let orMalformed (reason : String) (parsed : Option ContextProcessor) :
      Except ReferenceError Processor :=
    match parsed with
    | some p => .ok (.context p)
    | none => .error (.malformed reference reason)
  match String.ofList word with
  | "rename" => some (orMalformed "expected rename:<old>:<new>" (renameOf? rest))
  | "delete" => some (orMalformed "expected delete:<key>" (deleteOf? rest))
  | "template" =>
    match templateOf? rest with
    | some (.ok template) => some (.ok (.context template.toProcessor))
    | some (.error e) => some (.error e)
    | none => some (.error (.malformed reference "expected template:<format>:<output_key>"))
  | _ => none

end Processor
end Dataflow
