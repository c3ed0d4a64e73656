/-
The names under which processors can be referred to.

A registry maps names to processors.  A name may be another one than the
processor's own.  Context shorthands are read first, so no registration can
shadow them.

A registered factory is taken to be total and to make the same processor whenever
it is called; so the processor is what the registry keeps.  The loader of pipeline
definitions is taken to be total too.  Both are called outside of what an executor
catches, so one that crashed would take its caller with it.
-/
import Dataflow.Processor.Builtin
import Dataflow.Processor.Shorthand

namespace Dataflow

abbrev Registry := KeyMap Processor

namespace Registry

/-- Registers a processor under a name, replacing an earlier registration. -/
def register (registry : Registry) (name : String) (processor : Processor) : Registry :=
  registry.insert name processor

/-- Registers processors under their own names. -/
def registerAll (registry : Registry) (processors : List Processor) : Registry :=
  processors.foldl (fun r p => r.register p.name p) registry

def builtin : Registry := registerAll .empty Processor.builtins

def resolve (registry : Registry) (reference : String) : Except ReferenceError Processor :=
  match Processor.ofShorthand? reference with
  | some parsed => parsed
  | none =>
    match registry.get? reference with
    | some processor => .ok processor
    | none => .error (.unknown reference)

def description (registry : Registry) : String :=
  "ProcessorRegistry \x7b processor_count: " ++ Decimal.natText registry.size ++
    ", processor_names: " ++ Text.quotedList registry.keys ++ " \x7d"

end Registry
end Dataflow
