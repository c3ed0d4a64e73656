/-
The tables of a TOML document while it is read.

A table may be defined by a header, or come into being on the way to another one:
on the way of a header it may still get a header of its own, on the way of a
dotted key it may only grow by further dotted keys.  Nothing is defined twice.
-/
import Dataflow.Config.Tree

namespace Dataflow
namespace Toml

/-- What stands under a key. -/
inductive Item where
  | value (tree : Tree)
  /-- A table; `implicit` until a header defines it, `dotted` if a dotted key made it. -/
  | table (implicit dotted : Bool) (entries : List (String × Item))
  /-- The tables of an array, last to first. -/
  | tables (entries : List (String × Item)) (before : List (List (String × Item)))
  deriving Inhabited

abbrev Items := List (String × Item)

namespace Item

mutual

def toTree : Item → Tree
  | value tree => tree
  | table _ _ entries => .map (entriesToTree entries)
  | tables entries before => .seq (tablesToTree before ++ [.map (entriesToTree entries)])

def entriesToTree : List (String × Item) → List (Tree × Tree)
  | [] => []
  | (key, item) :: rest => (.str key, toTree item) :: entriesToTree rest

/-- The tables in the order of the document. -/
def tablesToTree : List (List (String × Item)) → List Tree
  | [] => []
  | entries :: before => tablesToTree before ++ [.map (entriesToTree entries)]

end

end Item

namespace Items

/-- Replaces the item under a key, or adds one. -/
def put (key : String) (item : Item) : Items → Items
  | [] => [(key, item)]
  | (k, i) :: rest => if k = key then (k, item) :: rest else (k, i) :: put key item rest

/-- Adds a value under a dotted key.  Tables on the way must not have been defined in another
manner, and the last of them must have been made by a dotted key. -/
def addValue (key : String) (tree : Tree) : List String → Items → Option Items
  | [], items =>
    match items.lookup key with
    | some _ => none
    | none => some (items ++ [(key, .value tree)])
  | part :: rest, items => do
    match items.lookup part with
    | none => return items ++ [(part, .table true true (← addValue key tree rest []))]
    | some (.table implicit dotted entries) =>
      if !implicit ∨ (rest.isEmpty ∧ !dotted) then none
      else return items.put part (.table implicit dotted (← addValue key tree rest entries))
    | some (.tables entries before) =>
      if rest.isEmpty then none
      else return items.put part (.tables (← addValue key tree rest entries) before)
    | some (.value _) => none

/-- Changes the table at the end of a path of headers; what is missing on the way comes into
being. -/
def within (change : Items → Option Items) : List String → Items → Option Items
  | [], items => change items
  | part :: rest, items => do
    match items.lookup part with
    | none => return items ++ [(part, .table true false (← within change rest []))]
    | some (.table implicit dotted entries) =>
      return items.put part (.table implicit dotted (← within change rest entries))
    | some (.tables entries before) =>
      return items.put part (.tables (← within change rest entries) before)
    | some (.value _) => none

/-- Defines a table by a header. -/
def define (key : String) (items : Items) : Option Items :=
  match items.lookup key with
  | none => some (items ++ [(key, .table false false [])])
  | some (.table true false entries) => some (items.put key (.table false false entries))
  | some _ => none

/-- Adds a table to an array of tables. -/
def append (key : String) (items : Items) : Option Items :=
  match items.lookup key with
  | none => some (items ++ [(key, .tables [] [])])
  | some (.tables entries before) => some (items.put key (.tables [] (entries :: before)))
  | some _ => none

end Items
end Toml
end Dataflow
