/-
Reading files from a snapshot of a directory.

The snapshot lists the files of a directory by relative path; directories exist
as far as files lie in them.  A path is walked part by part: every part before
the last must be a directory, and so must the last if a slash follows it.  What
lies above the snapshot is unknown and counts as empty.
-/
import Dataflow.Config.Error
import Dataflow.Config.Path
import Dataflow.KeyMap

namespace Dataflow

/-- The text of a file, or nothing if its bytes are not text. -/
abbrev FileTree := KeyMap (Option String)

namespace FileTree

/-- The longest part of a path and the longest path, in bytes. -/
def maxNameBytes : Nat := 255
def maxPathBytes : Nat := 4095

inductive Entry where
  | file (content : Option String)
  /-- A directory, by the parts that lead to it. -/
  | directory (parts : List String)

def entry? (tree : FileTree) (parts : List String) : Option Entry :=
  if parts.isEmpty then some (.directory [])
  else match tree.get? ("/".intercalate parts) with
    | some content => some (.file content)
    | none =>
      if tree.keys.any (fun key => parts.isPrefixOf (Path.parts key)) then some (.directory parts)
      else none

/-- Walks from a directory along parts. -/
def walk (tree : FileTree) : List String → Entry → Except ReadFailure Entry
  | [], e => .ok e
  | _ :: _, .file _ => .error .notDirectory
  | part :: rest, .directory above =>
    if maxNameBytes < part.utf8ByteSize then .error .nameTooLong
    else if part = "." then walk tree rest (.directory above)
    else if part = ".." then
      if above.isEmpty then
        (if rest.all (fun p => p = "." || p = "..") then .error .isDirectory
          else .error .missing)
      else walk tree rest (.directory above.dropLast)
    else match tree.entry? (above ++ [part]) with
      | some e => walk tree rest e
      | none => .error .missing

def read (tree : FileTree) (path : String) : Except ReadFailure String := do
  if path.toList.contains (Char.ofNat 0) then .error .nulInName
  else if path.isEmpty then .error .missing
  else if maxPathBytes < path.utf8ByteSize then .error .nameTooLong
  else if Path.isAbsolute path then
    if (Path.parts path).isEmpty then .error .isDirectory else .error .missing
  else
    match ← walk tree (Path.parts path) (.directory []) with
    | .directory _ => .error .isDirectory
    | .file content =>
      if Path.endsInSlash path then .error .notDirectory
      else match content with
        | some text => .ok text
        | none => .error .notText

end FileTree
end Dataflow
