/-
Paths of files.

A path is text; a slash separates its parts, and a leading slash makes it
absolute.
-/
import Dataflow.Text.Split

namespace Dataflow
namespace Path

def isAbsolute (path : String) : Bool := path.toList.head? = some '/'

/-- A path relative to a directory.  An absolute path stays as it is, and a slash is put between the
two only where the directory is not empty and does not end in one. -/
def join (base path : String) : String :=
  if isAbsolute path then path
  else if base.isEmpty || base.toList.getLast? = some '/' then base ++ path
  else base ++ "/" ++ path

/-- The parts between slashes, without empty ones. -/
def parts (path : String) : List String :=
  (path.splitOn "/").filter (fun p => !p.isEmpty)

/-- Drops empty parts and parts that stand for the directory itself from the end; the first part
stays. -/
def dropTrailing (segments : List String) : List String :=
  match segments with
  | [] => []
  | first :: rest => first :: (rest.reverse.dropWhile (fun p => p.isEmpty || p = ".")).reverse

/-- The path of the directory that holds a file; nothing for a path without a last part. -/
def parent (path : String) : String :=
  match dropTrailing (path.splitOn "/") with
  | [] => ""
  | [_] => ""
  | segments =>
    match dropTrailing segments.dropLast with
    | [""] => "/"
    | above => "/".intercalate above

/-- Whether nothing but slashes follows the last part. -/
def endsInSlash (path : String) : Bool := path.toList.getLast? = some '/'

/-- The name of the file: the last part that is not the directory itself, unless it leads up. -/
def fileName? (path : String) : Option String :=
  ((parts path).filter (· ≠ ".")).getLast?.filter (· ≠ "..")

/-- What follows the last point of the file name; a point at its front does not count. -/
def extension? (path : String) : Option String := do
  let name ← fileName? path
  let (before, after) ← Text.splitLast '.' name.toList
  if before.isEmpty then none else some (String.ofList after)

end Path
end Dataflow
