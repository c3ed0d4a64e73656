/-
The program: reads files, draws identifiers and prints.
-/
import Dataflow.CommandLine

namespace Dataflow
namespace Program

/-- What an error of the file system says about reading a file. -/
def readFailure : IO.Error → ReadFailure
  | .noFileOrDirectory .. => .missing
  | .inappropriateType _ 20 _ => .notDirectory
  | .inappropriateType _ 21 _ => .isDirectory
  | .inappropriateType _ number text => .refused text number.toNat
  | .permissionDenied _ number text => .refused text number.toNat
  | .resourceExhausted _ 36 _ => .nameTooLong
  | .resourceExhausted _ number text => .refused text number.toNat
  | .invalidArgument _ 36 _ => .nameTooLong
  | .invalidArgument _ number text => .refused text number.toNat
  | .otherError number text => .refused text number.toNat
  | e => .refused (toString e) 0

def readFile (path : String) : IO (Except ReadFailure String) := do
  if path.toList.contains (Char.ofNat 0) then return .error .nulInName
  else
    try
      match String.fromUTF8? (← IO.FS.readBinFile path) with
      | some text => return .ok text
      | none => return .error .notText
    catch e => return .error (readFailure e)

def drawId : IO JobId := do
  let bytes ← IO.getRandomBytes 16
  return .ofRandom (bytes.toList.foldl (fun n b => n * 256 + b.toNat) 0)

end Program
end Dataflow

open Dataflow in
def main (args : List String) : IO UInt32 := do
  let ids ← args.mapM fun _ => Program.drawId
  let report ← CommandLine.run Program.readFile (fun n => ids.getD n default) "conduit" args
  for line in report.stdout do IO.println line
  for line in report.stderr do IO.eprintln line
  return report.exitCode.toUInt32
