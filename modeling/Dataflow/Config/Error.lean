/-
Why a configuration cannot be used.
-/
import Dataflow.Decimal.Text

namespace Dataflow

/-- Why a file cannot be read as text. -/
inductive ReadFailure where
  | missing
  | notDirectory
  | isDirectory
  | nameTooLong
  | notText
  | nulInName
  /-- Any other refusal by the file system, with its text and its number. -/
  | refused (text : String) (number : Nat)
  deriving DecidableEq, Repr, Inhabited

def ReadFailure.message : ReadFailure → String
  | missing => "No such file or directory (os error 2)"
  | notDirectory => "Not a directory (os error 20)"
  | isDirectory => "Is a directory (os error 21)"
  | nameTooLong => "File name too long (os error 36)"
  | notText => "stream did not contain valid UTF-8"
  | nulInName => "file name contained an unexpected NUL byte"
  | refused text number => text ++ " (os error " ++ Decimal.natText number ++ ")"

inductive ConfigError where
  | read (path : String) (cause : ReadFailure)
  /-- A file is not what it should be in its format. -/
  | yaml (path fault : String)
  | toml (path fault : String)
  | invalid (text : String)
  deriving DecidableEq, Repr, Inhabited

def ConfigError.message : ConfigError → String
  | read path cause => "failed to read '" ++ path ++ "': " ++ cause.message
  | yaml path fault => "failed to parse YAML in '" ++ path ++ "': " ++ fault
  | toml path fault => "failed to parse TOML in '" ++ path ++ "': " ++ fault
  | invalid text => "invalid configuration: " ++ text

end Dataflow
