/-
Changing the case of text.

Mappings are per character except for the capital sigma, whose small form at the
end of a word is another one: it ends a word when a cased character stands before
it and none behind it, where characters that case ignores are skipped.
-/
import Dataflow.Text.CaseTable

namespace Dataflow
namespace Text

def mapChar (runs : List CaseRun) (sequences : List (Nat × List Nat)) (c : Char) : List Char :=
  match sequences.lookup c.toNat with
  | some target => target.map Char.ofNat
  | none =>
    match CaseRun.lookup c.toNat runs with
    | some target => [Char.ofNat target]
    | none => [c]

def upperChar (c : Char) : List Char :=
  if c.toNat < 0x80 then [c.toUpper] else mapChar upperRuns upperSequences c

def lowerChar (c : Char) : List Char :=
  if c.toNat < 0x80 then [c.toLower] else mapChar lowerRuns lowerSequences c

/-- Whether the first character that case does not ignore is cased. -/
def startsCased (s : List Char) : Bool :=
  match s.dropWhile caseIgnorable.has with
  | c :: _ => cased.has c
  | [] => false

def capitalSigma : Char := Char.ofNat 0x3A3
def smallSigma : Char := Char.ofNat 0x3C3
def finalSigma : Char := Char.ofNat 0x3C2

/-- Small letters of a text whose characters before it are given in reverse. -/
def lowerFrom (before : List Char) : List Char → List Char
  | [] => []
  | c :: rest =>
    let small :=
      if c = capitalSigma then
        if startsCased before && !startsCased rest then [finalSigma] else [smallSigma]
      else lowerChar c
    small ++ lowerFrom (c :: before) rest

def toUpper (s : String) : String := String.ofList (s.toList.flatMap upperChar)

def toLower (s : String) : String := String.ofList (lowerFrom [] s.toList)

/-- A capital first character, the rest small. -/
def capitalize : List Char → List Char
  | [] => []
  | c :: rest => upperChar c ++ lowerFrom [] rest

/-- Capitalizes the stretches between blanks, each on its own. -/
def toProper (s : String) : String :=
  String.ofList ((((s.toList.splitOn ' ').map capitalize).intersperse [' ']).flatten)

end Text
end Dataflow
