/-
Splitting text at a character.
-/
namespace Dataflow
namespace Text

/-- The text before and after the first occurrence of `c`. -/
def splitFirst (c : Char) : List Char → Option (List Char × List Char)
  | [] => none
  | d :: rest =>
    if d = c then some ([], rest)
    else (splitFirst c rest).map (fun (before, after) => (d :: before, after))

/-- The text before and after the last occurrence of `c`. -/
def splitLast (c : Char) : List Char → Option (List Char × List Char)
  | [] => none
  | d :: rest =>
    match splitLast c rest with
    | some (before, after) => some (d :: before, after)
    | none => if d = c then some ([], rest) else none

/-- Puts a character in front of the first part. -/
def consFirst (d : Char) : List (List Char) → List (List Char)
  | [] => [[d]]
  | part :: parts => (d :: part) :: parts

/-- The parts between all occurrences of `c`; there is one more of them than occurrences. -/
def splitAll (c : Char) : List Char → List (List Char)
  | [] => [[]]
  | d :: rest => if d = c then [] :: splitAll c rest else consFirst d (splitAll c rest)

end Text
end Dataflow
