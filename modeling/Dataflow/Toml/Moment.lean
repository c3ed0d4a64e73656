/-
Dates and times of TOML.

A moment is a date, a time, or both with an optional offset.  Its text is written
back in one form: a capital `T` between date and time, a capital `Z`, and no
zeros at the end of a fraction.
-/
import Dataflow.Decimal.Text
import Dataflow.Toml.Text

namespace Dataflow
namespace Toml

/-- A number of exactly `count` digits between two bounds. -/
def fixedNumber? (count low high : Nat) (s : List Char) : Option (Nat × List Char) :=
  let digits := s.take count
  if digits.length < count ∨ !digits.all Char.isDigit then none
  else
    let n := digits.foldl (fun n c => n * 10 + (c.toNat - '0'.toNat)) 0
    if low ≤ n ∧ n ≤ high then some (n, s.drop count) else none

def expect? (c : Char) : List Char → Option (List Char)
  | d :: rest => if c = d then some rest else none
  | [] => none

def isLeapYear (year : Nat) : Bool :=
  year % 4 = 0 && (year % 100 ≠ 0 || year % 400 = 0)

def daysInMonth (year month : Nat) : Nat :=
  if month = 2 then (if isLeapYear year then 29 else 28)
  else if month = 4 ∨ month = 6 ∨ month = 9 ∨ month = 11 then 30
  else 31

/-- A number with leading zeros. -/
def padded (width n : Nat) : String :=
  let digits := Nat.toDigits 10 n
  String.ofList (List.replicate (width - digits.length) '0' ++ digits)

def date? (s : List Char) : Option (String × List Char) := do
  let (year, s) ← fixedNumber? 4 0 9999 s
  let s ← expect? '-' s
  let (month, s) ← fixedNumber? 2 1 12 s
  let s ← expect? '-' s
  let (day, s) ← fixedNumber? 2 1 (daysInMonth year month) s
  some (padded 4 year ++ "-" ++ padded 2 month ++ "-" ++ padded 2 day, s)

/-- A fraction of a second, of which nine digits count. -/
def fraction? (s : List Char) : Option (String × List Char) :=
  match s with
  | '.' :: rest =>
    let (digits, rest) := rest.span Char.isDigit
    if digits.isEmpty then none
    else
      let kept := ((digits.take 9).reverse.dropWhile (· = '0')).reverse
      some (if kept.isEmpty then "" else "." ++ String.ofList kept, rest)
  | _ => some ("", s)

def time? (s : List Char) : Option (String × List Char) := do
  let (hour, s) ← fixedNumber? 2 0 23 s
  let s ← expect? ':' s
  let (minute, s) ← fixedNumber? 2 0 59 s
  let s ← expect? ':' s
  let (second, s) ← fixedNumber? 2 0 60 s
  let (fraction, s) ← fraction? s
  some (padded 2 hour ++ ":" ++ padded 2 minute ++ ":" ++ padded 2 second ++ fraction, s)

/-- An offset from universal time; a negative offset of zero has no sign of its own. -/
def offset? (s : List Char) : Option (String × List Char) := do
  let signed (negative : Bool) (s : List Char) : Option (String × List Char) := do
    let (hours, s) ← fixedNumber? 2 0 23 s
    let s ← expect? ':' s
    let (minutes, s) ← fixedNumber? 2 0 59 s
    let sign := if negative && (hours ≠ 0 || minutes ≠ 0) then "-" else "+"
    some (sign ++ padded 2 hours ++ ":" ++ padded 2 minutes, s)
  match s with
  | 'Z' :: rest | 'z' :: rest => some ("Z", rest)
  | '+' :: rest => signed false rest
  | '-' :: rest => signed true rest
  | _ => some ("", s)

/-- The text behind a mark between date and time. -/
def timeMark? : List Char → Option (List Char)
  | 'T' :: rest | 't' :: rest | ' ' :: rest => some rest
  | _ => none

/-- A date, a time, or both, in the form in which they are written back. -/
def moment? (s : List Char) : Option (String × List Char) :=
  match date? s with
  | some (date, rest) =>
    match (timeMark? rest).bind time? with
    | some (time, rest) => do
      let (offset, rest) ← offset? rest
      some (date ++ "T" ++ time ++ offset, rest)
    | none => some (date, rest)
  | none => time? s

end Toml
end Dataflow
