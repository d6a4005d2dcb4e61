import PageAid.Text.Blank
import PageAid.Text.Digit

/-!
Timestamps of the form `2024-01-02T03:04:05.678+01:00`: which texts are one. Blanks may stand
before a field, the fields need not have all their digits, a blank or a small letter may serve as
`T` and as `Z`, and the day must exist, here and in universal time.
-/

namespace PageAid.Timestamp

open Text

def digits? (limit : Nat) (s : List Char) : Option (Nat × List Char) :=
  let digits := (s.take limit).takeWhile fun c => '0' ≤ c && c ≤ '9'
  if digits.isEmpty then none
  else (readDigits? digits).map (·, s.drop digits.length)

def number? (limit : Nat) (s : List Char) : Option (Nat × List Char) := digits? limit (trimLeft s)

/-- What follows a mark, before which blanks may stand. -/
def after? (mark : Char) (s : List Char) : Option (List Char) :=
  match trimLeft s with
  | c :: r => if c == mark then some r else none
  | [] => none

/-- A year: four digits, or a sign and any number of them. -/
def year? (s : List Char) : Option (Int × List Char) :=
  match trimLeft s with
  | '-' :: r => (digits? r.length r).map fun (n, rest) => (-(n : Int), rest)
  | '+' :: r => (digits? r.length r).map fun (n, rest) => ((n : Int), rest)
  | s => (number? 4 s).map fun (n, rest) => ((n : Int), rest)

def isLeap (year : Int) : Bool := year % 4 == 0 && (year % 100 != 0 || year % 400 == 0)

def daysIn (year : Int) (month : Nat) : Nat :=
  if month == 2 then if isLeap year then 29 else 28
  else if [4, 6, 9, 11].contains month then 30
  else if 1 ≤ month && month ≤ 12 then 31
  else 0

def twoDigits? : List Char → Option (Nat × List Char)
  | a :: b :: r => do
    let a ← asciiDigit? a
    let b ← asciiDigit? b
    some (10 * a + b, r)
  | _ => none

def offset? (s : List Char) : Option (Int × List Char) :=
  match s with
  | c :: r =>
    if (s.take 3).map Char.toLower == ['u', 't', 'c'] then some (0, s.drop 3)
    else if c == 'z' || c == 'Z' then some (0, r)
    else if c == '+' || c == '-' || c == '−' then do
      let (hours, r) ← twoDigits? r
      let (minutes, r) ← twoDigits? (r.dropWhile fun c => c == ':' || isBlank c)
      let distance : Int := 60 * hours + minutes
      if hours < 24 && minutes < 60 then some (if c == '+' then distance else -distance, r)
      else none
    else none
  | [] => none

def fraction? : List Char → Option (List Char)
  | '.' :: r =>
    let digits := r.takeWhile fun c => '0' ≤ c && c ≤ '9'
    if digits.isEmpty then none else some (r.drop digits.length)
  | s => some s

def firstYear : Int := -262143

def lastYear : Int := 262142

/-- The calendar has the day, also in universal time, given the minutes since its start there. -/
def inCalendar (year : Int) (month day : Nat) (minutes : Int) : Bool :=
  firstYear ≤ year && year ≤ lastYear && 1 ≤ day && day ≤ daysIn year month &&
    (0 ≤ minutes || (year, month, day) != (firstYear, 1, 1)) &&
    (minutes < 1440 || (year, month, day) != (lastYear, 12, 31))

/-- Checks a whole timestamp; the result is what follows it. -/
def rest? (s : List Char) : Option (List Char) := do
  let (year, s) ← year? s
  let s ← after? '-' s
  let (month, s) ← number? 2 s
  let s ← after? '-' s
  let (day, s) ← number? 2 s
  let s ← match s with
    | c :: r => if c == 'T' || c == 't' || c == ' ' then some r else none
    | [] => none
  let (hour, s) ← number? 2 s
  let s ← after? ':' s
  let (minute, s) ← number? 2 s
  let s ← after? ':' s
  let (second, s) ← number? 2 s
  let s ← fraction? s
  let (distance, s) ← offset? (trimLeft s)
  if inCalendar year month day (60 * hour + minute - distance) && hour < 24 && minute < 60 &&
      second ≤ 60 then
    some s
  else none

def valid (s : String) : Bool :=
  match rest? s.toList with
  | some r => (trimLeft r).isEmpty
  | none => false

end PageAid.Timestamp
