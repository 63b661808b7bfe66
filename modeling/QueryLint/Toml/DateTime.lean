import QueryLint.Toml.Number

/-!
# Dates and times

A date, a time, or both, perhaps with an offset from universal time. They are read to be written
again in one form only: with a `T` between date and time, a capital `Z`, and no zeros at the end of a
fraction of a second.
-/

namespace QueryLint.Toml

open Reading

/-- Exactly two digits, which write a number in a range. -/
def readTwoDigits (low high : Nat) (text : List Char) : Reading (Nat × List Char) :=
  match text with
  | a :: b :: rest =>
    if a.isDigit && b.isDigit then
      let n := digitsValue 10 [a, b]
      if low ≤ n && n ≤ high then .ok (n, rest) else because "value is out of range" text
    else failAt text
  | _ => failAt text

/-- One character. -/
def readSymbol (c : Char) (text : List Char) : Reading (List Char) :=
  match text with
  | d :: rest => if d = c then .ok rest else failAt text
  | [] => failAt []

/-- Exactly four digits. -/
def readYear (text : List Char) : Reading (Nat × List Char) :=
  let digits := text.take 4
  if digits.length = 4 && digits.all Char.isDigit then .ok (digitsValue 10 digits, text.drop 4)
  else failAt text

/-- The number of days of a month. -/
def daysOf (year month : Nat) : Nat :=
  let isLeap := year % 4 = 0 && (year % 100 ≠ 0 || year % 400 = 0)
  if month = 2 then if isLeap then 29 else 28
  else if month = 4 || month = 6 || month = 9 || month = 11 then 30
  else 31

/-- A number in so many digits. -/
def inDigits (count n : Nat) : List Char :=
  let digits := Nat.toDigits 10 n
  List.replicate (count - digits.length) '0' ++ digits

/-- A date in its written form. -/
def readDate (text : List Char) : Reading (List Char × List Char) := do
  let (year, rest) ← readYear text
  let rest ← readSymbol '-' rest
  let (month, rest) ← required (readTwoDigits 1 12 rest)
  let dayText ← required (readSymbol '-' rest)
  let (day, rest) ← required (readTwoDigits 1 31 dayText)
  if daysOf year month < day then required (because "value is out of range" dayText)
  else .ok (inDigits 4 year ++ '-' :: inDigits 2 month ++ '-' :: inDigits 2 day, rest)

/-- A fraction of a second in its written form: nine digits at most, and no zeros at the end. -/
def readSecondFraction (text : List Char) : Reading (List Char × List Char) := do
  let rest ← readSymbol '.' text
  let digits := rest.takeWhile Char.isDigit
  if digits.isEmpty then failAt rest
  else
    let kept := ((digits.take 9).reverse.dropWhile (· = '0')).reverse
    .ok (if kept.isEmpty then [] else '.' :: kept, rest.dropWhile Char.isDigit)

/-- A time in its written form. -/
def readTime (text : List Char) : Reading (List Char × List Char) := do
  let (hour, rest) ← readTwoDigits 0 23 text
  let rest ← readSymbol ':' rest
  required do
    let (minute, rest) ← readTwoDigits 0 59 rest
    let rest ← readSymbol ':' rest
    let (second, rest) ← readTwoDigits 0 60 rest
    let (fraction, rest) ← optional (readSecondFraction rest) rest
    .ok (inDigits 2 hour ++ ':' :: inDigits 2 minute ++ ':' :: inDigits 2 second
      ++ fraction.getD [], rest)

/-- An offset in its written form; one of no length is not negative. -/
def readOffset (text : List Char) : Reading (List Char × List Char) :=
  labelled "time offset"
    (match text with
    | c :: rest =>
      if c = 'Z' || c = 'z' then .ok (['Z'], rest)
      else if c = '+' || c = '-' then
        required do
          let (hour, rest) ← readTwoDigits 0 23 rest
          let rest ← readSymbol ':' rest
          let (minute, rest) ← readTwoDigits 0 59 rest
          let sign := if c = '-' && (hour ≠ 0 || minute ≠ 0) then '-' else '+'
          .ok (sign :: inDigits 2 hour ++ ':' :: inDigits 2 minute, rest)
      else failAt text
    | [] => failAt [])

/-- The time behind a date in its written form, with the sign between the two. -/
def readTimeOfDate (text : List Char) : Reading (List Char × List Char) :=
  match text with
  | c :: rest =>
    if c = 'T' || c = 't' || c = ' ' then do
      let (time, rest) ← readTime rest
      let (offset, rest) ← optional (readOffset rest) rest
      .ok ('T' :: time ++ offset.getD [], rest)
    else failAt text
  | [] => failAt []

/-- A date, a time, or both in their written form. -/
def readDateTime (text : List Char) : Reading (List Char × List Char) :=
  orElse
    (labelled "date-time" do
      let (date, rest) ← readDate text
      let (time, rest) ← optional (readTimeOfDate rest) rest
      .ok (date ++ time.getD [], rest))
    (labelled "time" (readTime text))

end QueryLint.Toml
