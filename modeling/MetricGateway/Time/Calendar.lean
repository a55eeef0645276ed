import MetricGateway.Text.Basic

/-!
# Dates

Moments are seconds since the beginning of 1970. Here they are turned into dates and times of day
of the Gregorian calendar, and back.
-/

namespace MetricGateway.Time

open Text (digitsOf padZeros valueOf)

/-- A date and a time of day. -/
structure DateTime where
  year : Nat
  month : Nat
  day : Nat
  hour : Nat
  minute : Nat
  second : Nat
  deriving DecidableEq, Repr

/-- The days from the first of March of the year zero to the beginning of 1970. -/
def epochDay : Nat := 719468

/-- The days of a year that starts in March before its month of the given number. -/
def daysBeforeMonth (month : Nat) : Nat := (153 * month + 2) / 5

/-- The date a number of days after the beginning of 1970. Years are counted from March on, so
that the day of a leap year comes last; 400 years have 146097 days. -/
def dateOfDays (days : Nat) : Nat × Nat × Nat :=
  let shifted := days + epochDay
  let era := shifted / 146097
  let dayOfEra := shifted % 146097
  let yearOfEra := (dayOfEra - dayOfEra / 1460 + dayOfEra / 36524 - dayOfEra / 146096) / 365
  let dayOfYear := dayOfEra - (365 * yearOfEra + yearOfEra / 4 - yearOfEra / 100)
  let month := (5 * dayOfYear + 2) / 153
  let day := dayOfYear - daysBeforeMonth month + 1
  let year := yearOfEra + era * 400
  if month < 10 then (year, month + 3, day) else (year + 1, month - 9, day)

/-- The date and the time of day at a moment. -/
def DateTime.ofSeconds (seconds : Nat) : DateTime :=
  let (year, month, day) := dateOfDays (seconds / 86400)
  let rest := seconds % 86400
  { year, month, day, hour := rest / 3600, minute := rest % 3600 / 60, second := rest % 60 }

/-- The days from the beginning of 1970 to a date. -/
def daysOfDate (year month day : Nat) : Int :=
  let shifted := if month ≤ 2 then year - 1 else year
  let fromMarch := if month ≤ 2 then month + 9 else month - 3
  let yearOfEra := shifted % 400
  let dayOfEra := yearOfEra * 365 + yearOfEra / 4 - yearOfEra / 100 + daysBeforeMonth fromMarch +
    day - 1
  ((shifted / 400 * 146097 + dayOfEra : Nat) : Int) - epochDay

/-- The moment of a date and a time of day. -/
def DateTime.toSeconds (t : DateTime) : Int :=
  daysOfDate t.year t.month t.day * 86400 + (t.hour * 3600 + t.minute * 60 + t.second : Nat)

/-- A number with zeros before it up to a width. -/
def padded (width n : Nat) : String := String.ofList (padZeros width (digitsOf n))

/-- The date without marks between its parts. -/
def DateTime.compactDate (t : DateTime) : String :=
  padded 4 t.year ++ padded 2 t.month ++ padded 2 t.day

/-- The date and the time of day without marks between their parts. -/
def DateTime.compact (t : DateTime) : String :=
  t.compactDate ++ "T" ++ padded 2 t.hour ++ padded 2 t.minute ++ padded 2 t.second ++ "Z"

/-- The value of exactly `n` digits at the beginning of a text, and what follows them. -/
def takeNumber (n : Nat) (text : List Char) : Option (Nat × List Char) :=
  let digits := text.take n
  if digits.length = n ∧ digits.all Char.isDigit then
    some (valueOf digits, text.drop n)
  else none

/-- A text without a character at its beginning. -/
def takeMark (mark : Char) : List Char → Option (List Char)
  | c :: rest => if c = mark then some rest else none
  | [] => none

/-- A fraction of a second at the beginning of a text is passed over. -/
def dropFraction : List Char → Option (List Char)
  | '.' :: rest =>
    if rest.takeWhile Char.isDigit = [] then none else some (rest.dropWhile Char.isDigit)
  | text => some text

/-- The seconds by which the time at the end of a text is ahead. -/
def readOffset : List Char → Option Int
  | ['Z'] => some 0
  | ['z'] => some 0
  | sign :: rest => do
    let (hours, rest) ← takeNumber 2 rest
    let rest ← takeMark ':' rest
    let (minutes, rest) ← takeNumber 2 rest
    if rest ≠ [] ∨ 23 < hours ∨ 59 < minutes then none
    else
      let size : Int := (hours * 3600 + minutes * 60 : Nat)
      if sign = '+' then some size else if sign = '-' then some (-size) else none
  | [] => none

/-- How many days a month has. -/
def daysInMonth (year month : Nat) : Nat :=
  if month = 2 then
    if year % 4 = 0 ∧ (year % 100 ≠ 0 ∨ year % 400 = 0) then 29 else 28
  else if month = 4 ∨ month = 6 ∨ month = 9 ∨ month = 11 then 30
  else 31

/-- The moment that a text gives as a date, a time of day and an offset. -/
def readMoment (text : List Char) : Option Int := do
  let (year, rest) ← takeNumber 4 text
  let rest ← takeMark '-' rest
  let (month, rest) ← takeNumber 2 rest
  let rest ← takeMark '-' rest
  let (day, rest) ← takeNumber 2 rest
  let rest ← takeMark 'T' rest <|> takeMark 't' rest
  let (hour, rest) ← takeNumber 2 rest
  let rest ← takeMark ':' rest
  let (minute, rest) ← takeNumber 2 rest
  let rest ← takeMark ':' rest
  let (second, rest) ← takeNumber 2 rest
  let rest ← dropFraction rest
  let offset ← readOffset rest
  if month = 0 ∨ 12 < month ∨ day = 0 ∨ daysInMonth year month < day ∨ 23 < hour ∨ 59 < minute ∨
      59 < second then none
  else
    let t : DateTime := { year, month, day, hour, minute, second }
    some (t.toSeconds - offset)

end MetricGateway.Time
