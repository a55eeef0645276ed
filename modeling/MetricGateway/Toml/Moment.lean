import MetricGateway.Time.Calendar

/-!
# Dates of a configuration file

A date, a time of day, or both with or without an offset. They are kept as texts in one form.
-/

namespace MetricGateway.Toml

open Time (takeNumber takeMark padded)

/-- A text in one form that has been read, and what follows it. -/
abbrev ReadPart := String × List Char

/-- The date at the beginning of a text. -/
def readDate (text : List Char) : Option ReadPart := do
  let (year, rest) ← takeNumber 4 text
  let rest ← takeMark '-' rest
  let (month, rest) ← takeNumber 2 rest
  let rest ← takeMark '-' rest
  let (day, rest) ← takeNumber 2 rest
  if month = 0 ∨ 12 < month ∨ day = 0 ∨ Time.daysInMonth year month < day then none
  else some (padded 4 year ++ "-" ++ padded 2 month ++ "-" ++ padded 2 day, rest)

/-- A fraction of a second in billionths, without zeros at its end. -/
def fractionText (digits : List Char) : String :=
  match ((digits.take 9).reverse.dropWhile (· = '0')).reverse with
  | [] => ""
  | kept => "." ++ String.ofList kept

/-- The fraction of a second at the beginning of a text, if there is one. -/
def readFraction : List Char → Option ReadPart
  | '.' :: rest =>
    let digits := rest.takeWhile Char.isDigit
    if digits = [] then none else some (fractionText digits, rest.drop digits.length)
  | text => some ("", text)

/-- The time of day at the beginning of a text. -/
def readTime (text : List Char) : Option ReadPart := do
  let (hour, rest) ← takeNumber 2 text
  let rest ← takeMark ':' rest
  let (minute, rest) ← takeNumber 2 rest
  let rest ← takeMark ':' rest
  let (second, rest) ← takeNumber 2 rest
  let (fraction, rest) ← readFraction rest
  if 23 < hour ∨ 59 < minute ∨ 60 < second then none
  else some (padded 2 hour ++ ":" ++ padded 2 minute ++ ":" ++ padded 2 second ++ fraction, rest)

/-- The offset at the end of a text, if there is one. -/
def readOffset : List Char → Option String
  | [] => some ""
  | ['Z'] => some "Z"
  | ['z'] => some "Z"
  | sign :: rest => do
    if sign ≠ '+' ∧ sign ≠ '-' then none
    let (hours, rest) ← takeNumber 2 rest
    let rest ← takeMark ':' rest
    let (minutes, rest) ← takeNumber 2 rest
    if rest ≠ [] ∨ 23 < hours ∨ 59 < minutes then none
    else some (sign.toString ++ padded 2 hours ++ ":" ++ padded 2 minutes)

/-- The date, the time of day, or both that a text gives. -/
def readMoment (text : List Char) : Option String :=
  match readDate text with
  | some (date, []) => some date
  | some (date, _ :: rest) => do
    let (time, rest) ← readTime rest
    let offset ← readOffset rest
    some (date ++ "T" ++ time ++ offset)
  | none =>
    match readTime text with
    | some (time, []) => some time
    | _ => none

end MetricGateway.Toml
