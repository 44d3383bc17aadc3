/-!
# Timestamps

A time is given as milliseconds since the start of 1970, and shown as date and time of day in
universal time. Years are counted from March on, so that a leap day ends its year.
-/

namespace StyleGauge.Timestamp

/-- A calendar date. -/
structure Date where
  year : Nat
  month : Nat
  day : Nat
  deriving DecidableEq, Repr

/-- The days from the first of March of the year 0 to the start of 1970. -/
def daysBefore1970 : Nat := 719468

/-- The days in four hundred years. -/
def daysPerCycle : Nat := 146097

/-- The date that is a number of days after the start of 1970. -/
def dateOfDays (days : Nat) : Date :=
  let total := days + daysBefore1970
  let cycle := total / daysPerCycle
  let inCycle := total % daysPerCycle
  let year := (inCycle - inCycle / 1460 + inCycle / 36524 - inCycle / 146096) / 365
  let inYear := inCycle - (365 * year + year / 4 - year / 100)
  let fromMarch := (5 * inYear + 2) / 153
  let day := inYear - (153 * fromMarch + 2) / 5 + 1
  let month := if fromMarch < 10 then fromMarch + 3 else fromMarch - 9
  ⟨400 * cycle + year + (if month ≤ 2 then 1 else 0), month, day⟩

/-- A number with zeros before it up to a width. -/
def padded (width n : Nat) : String :=
  let digits := Nat.toDigits 10 n
  String.ofList (List.replicate (width - digits.length) '0' ++ digits)

/-- The text of a time. -/
def text (milliseconds : Nat) : String :=
  let seconds := milliseconds / 1000
  let date := dateOfDays (seconds / 86400)
  let ofDay := seconds % 86400
  padded 4 date.year ++ "-" ++ padded 2 date.month ++ "-" ++ padded 2 date.day ++ "T" ++
    padded 2 (ofDay / 3600) ++ ":" ++ padded 2 (ofDay / 60 % 60) ++ ":" ++ padded 2 (ofDay % 60) ++
    "." ++ padded 3 (milliseconds % 1000) ++ "Z"

example : text 0 = "1970-01-01T00:00:00.000Z" := by decide +kernel

example : dateOfDays 19782 = ⟨2024, 2, 29⟩ := by decide

end StyleGauge.Timestamp
