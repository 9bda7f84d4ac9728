import ReviewPipeline.Text.Digits

/-!
# Dates and Times

Times are counted in milliseconds since the beginning of 1970 in universal time. People are shown
a date of the Gregorian calendar and a time of day, in the notation of RFC 3339.
-/

namespace ReviewPipeline.Timestamp

/-- A day of the Gregorian calendar. -/
structure Date where
  /-- The year. -/
  year : Int
  /-- The month, from one. -/
  month : Nat
  /-- The day of the month, from one. -/
  day : Nat
  deriving DecidableEq, Repr

/-- The days in a cycle of four hundred years, after which the calendar repeats. -/
def daysPerCycle : Int := 146097

/-- The date that is `days` days after the first of January 1970. Days are counted in years that
begin in March, so that the day a leap year adds is the last of its year. -/
def dateOfDays (days : Int) : Date :=
  let shifted := days + 719468
  let cycle := shifted / daysPerCycle
  let dayOfCycle := (shifted % daysPerCycle).toNat
  let yearOfCycle :=
    (dayOfCycle - dayOfCycle / 1460 + dayOfCycle / 36524 - dayOfCycle / 146096) / 365
  let dayOfYear := dayOfCycle - (365 * yearOfCycle + yearOfCycle / 4 - yearOfCycle / 100)
  let marchMonth := (5 * dayOfYear + 2) / 153
  let day := dayOfYear - (153 * marchMonth + 2) / 5 + 1
  let month := if marchMonth < 10 then marchMonth + 3 else marchMonth - 9
  let year := cycle * 400 + yearOfCycle + (if month ≤ 2 then 1 else 0)
  ⟨year, month, day⟩

/-- A year has four digits; one that needs more, or is before the year zero, has a sign. -/
def showYear (year : Int) : List Char :=
  if 0 ≤ year ∧ year ≤ 9999 then Text.fixedWidth 10 4 year.toNat
  else
    let digits := Text.decimal year.natAbs
    (if year < 0 then '-' else '+') :: (List.replicate (4 - digits.length) '0' ++ digits)

/-- Two digits. -/
def two (n : Nat) : List Char := Text.fixedWidth 10 2 n

/-- The time of day, to the second, and to the millisecond if it is not a whole second. -/
def showTimeOfDay (ms : Nat) : List Char :=
  let seconds := ms / 1000
  let rest := ms % 1000
  let fraction := if rest = 0 then [] else '.' :: Text.fixedWidth 10 3 rest
  two (seconds / 3600) ++ ':' :: two (seconds / 60 % 60) ++ ':' :: two (seconds % 60) ++ fraction

/-- Whether a year is one that dates are shown in. -/
def isShownYear (year : Int) : Bool :=
  -262143 ≤ year && year ≤ 262142

/-- The date and time of a timestamp; one too far away to have a date is shown as its number. -/
def render (ms : Int) : String :=
  let date := dateOfDays (ms / 86400000)
  if isShownYear date.year then
    String.ofList
      (showYear date.year ++ '-' :: two date.month ++ '-' :: two date.day ++ 'T' ::
        showTimeOfDay (ms % 86400000).toNat ++ "+00:00".toList)
  else Text.showInt ms

end ReviewPipeline.Timestamp
