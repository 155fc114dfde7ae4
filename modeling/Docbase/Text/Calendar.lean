/-!
Instants in milliseconds since 1970 as dates and times of day in UTC, by the proleptic
Gregorian calendar with a year 0.
-/
namespace Docbase.Calendar

structure Date where
  year : Int
  month : Nat
  day : Nat
  deriving DecidableEq, Repr

/-- The date that many days after 1970-01-01. Years are counted from March, so that the leap
day is the last of its year. -/
def dateOfDays (days : Int) : Date :=
  let shifted := days + 719468
  let era := Int.fdiv shifted 146097
  let dayOfEra := (Int.fmod shifted 146097).toNat
  let yearOfEra := (dayOfEra - dayOfEra / 1460 + dayOfEra / 36524 - dayOfEra / 146096) / 365
  let dayOfYear := dayOfEra - (365 * yearOfEra + yearOfEra / 4 - yearOfEra / 100)
  let marchMonth := (5 * dayOfYear + 2) / 153
  let day := dayOfYear - (153 * marchMonth + 2) / 5 + 1
  let month := if marchMonth < 10 then marchMonth + 3 else marchMonth - 9
  let year := (yearOfEra : Int) + era * 400 + if month ≤ 2 then 1 else 0
  ⟨year, month, day⟩

private def pad (width n : Nat) : String :=
  let digits := toString n
  String.ofList (List.replicate (width - digits.length) '0') ++ digits

/-- At least four digits, with a sign before the year 0 and after the year 9999. -/
def yearText (year : Int) : String :=
  if year < 0 then "-" ++ pad 4 year.natAbs
  else if 9999 < year then "+" ++ toString year
  else pad 4 year.natAbs

/-- Milliseconds as a fraction of a second, without trailing zeros after the first digit. -/
def fractionText (ms : Nat) : String :=
  if ms % 100 = 0 then toString (ms / 100)
  else if ms % 10 = 0 then pad 2 (ms / 10)
  else pad 3 ms

/-- Years beyond six digits have no date text. -/
def yearLimit : Nat := 999999

/-- For instance `2023-11-14 22:13:20.12 +00:00:00`; an instant whose year has more than six
digits is written as its number of milliseconds. -/
def text (ms : Int) : String :=
  let dayLength := 86400000
  let date := dateOfDays (Int.fdiv ms dayLength)
  let time := (Int.fmod ms dayLength).toNat
  if yearLimit < date.year.natAbs then toString ms
  else
    yearText date.year ++ "-" ++ pad 2 date.month ++ "-" ++ pad 2 date.day ++ " " ++
      toString (time / 3600000) ++ ":" ++ pad 2 (time / 60000 % 60) ++ ":" ++
      pad 2 (time / 1000 % 60) ++ "." ++ fractionText (time % 1000) ++ " +00:00:00"

end Docbase.Calendar
