import Mathlib.Algebra.Group.Nat.Defs
import Mathlib.Data.Rat.Defs

/-!
# Instants

A point in time as the code handles it: a `datetime` with a time zone names an instant, in
microseconds; one without a time zone names none.

* `Datetime` — a point in time, and whether it has a time zone.
* `isoformat`, `fromIsoformat` — an instant as text, in UTC.
-/

namespace Fdai.Core

/-- A `datetime`. Two aware ones are compared by the instants they name. -/
inductive Datetime where
  | aware (instant : ℤ)
  | naive (reading : ℤ)
  deriving DecidableEq

namespace Datetime

def instant? : Datetime → Option ℤ
  | .aware instant => some instant
  | .naive _ => none

/-- A span of whole minutes, in microseconds. -/
def minutes (n : ℕ) : ℤ := n * 60000000

end Datetime

/-- The year, month and day of a day of the Gregorian calendar, counted from 1970-01-01. A year is
taken to begin in March, so that the leap day is its last. -/
def civil (days : ℤ) : ℤ × ℤ × ℤ :=
  let shifted := days + 719468
  let era := shifted / 146097
  let dayOfEra := shifted % 146097
  let yearOfEra := (dayOfEra - dayOfEra / 1460 + dayOfEra / 36524 - dayOfEra / 146096) / 365
  let dayOfYear := dayOfEra - (365 * yearOfEra + yearOfEra / 4 - yearOfEra / 100)
  let month := (5 * dayOfYear + 2) / 153
  (yearOfEra + era * 400 + (if 10 ≤ month then 1 else 0), (month + 2) % 12 + 1,
    dayOfYear - (153 * month + 2) / 5 + 1)

def daysFromCivil (year month day : ℤ) : ℤ :=
  let year := if month ≤ 2 then year - 1 else year
  let yearOfEra := year % 400
  let dayOfYear := (153 * ((month + 9) % 12) + 2) / 5 + day - 1
  year / 400 * 146097 + (yearOfEra * 365 + yearOfEra / 4 - yearOfEra / 100 + dayOfYear) - 719468

/-- A number, in so many digits. -/
def paddedDigits (width : ℕ) (n : ℤ) : String :=
  String.ofList ((List.range width).reverse.map fun place =>
    Char.ofNat (48 + (n.toNat / 10 ^ place) % 10))

/-- `astimezone(UTC).isoformat()`: the microseconds are printed unless they are none. -/
def isoformat (instant : ℤ) : String :=
  let date := civil (instant / 86400000000)
  let micros := instant % 86400000000
  paddedDigits 4 date.1 ++ "-" ++ paddedDigits 2 date.2.1 ++ "-" ++ paddedDigits 2 date.2.2 ++ "T" ++
    paddedDigits 2 (micros / 3600000000) ++ ":" ++ paddedDigits 2 (micros / 60000000 % 60) ++ ":" ++
    paddedDigits 2 (micros / 1000000 % 60) ++
    (if micros % 1000000 = 0 then "" else "." ++ paddedDigits 6 (micros % 1000000)) ++ "+00:00"

/-- The number that some digits of a text say. -/
def digitsAt (text : String) (place width : ℕ) : ℤ :=
  ((text.toList.drop place).take width).foldl (fun n digit => 10 * n + (digit.toNat - 48 : ℕ)) 0

/-- `datetime.fromisoformat`, of a text that `isoformat` prints. -/
def fromIsoformat (text : String) : ℤ :=
  daysFromCivil (digitsAt text 0 4) (digitsAt text 5 2) (digitsAt text 8 2) * 86400000000 +
    digitsAt text 11 2 * 3600000000 + digitsAt text 14 2 * 60000000 + digitsAt text 17 2 * 1000000 +
    (if text.toList[19]? = some '.' then digitsAt text 20 6 else 0)

example : isoformat 1709209830250000 = "2024-02-29T12:30:30.250000+00:00" := by decide +kernel

example : fromIsoformat "2024-02-29T12:30:30.250000+00:00" = 1709209830250000 := by decide +kernel

end Fdai.Core
