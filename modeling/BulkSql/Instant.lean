import BulkSql.Text.Quoted

/-!
Instants: seconds since the start of 1970, in the Gregorian calendar extended to all years. A second
can be a leap second, in which the nanoseconds count on behind its end.
-/
namespace BulkSql

/-- The seconds of the years -262143 to 262142. -/
def Instant.InRange (seconds : Int) : Prop := -8334601228800 ≤ seconds ∧ seconds ≤ 8210266876799

instance (seconds : Int) : Decidable (Instant.InRange seconds) :=
  inferInstanceAs (Decidable (_ ∧ _))

structure Instant where
  seconds : Int
  nanos : Nat
  inRange : Instant.InRange seconds
  nanos_lt : nanos < 2000000000
  deriving DecidableEq

/-- A day of the calendar. -/
structure Date where
  year : Int
  month : Nat
  day : Nat
  deriving DecidableEq, Repr

namespace Date

/-- The date of a day counted from 1970-01-01. The count is moved to years that start in March, so
that the leap day is the last of its year. -/
def ofDays (days : Int) : Date :=
  let z := days + 719468
  let era := z / 146097
  let dayOfEra := (z % 146097).toNat
  let yearOfEra := (dayOfEra - dayOfEra / 1460 + dayOfEra / 36524 - dayOfEra / 146096) / 365
  let dayOfYear := dayOfEra - (365 * yearOfEra + yearOfEra / 4 - yearOfEra / 100)
  let shifted := (5 * dayOfYear + 2) / 153
  let month := if shifted < 10 then shifted + 3 else shifted - 9
  { year := era * 400 + yearOfEra + (if month ≤ 2 then 1 else 0)
    month
    day := dayOfYear - (153 * shifted + 2) / 5 + 1 }

end Date

namespace Instant

/-- The instant of these parts, if they are in range. -/
def ofUnix? (seconds : Int) (nanos : Nat) : Option Instant :=
  if h : InRange seconds ∧ nanos < 2000000000 then some ⟨seconds, nanos, h.1, h.2⟩ else none

/-- Whether the instant is in a leap second. -/
def isLeap (t : Instant) : Bool := 1000000000 ≤ t.nanos

/-- The calendar day, counted from 1970-01-01. -/
def days (t : Instant) : Int := t.seconds / 86400

/-- A number with at least `width` digits. -/
def padded (width n : Nat) : Sql :=
  let digits := Nat.toDigits 10 n
  List.replicate (width - digits.length) '0' ++ digits

/-- Years after 9999 and before 0 have a sign. -/
def yearText (year : Int) : Sql :=
  if 9999 < year then '+' :: padded 4 year.natAbs
  else if year < 0 then '-' :: padded 4 year.natAbs
  else padded 4 year.natAbs

/-- The fraction of a second in as few groups of three digits as hold it. -/
def fractionText (nanos : Nat) : Sql :=
  if nanos = 0 then []
  else if nanos % 1000000 = 0 then '.' :: padded 3 (nanos / 1000000)
  else if nanos % 1000 = 0 then '.' :: padded 6 (nanos / 1000)
  else '.' :: padded 9 nanos

/-- Date and time of day in universal time. A leap second is written as the next one, and behind the
last second of a minute as its second 60. -/
def text (t : Instant) : Sql :=
  let date := Date.ofDays t.days
  let second := (t.seconds % 86400).toNat
  let (last, nanos) :=
    if t.isLeap then (second % 60 + 1, t.nanos - 1000000000) else (second % 60, t.nanos)
  yearText date.year ++ '-' :: padded 2 date.month ++ '-' :: padded 2 date.day ++
    'T' :: padded 2 (second / 3600) ++ ':' :: padded 2 (second / 60 % 60) ++
    ':' :: padded 2 last ++ fractionText nanos ++ "+00:00".toList

/-- Earlier instants come first. -/
def compare (s t : Instant) : Ordering :=
  (Ord.compare s.seconds t.seconds).then (Ord.compare s.nanos t.nanos)

/-- Microseconds since the start of 2000, cut toward zero. -/
def micros (t : Instant) : Int :=
  ((t.seconds - 946684800) * 1000000000 + t.nanos).tdiv 1000

end Instant

end BulkSql
