import StageRelay.Text.Digits

/-!
# Time stamps

An instant after the beginning of 1970 as a text: date, time of day and an offset
of zero. The fraction of the second has three, six or nine digits, the fewest that
show it whole, or is left out when it is zero.

The calendar is counted in eras of 400 years, which all have the same number of
days, and in years that begin with March, so that the leap day is the last day of
its year.
-/

namespace StageRelay.Stamp

structure Day where
  year : Nat
  month : Nat
  day : Nat
deriving DecidableEq, Repr

/-- The number of days in an era of 400 years, after which the calendar repeats
itself. -/
def daysPerEra : Nat := 146097

/-- The days from the first of March of year zero to the beginning of 1970. -/
def daysBefore1970 : Nat := 719468

/-- The day that comes a number of days after the beginning of 1970. Years are counted
from March, so that a leap day is the last of its year. -/
def dayOf (days : Nat) : Day :=
  let shifted := days + daysBefore1970
  let inEra := shifted % daysPerEra
  let yearOfEra := (inEra - inEra / 1460 + inEra / 36524 - inEra / 146096) / 365
  let inYear := inEra - (365 * yearOfEra + yearOfEra / 4 - yearOfEra / 100)
  let fromMarch := (5 * inYear + 2) / 153
  let month := if fromMarch < 10 then fromMarch + 3 else fromMarch - 9
  let year := yearOfEra + 400 * (shifted / daysPerEra)
  ⟨if month ≤ 2 then year + 1 else year, month, inYear - (153 * fromMarch + 2) / 5 + 1⟩

def padded (width n : Nat) : String := String.ofList (Text.padded width n)

/-- The fraction of a second, given in billionths, in three, six or nine digits: as few
of these as say it all, and none if there is no fraction. -/
def fraction (nanos : Nat) : String :=
  if nanos = 0 then ""
  else if nanos % 1000000 = 0 then "." ++ padded 3 (nanos / 1000000)
  else if nanos % 1000 = 0 then "." ++ padded 6 (nanos / 1000)
  else "." ++ padded 9 nanos

/-- The text of the instant some seconds and billionths after the beginning of
1970. -/
def text (seconds nanos : Nat) : String :=
  let d := dayOf (seconds / 86400)
  let s := seconds % 86400
  let date := s!"{padded 4 d.year}-{padded 2 d.month}-{padded 2 d.day}"
  let time := s!"{padded 2 (s / 3600)}:{padded 2 (s / 60 % 60)}:{padded 2 (s % 60)}"
  s!"{date}T{time}{fraction nanos}+00:00"

end StageRelay.Stamp
