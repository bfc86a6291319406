import Cadence.Time.Instant
/-!
# Instants as RFC 3339 text

An instant is written as its date, `T`, its time of day and `Z`. Years from 0 to 9999 have
four digits; other years carry a sign and at least four digits. A fraction of a second is
written only when there is one, with three, six or nine digits, the fewest that hold it. A
leap second is written as second 60.
-/

namespace Cadence

/-- `n` in decimal, padded with zeros to at least `width` digits. -/
def padded (width : Nat) (n : Nat) : String :=
  let digits := Nat.toDigits 10 n
  String.ofList (List.replicate (width - digits.length) '0' ++ digits)

/-- The year: four digits from 0 to 9999, else a sign and at least four digits. -/
def yearText (year : Int) : String :=
  if 0 ≤ year ∧ year ≤ 9999 then padded 4 year.toNat
  else (if year < 0 then "-" else "+") ++ padded 4 year.natAbs

/-- The fraction of a second: none for whole seconds, else milli-, micro- or nanoseconds. -/
def fractionText (nanos : Nat) : String :=
  if nanos = 0 then ""
  else if nanos % 1000000 = 0 then "." ++ padded 3 (nanos / 1000000)
  else if nanos % 1000 = 0 then "." ++ padded 6 (nanos / 1000)
  else "." ++ padded 9 nanos

/-- The instant in RFC 3339 form, in UTC. -/
def Instant.rfc3339 (t : Instant) : String :=
  let date := t.date
  let second := t.secondOfDay.toNat
  let leap := if t.inLeapSecond then 1 else 0
  yearText date.year ++ "-" ++ padded 2 date.month ++ "-" ++ padded 2 date.day ++ "T" ++
    padded 2 (second / 3600) ++ ":" ++ padded 2 (second / 60 % 60) ++ ":" ++
    padded 2 (second % 60 + leap) ++ fractionText t.subsecond ++ "Z"

end Cadence
