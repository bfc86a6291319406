import Cadence.Decimal.Shortest
/-!
# Reading a decimal into a double step by step

A decimal `significand · 10^exponent` is read into a double in two rounded steps: the
significand is rounded to a double, and that double is multiplied by the double nearest
`10^exponent`, or divided by the double nearest `10^-exponent`, the result rounded once more.
Each step is a correctly rounded operation, but two roundings can land a few units in the last
place away from the double nearest the decimal: `9251678008374071 · 10^-14` reads as the
double whose shortest text is `92.51678008374073`, since its significand is past `2^53`.

An exponent below `-308` first divides by the double nearest `10^308` until it is in range or
the value is zero. A positive exponent past `308`, or a product past the greatest double,
leaves a non-zero significand without a double (`readStepwise` is `none`).
-/

namespace Cadence.Decimal

namespace Fraction

/-- The product of two fractions. -/
def mul (a b : Fraction) : Fraction := ⟨a.num * b.num, a.den * b.den⟩

/-- The quotient of two fractions, the divisor positive. -/
def div (a b : Fraction) : Fraction := ⟨a.num * b.den, a.den * b.num⟩

end Fraction

namespace Binary64

/-- The product of two doubles, rounded to the nearest double. -/
def mul (a b : Binary64) : Binary64 := nearest (a.value.mul b.value)

/-- The quotient of two doubles, the divisor positive, rounded to the nearest double. -/
def div (a b : Binary64) : Binary64 := nearest (a.value.div b.value)

/-- The greatest binary exponent of a finite double, whose greatest value is
`(2^53 - 1) · 2^971`. -/
def greatestExponent : Int := 971

/-- Whether a rounded result lies past the greatest finite double, so that the double is
infinite. -/
def overflows (d : Binary64) : Bool := decide (greatestExponent < d.exponent)

/-- The double nearest `10^k`. -/
def powerOfTen (k : Nat) : Binary64 := nearest ⟨Nat.pow 10 k, 1⟩

end Binary64

/-- The most decimal places one power of ten moves in a reading. -/
def greatestPower : Nat := 308

/-- The double read from `f · 10^exponent`, `f` the significand already rounded to a double:
one product or quotient by a power of ten when the exponent is at most `greatestPower` in
size, and before that quotients by `10^308` while the exponent is below `-308` and the value
is not zero. -/
def scaleStepwise (f : Binary64) (exponent : Int) : Option Binary64 :=
  if exponent.natAbs ≤ greatestPower then
    if 0 ≤ exponent then
      let product := f.mul (Binary64.powerOfTen exponent.natAbs)
      if product.overflows then none else some product
    else some (f.div (Binary64.powerOfTen exponent.natAbs))
  else if f.mantissa = 0 then some f
  else if 0 ≤ exponent then none
  else scaleStepwise (f.div (Binary64.powerOfTen greatestPower)) (exponent + greatestPower)
termination_by exponent.natAbs
decreasing_by
  unfold greatestPower at *
  omega

/-- The double a decimal `significand · 10^exponent` is read as: the significand rounded to the
nearest double, then scaled by `scaleStepwise`; `none` when the result would be infinite. -/
def readStepwise (significand : Nat) (exponent : Int) : Option Binary64 :=
  scaleStepwise (Binary64.nearest ⟨significand, 1⟩) exponent

example : (readStepwise 9251678008374071 (-14)).map Binary64.shortest =
    some (9251678008374073, -14) := by decide +kernel
example : (readStepwise 10877 (-34)).map Binary64.shortest =
    some (10877000000000001, -46) := by decide +kernel
example : (readStepwise 15 (-1)).map Binary64.shortest = some (15, -1) := by decide +kernel
example : readStepwise 1 (-400) = some Binary64.zero := by decide +kernel
example : readStepwise 1 400 = none := by decide +kernel
example : readStepwise 0 400 = some Binary64.zero := by decide +kernel

end Cadence.Decimal
