/-!
# The shortest decimal that reads back as a double

A positive rational is first rounded to the nearest double `m · 2^q` (53-bit mantissa,
gradual underflow from `2^-1074`, ties to the even mantissa). The reals that round to that
double form an interval around it whose ends are halfway to the neighbouring doubles,
included when `m` is even. The shortest decimal is found on the grids of 1, 2, …, 17
significant digits: on each grid only the two neighbours of the value can lie in the
interval, the first grid with a neighbour inside wins, and of two neighbours inside the
nearer wins, the even one on a tie.

All arithmetic is exact, on fractions of natural numbers.
-/

namespace Cadence.Decimal

/-- A positive fraction `num / den`. -/
structure Fraction where
  num : Nat
  den : Nat

namespace Fraction

/-- `a ≤ b`, by cross multiplication. -/
def le (a b : Fraction) : Bool := a.num * b.den ≤ b.num * a.den

/-- `a < b`, by cross multiplication. -/
def lt (a b : Fraction) : Bool := a.num * b.den < b.num * a.den

/-- `x · 2^e`. -/
def scale2 (x : Fraction) (e : Int) : Fraction :=
  if 0 ≤ e then ⟨x.num * Nat.pow 2 e.toNat, x.den⟩ else ⟨x.num, x.den * Nat.pow 2 (-e).toNat⟩

/-- `x · 10^e`. -/
def scale10 (x : Fraction) (e : Int) : Fraction :=
  if 0 ≤ e then ⟨x.num * Nat.pow 10 e.toNat, x.den⟩ else ⟨x.num, x.den * Nat.pow 10 (-e).toNat⟩

/-- The whole part. -/
def floor (x : Fraction) : Nat := x.num / x.den

/-- `|x - a|` compared with `|x - b|`: whether `a` is strictly nearer to `x` than `b`. -/
def nearer (x a b : Fraction) : Bool :=
  let da : Fraction := if le a x then ⟨x.num * a.den - a.num * x.den, x.den * a.den⟩
    else ⟨a.num * x.den - x.num * a.den, x.den * a.den⟩
  let db : Fraction := if le b x then ⟨x.num * b.den - b.num * x.den, x.den * b.den⟩
    else ⟨b.num * x.den - x.num * b.den, x.den * b.den⟩
  lt da db

end Fraction

/-- The number of decimal digits of `n`. -/
def digitCount (n : Nat) : Nat := (Nat.toDigits 10 n).length

/-- `a / b` rounded to the nearest natural number, a tie to the even one. -/
def roundHalfEven (a b : Nat) : Nat :=
  let q := a / b
  let r := a % b
  if 2 * r > b || (2 * r == b && q % 2 == 1) then q + 1 else q

/-- A double without its sign, `mantissa · 2^exponent`: zero with the least exponent, a
subnormal with a mantissa below `2^52` and the least exponent, or a normal with a mantissa from
`2^52` to below `2^53`. -/
structure Binary64 where
  mantissa : Nat
  exponent : Int
  deriving DecidableEq, Repr

/-- `2^52`, the least normal mantissa of a double. -/
def twoPow52 : Nat := 4503599627370496

/-- `2^53`, one past the greatest mantissa of a double. -/
def twoPow53 : Nat := 9007199254740992

/-- The least binary exponent of a double, that of the subnormals. -/
def leastExponent : Int := -1074

/-- The binary exponent that puts the positive `x` between `2^52` and `2^53`, found from the bit
lengths of numerator and denominator and corrected by one step either way. -/
def normalExponent (x : Fraction) : Int :=
  let guess : Int := (Nat.log2 x.num : Int) - Nat.log2 x.den - 52
  if (x.scale2 (-guess)).floor ≥ twoPow53 then guess + 1
  else if (x.scale2 (-guess)).floor < twoPow52 then guess - 1
  else guess

/-- Zero. -/
def Binary64.zero : Binary64 := ⟨0, leastExponent⟩

/-- The double nearest the fraction `x`, ties to the even mantissa. The exponent is not capped:
a result past the greatest finite double stands for an infinite one. -/
def Binary64.nearest (x : Fraction) : Binary64 :=
  if x.num = 0 then Binary64.zero else
  let e := max (normalExponent x) leastExponent
  let scaled := x.scale2 (-e)
  let m := roundHalfEven scaled.num scaled.den
  if m = twoPow53 then ⟨twoPow52, e + 1⟩ else ⟨m, e⟩

namespace Binary64

/-- The exact value. -/
def value (d : Binary64) : Fraction := Fraction.scale2 ⟨d.mantissa, 1⟩ d.exponent

/-- The lower end of the reals that round to `d`: halfway to the double below, which lies
closer when the mantissa is the least normal one. -/
def lowerEnd (d : Binary64) : Fraction :=
  if d.mantissa = twoPow52 ∧ d.exponent > leastExponent then
    Fraction.scale2 ⟨4 * d.mantissa - 1, 1⟩ (d.exponent - 2)
  else Fraction.scale2 ⟨2 * d.mantissa - 1, 1⟩ (d.exponent - 1)

/-- The upper end of the reals that round to `d`: halfway to the double above. -/
def upperEnd (d : Binary64) : Fraction := Fraction.scale2 ⟨2 * d.mantissa + 1, 1⟩ (d.exponent - 1)

/-- Whether `y` rounds to `d`; the ends count when the mantissa is even. -/
def roundsTo (d : Binary64) (y : Fraction) : Bool :=
  if d.mantissa % 2 == 0 then d.lowerEnd.le y && y.le d.upperEnd
  else d.lowerEnd.lt y && y.lt d.upperEnd

/-- The position of the decimal point: `10^(p-1) ≤ value < 10^p`. Scaling by `10^400` makes
every positive double at least one. -/
def pointPosition (d : Binary64) : Int :=
  (digitCount (d.value.scale10 400).floor : Int) - 400

/-- The digits `c` and exponent `k` of the shortest decimal `c · 10^k` that rounds to `d`,
searched from `digits` significant digits up to 17, which always suffice. -/
def shortestFrom (d : Binary64) (digits : Nat) : Nat × Int :=
  let k := d.pointPosition - digits
  let low := (d.value.scale10 (-k)).floor
  let lowValue := Fraction.scale10 ⟨low, 1⟩ k
  let highValue := Fraction.scale10 ⟨low + 1, 1⟩ k
  let lowIn := d.roundsTo lowValue
  let highIn := d.roundsTo highValue
  if lowIn && highIn then
    if d.value.nearer lowValue highValue then (low, k)
    else if d.value.nearer highValue lowValue then (low + 1, k)
    else if low % 2 == 0 then (low, k) else (low + 1, k)
  else if lowIn then (low, k)
  else if highIn then (low + 1, k)
  else if digits < 17 then shortestFrom d (digits + 1)
  else (low + 1, k)
termination_by 17 - digits

/-- Moves the trailing zeros of `c` into the exponent `k`. -/
def stripZeros (c : Nat) (k : Int) : Nat × Int :=
  if h : c % 10 = 0 ∧ 0 < c then stripZeros (c / 10) (k + 1) else (c, k)
termination_by c
decreasing_by omega

/-- The shortest decimal `c · 10^k` that rounds to `d`, `c` without trailing zeros. -/
def shortest (d : Binary64) : Nat × Int :=
  let (c, k) := d.shortestFrom 1
  stripZeros c k

end Binary64

end Cadence.Decimal
