/-!
# Unsigned 32-bit counts

Bucket counts, ranges and lags are unsigned 32-bit numbers: natural numbers up to
`2^32 - 1`, the bound being part of the type. A product of counts stops at the bound.
-/

namespace Cadence

/-- The greatest count, `2^32 - 1`. -/
def Count.bound : Nat := 4294967295

/-- An unsigned 32-bit count. -/
structure Count where
  /-- The natural number value. -/
  val : Nat
  le_bound : val ≤ Count.bound
  deriving DecidableEq, Repr

namespace Count

/-- The count of value `n`, if `n` is within the bound. -/
def ofNat? (n : Nat) : Option Count := if h : n ≤ bound then some ⟨n, h⟩ else none

/-- The count one. -/
def one : Count := ⟨1, by decide⟩

/-- The count zero. -/
def zero : Count := ⟨0, by decide⟩

/-- The product of two counts, stopping at the bound. -/
def scale (a b : Count) : Count := ⟨min (a.val * b.val) bound, Nat.min_le_right _ _⟩

end Count

end Cadence
