/-!
# Signed 64-bit words and checked arithmetic

Identifiers and the minute counts a job stores are signed 64-bit words: integers from `-2^63`
to `2^63 - 1`, the range being part of the type. Arithmetic on words is checked: an
operation computes on `Int` and fails with a `Fault` exactly when the result is not a word,
or when a division has no result at all.

Main statements: each checked operation returns the exact result when it is a word, and names
its own fault otherwise.
-/

namespace Cadence

/-- Why a checked word operation has no result. -/
inductive Fault where
  /-- The sum is not a word. -/
  | addOverflow
  /-- The difference is not a word. -/
  | subOverflow
  /-- The product is not a word. -/
  | mulOverflow
  /-- The divisor is zero. -/
  | divByZero
  /-- The quotient is not a word (the least word divided by `-1`). -/
  | divOverflow
  deriving DecidableEq, Repr

/-- The text a failed word operation stops the program with. -/
def Fault.message : Fault → String
  | .addOverflow => "attempt to add with overflow"
  | .subOverflow => "attempt to subtract with overflow"
  | .mulOverflow => "attempt to multiply with overflow"
  | .divByZero => "attempt to divide by zero"
  | .divOverflow => "attempt to divide with overflow"

/-- The least signed 64-bit word, `-2^63`. -/
def Word.least : Int := -9223372036854775808

/-- The greatest signed 64-bit word, `2^63 - 1`. -/
def Word.greatest : Int := 9223372036854775807

/-- An integer is a word when it lies in `[least, greatest]`. -/
def Word.IsWord (x : Int) : Prop := Word.least ≤ x ∧ x ≤ Word.greatest

instance (x : Int) : Decidable (Word.IsWord x) := inferInstanceAs (Decidable (_ ∧ _))

/-- A signed 64-bit word. -/
structure Word where
  /-- The integer value. -/
  val : Int
  isWord : Word.IsWord val
  deriving DecidableEq, Repr

namespace Word

/-- The word of value `x`, if `x` is a word. -/
def ofInt? (x : Int) : Option Word := if h : IsWord x then some ⟨x, h⟩ else none

/-- Keeps an exact result that is a word and reports `fault` for any other. -/
def fit (fault : Fault) (x : Int) : Except Fault Word :=
  if h : IsWord x then .ok ⟨x, h⟩ else .error fault

/-- Checked addition. -/
def add (a b : Word) : Except Fault Word := fit .addOverflow (a.val + b.val)

/-- Checked subtraction. -/
def sub (a b : Word) : Except Fault Word := fit .subOverflow (a.val - b.val)

/-- Checked multiplication. -/
def mul (a b : Word) : Except Fault Word := fit .mulOverflow (a.val * b.val)

/-- Checked Euclidean division: the quotient leaves a remainder in `[0, |d|)`, which is
exactly `Int` division. A zero divisor is refused before the range is looked at. -/
def divEuclid (a d : Word) : Except Fault Word :=
  if d.val = 0 then .error .divByZero else fit .divOverflow (a.val / d.val)

/-- The bounds of a word, in numbers. -/
theorem bounds (w : Word) : -9223372036854775808 ≤ w.val ∧ w.val ≤ 9223372036854775807 :=
  w.isWord

@[simp] theorem fit_of_isWord {fault : Fault} {x : Int} (h : IsWord x) :
    fit fault x = .ok ⟨x, h⟩ := by
  simp [fit, h]

@[simp] theorem fit_of_not_isWord {fault : Fault} {x : Int} (h : ¬ IsWord x) :
    fit fault x = .error fault := by
  simp [fit, h]

end Word

end Cadence
