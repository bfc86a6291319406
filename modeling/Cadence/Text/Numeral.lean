/-!
# Unsigned decimal numerals

A numeral is an optional `+` followed by one or more ASCII digits. Reading it against a
bound goes left to right: the first character that is not a digit is an invalid digit, and
the first prefix whose value passes the bound makes the number too large, whichever comes
first. An empty text is refused before anything else, and a lone sign is an invalid digit.
-/

namespace Cadence.Text

/-- Why a text is not an unsigned numeral within its bound. -/
inductive NumeralError where
  /-- The text is empty. -/
  | empty
  /-- A character is not a digit, or the sign stands alone. -/
  | invalidDigit
  /-- The value passes the bound. -/
  | tooLarge
  deriving DecidableEq, Repr

/-- The wording of a numeral error. -/
def NumeralError.message : NumeralError → String
  | .empty => "cannot parse integer from empty string"
  | .invalidDigit => "invalid digit found in string"
  | .tooLarge => "number too large to fit in target type"

/-- The greatest unsigned 16-bit value. -/
def u16Bound : Nat := 65535

/-- The greatest unsigned 32-bit value. -/
def u32Bound : Nat := 4294967295

/-- The greatest unsigned 64-bit value. -/
def u64Bound : Nat := 18446744073709551615

/-- Reads `digits` onto the value `acc` read so far, refusing a value above `bound`. -/
def readDigits (bound : Nat) : List Char → Nat → Except NumeralError Nat
  | [], acc => .ok acc
  | c :: rest, acc =>
    if c.isDigit then
      let next := acc * 10 + (c.toNat - '0'.toNat)
      if next ≤ bound then readDigits bound rest next else .error .tooLarge
    else .error .invalidDigit

/-- Reads an unsigned numeral whose value is at most `bound`. -/
def parseUnsigned (bound : Nat) (text : String) : Except NumeralError Nat :=
  match text.toList with
  | [] => .error .empty
  | ['+'] => .error .invalidDigit
  | ['-'] => .error .invalidDigit
  | '+' :: digits => readDigits bound digits 0
  | digits => readDigits bound digits 0

/-- A numeral read onto a value within the bound stays within it. -/
theorem readDigits_le {bound : Nat} {digits : List Char} {acc n : Nat} (hacc : acc ≤ bound)
    (h : readDigits bound digits acc = .ok n) : n ≤ bound := by
  induction digits generalizing acc with
  | nil =>
    simp only [readDigits, Except.ok.injEq] at h
    omega
  | cons c rest ih =>
    simp only [readDigits] at h
    split at h
    · split at h
      · exact ih (by assumption) h
      · cases h
    · cases h

/-- A numeral's value is within its bound. -/
theorem parseUnsigned_le {bound : Nat} {text : String} {n : Nat}
    (h : parseUnsigned bound text = .ok n) : n ≤ bound := by
  unfold parseUnsigned at h
  split at h
  · cases h
  · cases h
  · cases h
  · exact readDigits_le (Nat.zero_le _) h
  · exact readDigits_le (Nat.zero_le _) h

example : parseUnsigned u32Bound "+007" = .ok 7 ∧ parseUnsigned u32Bound "4294967296" = .error .tooLarge := by
  cbv
example : parseUnsigned u32Bound "-0" = .error .invalidDigit ∧ parseUnsigned u16Bound "" = .error .empty := by
  cbv

end Cadence.Text
