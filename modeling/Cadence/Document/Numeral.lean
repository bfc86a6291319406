import Cadence.Document.Basic
import Cadence.Document.Failure
/-!
# Reading JSON numbers

A number is an optional minus, an integer part (`0`, or a digit from 1 to 9 and more digits),
an optional fraction part (a point and digits) and an optional exponent part (`e` or `E`, an
optional sign and digits). It keeps the kind its text shows: digits without a point or an
exponent are an integer when they fit one of the two integer kinds, and anything else, minus
zero included, is a double.

A double is read from at most 64 bits of its digits: digits are taken into the significand
while it stays below `2^64`; integer digits left out move the point right, fraction digits
left out are dropped. The significand and the power of ten are then made a double in two
rounded steps (`Decimal.readStepwise`). A written exponent past `2^31 - 1` makes the number
zero, or, positive with a non-zero significand, too large; so does a double past the greatest
one.
-/

namespace Cadence.Document

/-- The value of a decimal digit. -/
def digitValue (c : Char) : Nat := c.toNat - '0'.toNat

/-- The value of a list of decimal digits. -/
def digitsValue (digits : List Char) : Nat :=
  digits.foldl (fun acc c => acc * 10 + digitValue c) 0

/-- Appends decimal digits to `significand` while it stays below `2^64`, and answers it with
the count of digits taken; from the first digit that does not fit on, none is taken. -/
def takeDigits (significand : Nat) : List Char → Nat × Nat
  | [] => (significand, 0)
  | d :: rest =>
    let next := significand * 10 + digitValue d
    if next ≤ Text.u64Bound then
      let (taken, count) := takeDigits next rest
      (taken, count + 1)
    else (significand, 0)

/-- The significand read from the integer and fraction digits. -/
def significandOf (integer fraction : List Char) : Nat :=
  (takeDigits (takeDigits 0 integer).1 fraction).1

/-- The largest written exponent that scales a number; past it the number is zero, or too
large when the exponent is positive and the significand not zero. -/
def exponentBound : Nat := 2147483647

/-- How many digits are read before their value first passes `exponentBound`, if it does. -/
def overflowAt (value count : Nat) : List Char → Option Nat
  | [] => none
  | d :: rest =>
    let next := value * 10 + digitValue d
    if exponentBound < next then some (count + 1) else overflowAt next (count + 1) rest

/-- The number written with the sign `negative`, the digits `integer` and `fraction`, and the
exponent part, if any, as whether it is negative and its written value. Digits without point
or exponent that fit in 64 bits are an integer (`Number.ofInteger`); anything else is the
double of the module's rule, none when it is too large. -/
def numberOfParts (negative : Bool) (integer fraction : List Char)
    (exponent : Option (Bool × Nat)) : Option Number :=
  let (whole, taken) := takeDigits 0 integer
  if fraction.isEmpty ∧ exponent.isNone ∧ taken = integer.length then
    some (Number.ofInteger negative whole)
  else
    let (significand, places) := takeDigits whole fraction
    let scale : Int := ((integer.length - taken : Nat) : Int) - places
    let magnitude := match exponent with
      | none => Decimal.readStepwise significand scale
      | some (down, value) =>
        if exponentBound < value then
          if significand = 0 ∨ down then some Decimal.Binary64.zero else none
        else Decimal.readStepwise significand (if down then scale - value else scale + value)
    magnitude.map (Number.float negative)

/-- The integer part of a number and what follows it. -/
def readIntegerPart (chars : List Char) : Except ReadFailure (List Char × List Char) :=
  match chars with
  | [] => .error ⟨.endInValue, [], 0⟩
  | '0' :: rest =>
    match rest with
    | c :: _ => if c.isDigit then .error ⟨.invalidNumber, rest, 1⟩ else .ok (['0'], rest)
    | [] => .ok (['0'], [])
  | c :: rest =>
    if c.isDigit then .ok (c :: rest.takeWhile Char.isDigit, rest.dropWhile Char.isDigit)
    else .error ⟨.invalidNumber, rest, 0⟩

/-- The digits of the fraction part of a number, none without one, and what follows it. -/
def readFractionPart (chars : List Char) : Except ReadFailure (List Char × List Char) :=
  match chars with
  | '.' :: rest =>
    let digits := rest.takeWhile Char.isDigit
    if digits.isEmpty then
      if rest.isEmpty then .error ⟨.endInValue, [], 1⟩ else .error ⟨.invalidNumber, rest, 1⟩
    else .ok (digits, rest.dropWhile Char.isDigit)
  | _ => .ok ([], chars)

/-- The digits of an exponent after its sign, `down` when the sign is a minus; `nonzero` tells
whether the significand is not zero, which makes a positive exponent past `exponentBound` a
failure at its last digit read. -/
def readExponentDigits (nonzero down : Bool) (chars : List Char) :
    Except ReadFailure (Option (Bool × Nat) × List Char) :=
  match chars with
  | [] => .error ⟨.endInValue, [], 0⟩
  | c :: more =>
    if !c.isDigit then .error ⟨.invalidNumber, more, 0⟩
    else
      let digits := chars.takeWhile Char.isDigit
      let tail := chars.dropWhile Char.isDigit
      match overflowAt 0 0 digits with
      | some read =>
        if nonzero ∧ !down then .error ⟨.numberOutOfRange, digits.drop read ++ tail, 0⟩
        else .ok (some (down, digitsValue digits), tail)
      | none => .ok (some (down, digitsValue digits), tail)

/-- The exponent part of a number, if any, and what follows it. -/
def readExponentPart (nonzero : Bool) (chars : List Char) :
    Except ReadFailure (Option (Bool × Nat) × List Char) :=
  match chars with
  | 'e' :: '-' :: rest | 'E' :: '-' :: rest => readExponentDigits nonzero true rest
  | 'e' :: '+' :: rest | 'E' :: '+' :: rest => readExponentDigits nonzero false rest
  | 'e' :: rest | 'E' :: rest => readExponentDigits nonzero false rest
  | _ => .ok (none, chars)

/-- A number after its minus sign, if `negative`, and what follows it. -/
def readNumber (negative : Bool) (chars : List Char) : Except ReadFailure (Number × List Char) := do
  let (integer, chars) ← readIntegerPart chars
  let (fraction, chars) ← readFractionPart chars
  let (exponent, chars) ← readExponentPart (significandOf integer fraction ≠ 0) chars
  match numberOfParts negative integer fraction exponent with
  | some value => pure (value, chars)
  | none => throw ⟨.numberOutOfRange, chars, 0⟩

end Cadence.Document

namespace Cadence.Number

/-- The number a whole text is, when it is one. -/
def ofText? (text : String) : Option Number :=
  let (signed, chars) := match text.toList with
    | '-' :: rest => (true, rest)
    | chars => (false, chars)
  match Document.readNumber signed chars with
  | .ok (value, []) => some value
  | _ => none

end Cadence.Number
