import Cadence.Decimal.Stepwise
import Cadence.Text.Quoted
import Cadence.Text.Numeral
import Cadence.Word
/-!
# Documents

A document is a JSON value: null, a boolean, a number, a text, a sequence or a map from
text keys. Numbers keep the kind they were read as: a natural number below `2^64`, a negative
integer not below `-2^63`, or any other number, which is a double with its sign.

When a document does not have the shape a reader expects, messages describe what was found
(`Unexpected.describe`); a double is written with the fewest digits that read back.
-/

namespace Cadence

/-- A number as read from a document. -/
inductive Number where
  /-- A natural number below `2^64`. -/
  | natural (n : Nat)
  /-- A negative integer, a word. -/
  | negative (n : Word)
  /-- Any other number: a double, negated when `negative`; zero keeps its sign. -/
  | float (negative : Bool) (magnitude : Decimal.Binary64)
  deriving DecidableEq, Repr

namespace Number

/-- The integer `n` (below `2^64`), negated when `negative`: natural when not negated, a
negative word when it is one, and otherwise the nearest double, minus zero among them. -/
def ofInteger (negative : Bool) (n : Nat) : Number :=
  if !negative then .natural n
  else if h : 0 < n ∧ n ≤ 9223372036854775808 then
    .negative ⟨-(n : Int), by
      unfold Word.IsWord Word.least Word.greatest
      omega⟩
  else .float true (Decimal.Binary64.nearest ⟨n, 1⟩)

/-- A word as a number: natural when not negative. -/
def ofWord (w : Word) : Number := if 0 ≤ w.val then .natural w.val.toNat else .negative w

/-- The choices a float text makes that its digits leave open. -/
structure FloatStyle where
  /-- The most digits written before the point in positional text. -/
  positionalDigits : Nat
  /-- The most zeros written between the point and the first digit in positional text. -/
  leadingZeros : Nat
  /-- What follows a whole number written positionally. -/
  wholeSuffix : String
  /-- The mark between the digits and the power of ten. -/
  exponentMark : Char
  /-- The sign written before a positive power of ten; a negative one has its minus. -/
  positiveSign : String
  /-- The text of zero, after the sign. -/
  zero : String
  deriving DecidableEq, Repr

/-- Documents write a double positionally while at most sixteen digits stand before the point
or at most four zeros after it, keep `.0` after a whole number, and otherwise write one digit,
the rest after a point, `e` and the signed power of ten. -/
def floatStyle : FloatStyle := ⟨16, 4, ".0", 'e', "+", "0.0"⟩

/-- The text of `c · 10^k` (`c` positive, without trailing zeros) in the given style: the
digits scaled by zeros and followed by the whole-number suffix, the digits cut by a point,
zeros after the point before the digits, or else scientific text. -/
def FloatStyle.layout (style : FloatStyle) (c : Nat) (k : Int) : String :=
  let digits := Nat.toDigits 10 c
  let length : Int := digits.length
  let point := length + k
  let zeros (n : Int) : List Char := List.replicate n.toNat '0'
  let sign := if 0 < point - 1 then style.positiveSign.toList else []
  let power := style.exponentMark :: sign ++ (toString (point - 1)).toList
  if 0 ≤ k ∧ point ≤ style.positionalDigits then
    String.ofList (digits ++ zeros k) ++ style.wholeSuffix
  else if 0 < point ∧ point ≤ style.positionalDigits then
    String.ofList (digits.take point.toNat ++ '.' :: digits.drop point.toNat)
  else if -(style.leadingZeros : Int) ≤ point ∧ point ≤ 0 then
    String.ofList ('0' :: '.' :: zeros (-point) ++ digits)
  else if length = 1 then String.ofList (digits ++ power)
  else String.ofList (digits.take 1 ++ '.' :: digits.drop 1 ++ power)

example : floatStyle.layout 1 5 = "100000.0" := by decide
example : floatStyle.layout 1 16 = "1e+16" := by decide
example : floatStyle.layout 1 15 = "1000000000000000.0" := by decide
example : floatStyle.layout 1 (-5) = "0.00001" := by decide
example : floatStyle.layout 1 (-7) = "1e-7" := by decide
example : floatStyle.layout 123456789123 (-3) = "123456789.123" := by decide
example : floatStyle.layout 1 (-4) = "0.0001" := by decide
example : floatStyle.layout 15 (-8) = "1.5e-7" := by decide
example : floatStyle.layout 18446744073709552 3 = "1.8446744073709552e+19" := by decide

/-- The text of a double: its shortest decimal in `floatStyle`, after a minus sign when
negated; zero is the style's zero. -/
def floatText (negative : Bool) (magnitude : Decimal.Binary64) : String :=
  let sign := if negative then "-" else ""
  if magnitude.mantissa = 0 then sign ++ floatStyle.zero
  else
    let (c, k) := magnitude.shortest
    sign ++ floatStyle.layout c k

end Number

/-- A JSON value. -/
inductive Document where
  | null
  | bool (b : Bool)
  | number (n : Number)
  | text (s : String)
  | sequence (items : List Document)
  /-- Entries with distinct keys, in the order they are visited. -/
  | map (entries : List (String × Document))
  deriving Repr

instance : Inhabited Document := ⟨.null⟩

/-- What a reader found where it expected something else. -/
inductive Unexpected where
  | null
  | bool (b : Bool)
  | number (n : Number)
  | text (s : String)
  | sequence
  | map
  deriving DecidableEq, Repr

/-- The words for what was found: the value between backticks for a boolean or a number, the
quoted text for a text. -/
def Unexpected.describe : Unexpected → String
  | .null => "null"
  | .bool b => "boolean `" ++ toString b ++ "`"
  | .number (.natural n) => "integer `" ++ toString n ++ "`"
  | .number (.negative n) => "integer `" ++ toString n.val ++ "`"
  | .number (.float signed magnitude) =>
    "floating point `" ++ Number.floatText signed magnitude ++ "`"
  | .text s => "string " ++ Text.quote s
  | .sequence => "sequence"
  | .map => "map"

/-- What a document is, for messages. -/
def Document.unexpected : Document → Unexpected
  | .null => .null
  | .bool b => .bool b
  | .number n => .number n
  | .text s => .text s
  | .sequence _ => .sequence
  | .map _ => .map

end Cadence
