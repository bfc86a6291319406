/-!
# ASCII case

Names of the vocabulary are matched without regard to the case of ASCII letters. Only the
letters `A` to `Z` and `a` to `z` fold; every other character, `İ` and `ſ` among them, must
match exactly.
-/

namespace Cadence.Text

/-- `text` with the ASCII capitals made small. -/
def asciiLower (text : String) : String := text.map Char.toLower

/-- `text` with the ASCII small letters made capital. -/
def asciiUpper (text : String) : String := text.map Char.toUpper

/-- Whether two texts are equal once ASCII capitals are made small. -/
def equalsIgnoringAsciiCase (a b : String) : Bool := asciiLower a == asciiLower b

end Cadence.Text
