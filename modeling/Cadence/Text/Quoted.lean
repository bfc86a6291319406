import Cadence.Text.Escaped
/-!
# Quoted text

A value shown inside a message is written between double quotes. Inside, a backslash, a
double quote, the NUL character, tab, carriage return and line feed get their two-character
escapes; a character that `isEscaped` marks is written as `\u` followed by its code point in
lowercase hexadecimal between braces; every other character stands for itself.
-/

namespace Cadence.Text

/-- Lowercase hexadecimal digits of `n`, without leading zeros. -/
def hexDigits (n : Nat) : List Char := Nat.toDigits 16 n

/-- The characters that stand for `c` inside quotes. -/
def escapeChar (c : Char) : List Char :=
  match c with
  | '\x00' => ['\\', '0']
  | '\t' => ['\\', 't']
  | '\r' => ['\\', 'r']
  | '\n' => ['\\', 'n']
  | '\\' => ['\\', '\\']
  | '"' => ['\\', '"']
  | c => if isEscaped c then ['\\', 'u', '\x7b'] ++ hexDigits c.toNat ++ ['\x7d'] else [c]

/-- `text` between double quotes, each character written by `escapeChar`. -/
def quote (text : String) : String :=
  String.ofList ('"' :: text.toList.flatMap escapeChar ++ ['"'])

end Cadence.Text
