import Cadence.Document.Basic
/-!
# Documents as indented JSON text

A document is written as JSON with two spaces of indentation per level: each element of a
non-empty sequence and each entry of a non-empty map on a line of its own, a space after the
colon of an entry. Texts are quoted with the JSON escapes, controls as `\u00xx`.
-/

namespace Cadence

/-- The JSON escape of one character inside a quoted text. -/
def jsonEscape (c : Char) : List Char :=
  match c with
  | '"' => ['\\', '"']
  | '\\' => ['\\', '\\']
  | '\n' => ['\\', 'n']
  | '\r' => ['\\', 'r']
  | '\t' => ['\\', 't']
  | '\x08' => ['\\', 'b']
  | '\x0c' => ['\\', 'f']
  | c =>
    if c.toNat < 0x20 then
      ['\\', 'u', '0', '0'] ++ (if c.toNat < 16 then ['0'] else []) ++ Nat.toDigits 16 c.toNat
    else [c]

/-- `text` as a quoted JSON string. -/
def jsonQuote (text : String) : String :=
  String.ofList ('"' :: text.toList.flatMap jsonEscape ++ ['"'])

/-- The JSON text of a number. -/
def Number.json : Number → String
  | .natural n => toString n
  | .negative n => toString n.val
  | .float signed magnitude => Number.floatText signed magnitude

mutual

/-- The document as indented JSON text, its inner lines indented by `depth + 1` levels. -/
def Document.pretty (depth : Nat) : Document → String
  | .null => "null"
  | .bool b => toString b
  | .number n => n.json
  | .text s => jsonQuote s
  | .sequence [] => "[]"
  | .sequence items => "[\n" ++ prettyItems depth items ++ "\n" ++ indent depth ++ "]"
  | .map [] => "\x7b\x7d"
  | .map entries => "\x7b\n" ++ prettyEntries depth entries ++ "\n" ++ indent depth ++ "\x7d"

/-- The elements of a sequence, one per line. -/
def prettyItems (depth : Nat) : List Document → String
  | [] => ""
  | [d] => indent (depth + 1) ++ d.pretty (depth + 1)
  | d :: rest => indent (depth + 1) ++ d.pretty (depth + 1) ++ ",\n" ++ prettyItems depth rest

/-- The entries of a map, one per line. -/
def prettyEntries (depth : Nat) : List (String × Document) → String
  | [] => ""
  | [(k, d)] => indent (depth + 1) ++ jsonQuote k ++ ": " ++ d.pretty (depth + 1)
  | (k, d) :: rest =>
    indent (depth + 1) ++ jsonQuote k ++ ": " ++ d.pretty (depth + 1) ++ ",\n" ++
      prettyEntries depth rest

/-- Two spaces per level. -/
def indent (depth : Nat) : String := String.ofList (List.replicate (2 * depth) ' ')

end

end Cadence
