import Cadence.Document.Numeral
/-!
# Reading JSON text

JSON text is read into a document, or into the first flaw that makes it not one
(`Document.read`). Numbers are read by the rules of `Cadence.Document.Numeral`. Texts resolve
their escapes; a raw control character, an escaped surrogate that is not half of a pair and an
unknown escape are flaws. Map entries are kept in key order, a repeated key keeping its last
value. Sequences and maps nest at most 127 deep (`nestingLimit`), the document itself counted.

The reader works through the text from the front; where a flaw is found is part of the
failure, so that it can be reported by line and column.
-/

namespace Cadence.Document

/-- The blanks JSON allows between tokens. -/
def isJsonBlank (c : Char) : Bool := c == ' ' || c == '\t' || c == '\n' || c == '\r'

/-- `chars` without the blanks in front. -/
def skipBlanks (chars : List Char) : List Char := chars.dropWhile isJsonBlank

/-- One more than the deepest nesting of sequences and maps that is read. -/
def nestingLimit : Nat := 128

/-- Reads the rest of a keyword whose first letter was read. -/
def readWord : List Char → List Char → Except ReadFailure (List Char)
  | [], rest => .ok rest
  | _ :: _, [] => .error ⟨.endInValue, [], 0⟩
  | w :: ws, c :: rest => if c = w then readWord ws rest else .error ⟨.expectedKeyword, rest, 0⟩

/-- The value of a hexadecimal digit. -/
def hexDigitValue (c : Char) : Option Nat :=
  if c.isDigit then some (c.toNat - '0'.toNat)
  else if 'a' ≤ c ∧ c ≤ 'f' then some (c.toNat - 'a'.toNat + 10)
  else if 'A' ≤ c ∧ c ≤ 'F' then some (c.toNat - 'A'.toNat + 10)
  else none

/-- The value of hexadecimal digits. -/
def hexValue (digits : List Char) : Option Nat :=
  digits.foldlM (fun acc c => (hexDigitValue c).map (acc * 16 + ·)) 0

/-- The four hexadecimal digits of an escape and what follows them. Fewer than four bytes
left end the text; four bytes that are not all hexadecimal digits are an invalid escape. -/
def readHexDigits (chars : List Char) : Except ReadFailure (Nat × List Char) :=
  if utf8Length (chars.take 4) < 4 then .error ⟨.endInText, [], 0⟩
  else
    match hexValue (chars.take 4) with
    | some value => .ok (value, chars.drop 4)
    | none => .error ⟨.invalidEscape, chars, 4⟩

/-- Whether a code point is a surrogate that trails a pair. -/
def isTrailingSurrogate (n : Nat) : Bool := 0xDC00 ≤ n ∧ n ≤ 0xDFFF

/-- Whether a code point is a surrogate that leads a pair. -/
def isLeadingSurrogate (n : Nat) : Bool := 0xD800 ≤ n ∧ n ≤ 0xDBFF

/-- The character of a `\u` escape, after the `u`: a code point that is not a surrogate, or a
leading surrogate followed by a `\u` escape of a trailing one, the two making one character. -/
def readUnicodeEscape (chars : List Char) : Except ReadFailure (Char × List Char) := do
  let (first, rest) ← readHexDigits chars
  if isTrailingSurrogate first then throw ⟨.loneSurrogate, rest, 0⟩
  if !isLeadingSurrogate first then return (Char.ofNat first, rest)
  match rest with
  | [] => throw ⟨.endInText, [], 0⟩
  | '\\' :: more =>
    match more with
    | [] => throw ⟨.endInText, [], 0⟩
    | 'u' :: digits =>
      let (second, after) ← readHexDigits digits
      if isTrailingSurrogate second then
        return (Char.ofNat (0x10000 + (first - 0xD800) * 0x400 + (second - 0xDC00)), after)
      else throw ⟨.loneSurrogate, after, 0⟩
    | _ => throw ⟨.unfinishedPair, more, 1⟩
  | _ => throw ⟨.unfinishedPair, rest, 1⟩

/-- The character of an escape after its backslash, and what follows it. -/
def readEscape (chars : List Char) : Except ReadFailure (Char × List Char) :=
  match chars with
  | [] => .error ⟨.endInText, [], 0⟩
  | '"' :: rest => .ok ('"', rest)
  | '\\' :: rest => .ok ('\\', rest)
  | '/' :: rest => .ok ('/', rest)
  | 'b' :: rest => .ok ('\x08', rest)
  | 'f' :: rest => .ok ('\x0c', rest)
  | 'n' :: rest => .ok ('\n', rest)
  | 'r' :: rest => .ok ('\r', rest)
  | 't' :: rest => .ok ('\t', rest)
  | 'u' :: rest => readUnicodeEscape rest
  | _ :: rest => .error ⟨.invalidEscape, rest, 0⟩

/-- The characters of a text up to its closing quote, escapes resolved, and what follows the
quote. Every call reads a character, so the length of the text and one more is fuel enough. -/
def readTextBody : Nat → List Char → Except ReadFailure (List Char × List Char)
  | 0, chars => .error ⟨.endInText, chars, 0⟩
  | fuel + 1, chars =>
    match chars with
    | [] => .error ⟨.endInText, [], 0⟩
    | '"' :: rest => .ok ([], rest)
    | '\\' :: rest => do
      let (c, more) ← readEscape rest
      let (body, after) ← readTextBody fuel more
      pure (c :: body, after)
    | c :: rest =>
      if c.toNat < 0x20 then .error ⟨.controlCharacter, rest, 0⟩
      else do
        let (body, after) ← readTextBody fuel rest
        pure (c :: body, after)

/-- A text after its opening quote, and what follows it. -/
def readQuoted (chars : List Char) : Except ReadFailure (String × List Char) := do
  let (body, rest) ← readTextBody (chars.length + 1) chars
  pure (String.ofList body, rest)

/-- Inserts an entry into entries kept in key order; a key already present takes the new
value. -/
def insertEntry (key : String) (value : Document) :
    List (String × Document) → List (String × Document)
  | [] => [(key, value)]
  | (k, v) :: rest =>
    if key < k then (key, value) :: (k, v) :: rest
    else if key = k then (key, value) :: rest
    else (k, v) :: insertEntry key value rest

/-- The map of entries read in order: in key order, a later entry replacing an earlier one
with the same key. -/
def mapOfEntries (entries : List (String × Document)) : Document :=
  .map (entries.foldl (fun acc entry => insertEntry entry.1 entry.2 acc) [])

mutual

/-- Reads one value after optional blanks; `depth` more levels of nesting may be opened.
`fuel` bounds the calls; three times the length of the text and three more always suffice,
as every third call reads a character. -/
def readValue : Nat → Nat → List Char → Except ReadFailure (Document × List Char)
  | 0, _, chars => .error ⟨.tooDeep, chars, 1⟩
  | fuel + 1, depth, chars =>
    let chars := skipBlanks chars
    match chars with
    | [] => .error ⟨.endInValue, [], 1⟩
    | 'n' :: rest => (readWord ['u', 'l', 'l'] rest).map fun r => (.null, r)
    | 't' :: rest => (readWord ['r', 'u', 'e'] rest).map fun r => (.bool true, r)
    | 'f' :: rest => (readWord ['a', 'l', 's', 'e'] rest).map fun r => (.bool false, r)
    | '-' :: rest => (readNumber true rest).map fun (n, r) => (.number n, r)
    | '"' :: rest => (readQuoted rest).map fun (s, r) => (.text s, r)
    | '[' :: rest =>
      if depth ≤ 1 then .error ⟨.tooDeep, chars, 1⟩
      else (readItems fuel (depth - 1) true rest).map fun (items, r) => (.sequence items, r)
    | '\x7b' :: rest =>
      if depth ≤ 1 then .error ⟨.tooDeep, chars, 1⟩
      else (readEntries fuel (depth - 1) true rest).map fun (entries, r) => (mapOfEntries entries, r)
    | c :: _ =>
      if c.isDigit then (readNumber false chars).map fun (n, r) => (.number n, r)
      else .error ⟨.expectedValue, chars, 1⟩

/-- Reads the rest of a sequence after its opening bracket or an item, `first` when no item
has been read, and what follows its closing bracket. -/
def readItems : Nat → Nat → Bool → List Char → Except ReadFailure (List Document × List Char)
  | 0, _, _, chars => .error ⟨.tooDeep, chars, 1⟩
  | fuel + 1, depth, first, chars =>
    let chars := skipBlanks chars
    match chars with
    | [] => .error ⟨.endInSequence, [], 1⟩
    | ']' :: rest => .ok ([], rest)
    | ',' :: rest =>
      if first then readItem fuel depth chars
      else
        let rest := skipBlanks rest
        match rest with
        | [] => .error ⟨.endInValue, [], 1⟩
        | ']' :: _ => .error ⟨.trailingComma, rest, 1⟩
        | _ => readItem fuel depth rest
    | _ => if first then readItem fuel depth chars else .error ⟨.expectedItemSeparator, chars, 1⟩

/-- Reads an item of a sequence and the rest of the sequence. -/
def readItem : Nat → Nat → List Char → Except ReadFailure (List Document × List Char)
  | 0, _, chars => .error ⟨.tooDeep, chars, 1⟩
  | fuel + 1, depth, chars => do
    let (item, rest) ← readValue fuel depth chars
    let (items, after) ← readItems fuel depth false rest
    pure (item :: items, after)

/-- Reads the rest of a map after its opening brace or an entry, `first` when no entry has
been read, and what follows its closing brace; the entries in the order they are written. -/
def readEntries : Nat → Nat → Bool → List Char →
    Except ReadFailure (List (String × Document) × List Char)
  | 0, _, _, chars => .error ⟨.tooDeep, chars, 1⟩
  | fuel + 1, depth, first, chars =>
    let chars := skipBlanks chars
    match chars with
    | [] => .error ⟨.endInMap, [], 1⟩
    | '\x7d' :: rest => .ok ([], rest)
    | ',' :: rest =>
      if first then .error ⟨.keyNotText, chars, 1⟩
      else
        let rest := skipBlanks rest
        match rest with
        | [] => .error ⟨.endInValue, [], 1⟩
        | '"' :: key => readEntry fuel depth key
        | '\x7d' :: _ => .error ⟨.trailingComma, rest, 1⟩
        | _ => .error ⟨.keyNotText, rest, 1⟩
    | '"' :: key =>
      if first then readEntry fuel depth key else .error ⟨.expectedEntrySeparator, chars, 1⟩
    | _ => .error ⟨if first then .keyNotText else .expectedEntrySeparator, chars, 1⟩

/-- Reads an entry of a map after the opening quote of its key, and the rest of the map. -/
def readEntry : Nat → Nat → List Char →
    Except ReadFailure (List (String × Document) × List Char)
  | 0, _, chars => .error ⟨.tooDeep, chars, 1⟩
  | fuel + 1, depth, chars => do
    let (key, rest) ← readQuoted chars
    let rest ← match skipBlanks rest with
      | ':' :: rest => pure rest
      | [] => throw ⟨.endInMap, [], 1⟩
      | other => throw ⟨.expectedColon, other, 1⟩
    let (value, rest) ← readValue fuel depth rest
    let (entries, after) ← readEntries fuel depth false rest
    pure ((key, value) :: entries, after)

end

/-- The document that JSON text holds, blanks around it allowed, or the first flaw. -/
def read (text : String) : Except ReadFailure Document := do
  let chars := text.toList
  let (document, rest) ← readValue (3 * chars.length + 3) nestingLimit chars
  match skipBlanks rest with
  | [] => pure document
  | more => throw ⟨.trailingCharacters, more, 1⟩

/-- The document that JSON text holds, if it holds one. -/
def parse (text : String) : Option Document := (read text).toOption

/-- The first flaw of JSON text and its place, none when the text holds a document. -/
def flawReport? (text : String) : Option String :=
  match read text with
  | .error failure => some (failure.describe text)
  | .ok _ => none

example : flawReport? "[true, null, 1.5e3]" = none := by decide +kernel
example : flawReport? "[true,]" = some "trailing comma at line 1 column 7" := by decide +kernel
example : flawReport? "[1 2]" = some "expected `,` or `]` at line 1 column 4" := by decide +kernel
example : flawReport? "[01]" = some "invalid number at line 1 column 3" := by decide +kernel
example : flawReport? "\"\\ud800\"" = some "unexpected end of hex escape at line 1 column 8" := by
  decide +kernel
example : flawReport? "[1e400]" = some "number out of range at line 1 column 6" := by decide +kernel

end Cadence.Document
