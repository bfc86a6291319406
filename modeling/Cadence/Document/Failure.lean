/-!
# Why a text is not a JSON document

Reading stops at the first flaw. A failure names the flaw and where reading stopped: the text
not yet read, and how many bytes past its start the reader had looked, one for a character it
was only looking at and four for the digits of a hexadecimal escape. The place is reported as a
line, counted from one, and a column, the number of bytes from the start of that line to the
place (`ReadFailure.describe`).
-/

namespace Cadence.Document

/-- A flaw that makes a text not a JSON document. -/
inductive Flaw where
  /-- The text ends inside a sequence. -/
  | endInSequence
  /-- The text ends inside a map. -/
  | endInMap
  /-- The text ends inside a text. -/
  | endInText
  /-- The text ends where a value is due. -/
  | endInValue
  /-- A key is not followed by a colon. -/
  | expectedColon
  /-- An item of a sequence is followed by neither a comma nor a closing bracket. -/
  | expectedItemSeparator
  /-- An entry of a map is followed by neither a comma nor a closing brace. -/
  | expectedEntrySeparator
  /-- A keyword is misspelled. -/
  | expectedKeyword
  /-- No value starts here. -/
  | expectedValue
  /-- A backslash starts no escape. -/
  | invalidEscape
  /-- A number is malformed. -/
  | invalidNumber
  /-- A number is too large for a double. -/
  | numberOutOfRange
  /-- A text holds a control character. -/
  | controlCharacter
  /-- A key of a map is not a text. -/
  | keyNotText
  /-- An escaped surrogate is not half of a pair. -/
  | loneSurrogate
  /-- A leading escaped surrogate is not followed by a second escape. -/
  | unfinishedPair
  /-- A comma comes right before a closing bracket or brace. -/
  | trailingComma
  /-- Something follows the document. -/
  | trailingCharacters
  /-- Sequences and maps are nested too deep. -/
  | tooDeep
  deriving DecidableEq, Repr

/-- The words for a flaw. -/
def Flaw.message : Flaw → String
  | .endInSequence => "EOF while parsing a list"
  | .endInMap => "EOF while parsing an object"
  | .endInText => "EOF while parsing a string"
  | .endInValue => "EOF while parsing a value"
  | .expectedColon => "expected `:`"
  | .expectedItemSeparator => "expected `,` or `]`"
  | .expectedEntrySeparator => "expected `,` or `\x7d`"
  | .expectedKeyword => "expected ident"
  | .expectedValue => "expected value"
  | .invalidEscape => "invalid escape"
  | .invalidNumber => "invalid number"
  | .numberOutOfRange => "number out of range"
  | .controlCharacter => "control character (\\u0000-\\u001F) found while parsing a string"
  | .keyNotText => "key must be a string"
  | .loneSurrogate => "lone leading surrogate in hex escape"
  | .unfinishedPair => "unexpected end of hex escape"
  | .trailingComma => "trailing comma"
  | .trailingCharacters => "trailing characters"
  | .tooDeep => "recursion limit exceeded"

/-- A flaw and where reading stopped. -/
structure ReadFailure where
  /-- What is wrong. -/
  flaw : Flaw
  /-- The text not yet read. -/
  rest : List Char
  /-- The bytes past the start of `rest` that the reader had looked at. -/
  ahead : Nat
  deriving DecidableEq, Repr

/-- The number of bytes of the characters in UTF-8. -/
def utf8Length (chars : List Char) : Nat := chars.foldl (fun n c => n + c.utf8Size) 0

/-- The byte offset in `input` where reading stopped, at most the end of the text. -/
def ReadFailure.offset (failure : ReadFailure) (input : List Char) : Nat :=
  let total := utf8Length input
  min total (total - utf8Length failure.rest + failure.ahead)

/-- The line and column of a byte offset: the line counts the line breaks before the offset,
and the column is the number of bytes between the last of them and the offset. -/
def lineAndColumn (input : List Char) (offset : Nat) : Nat × Nat :=
  let step (state : Nat × Nat × Nat) (c : Char) : Nat × Nat × Nat :=
    let (position, line, lineStart) := state
    if c = '\n' ∧ position < offset then (position + 1, line + 1, position + 1)
    else (position + c.utf8Size, line, lineStart)
  let (_, line, lineStart) := input.foldl step (0, 1, 0)
  (line, offset - lineStart)

/-- The flaw and its place in `input`: `<flaw> at line <l> column <c>`. -/
def ReadFailure.describe (failure : ReadFailure) (input : String) : String :=
  let chars := input.toList
  let (line, column) := lineAndColumn chars (failure.offset chars)
  failure.flaw.message ++ " at line " ++ toString line ++ " column " ++ toString column

end Cadence.Document
