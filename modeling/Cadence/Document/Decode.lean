import Cadence.Document.Basic
import Cadence.Count
/-!
# Reading documents

Readers turn a document into a value or say why they cannot: the document has the wrong
kind, a number is out of range, a sequence has the wrong length, a name is not one of a
vocabulary's, or a field is missing. Variants of a vocabulary are a text, or a map with the
variant's name as its single key and null as its value. Records are read from a map, where
each known entry is read in the map's order and unknown entries are skipped, the missing
fields being reported afterwards in declaration order; or from a sequence of the fields in
declaration order.
-/

namespace Cadence

/-- Why a document does not read. -/
inductive DecodeError where
  /-- A document of the wrong kind. -/
  | invalidType (found : Unexpected) (expected : String)
  /-- A document of the right kind with a value out of range. -/
  | invalidValue (found : Unexpected) (expected : String)
  /-- A sequence of the wrong length. -/
  | invalidLength (length : Nat) (expected : String)
  /-- A name that is none of the variants. -/
  | unknownVariant (name : String) (variants : List String)
  /-- A required field is absent. -/
  | missingField (field : String)
  /-- A record kind ordinal beyond the last kind. -/
  | unknownOrdinal (ordinal : Nat)
  deriving DecidableEq, Repr

/-- The variants between backticks, as a list of what was expected. -/
def expectedOneOf : List String → String
  | [] => "there are no variants"
  | [a] => "expected `" ++ a ++ "`"
  | [a, b] => "expected `" ++ a ++ "` or `" ++ b ++ "`"
  | a :: rest => "expected one of `" ++ a ++ "`" ++ String.join (rest.map fun v => ", `" ++ v ++ "`")

/-- The wording of a decoding error. -/
def DecodeError.message : DecodeError → String
  | .invalidType found expected => "invalid type: " ++ found.describe ++ ", expected " ++ expected
  | .invalidValue found expected => "invalid value: " ++ found.describe ++ ", expected " ++ expected
  | .invalidLength length expected =>
    "invalid length " ++ toString length ++ ", expected " ++ expected
  | .unknownVariant name variants => "unknown variant `" ++ name ++ "`, " ++ expectedOneOf variants
  | .missingField field => "missing field `" ++ field ++ "`"
  | .unknownOrdinal ordinal => "unknown accessor type ordinal " ++ toString ordinal

/-- A reader of documents. -/
abbrev Decode (α : Type) := Except DecodeError α

namespace Document

/-- Reads a natural number at most `bound`; `expected` names the kind of number. -/
def readNatural (bound : Nat) (expected : String) : Document → Decode { n : Nat // n ≤ bound }
  | .number (.natural n) =>
    if h : n ≤ bound then .ok ⟨n, h⟩ else .error (.invalidValue (.number (.natural n)) expected)
  | .number (.negative n) => .error (.invalidValue (.number (.negative n)) expected)
  | d => .error (.invalidType d.unexpected expected)

/-- Reads an unsigned 32-bit count. -/
def readCount (d : Document) : Decode Count :=
  (d.readNatural Count.bound "u32").map fun n => ⟨n.1, n.2⟩

/-- Reads a signed 64-bit word. -/
def readSigned : Document → Decode Word
  | .number (.natural n) =>
    if h : (n : Int) ≤ Word.greatest then
      .ok ⟨n, by unfold Word.IsWord Word.least; omega⟩
    else .error (.invalidValue (.number (.natural n)) "i64")
  | .number (.negative n) => .ok n
  | d => .error (.invalidType d.unexpected "i64")

/-- Reads a text. -/
def readText : Document → Decode String
  | .text s => .ok s
  | d => .error (.invalidType d.unexpected "a string")

/-- Reads an optional value: null is none. -/
def readOption {α : Type} (read : Document → Decode α) : Document → Decode (Option α)
  | .null => .ok none
  | d => (read d).map some

/-- The variant of `table` named `name`. -/
def variantNamed {α : Type} (table : List (String × α)) (name : String) : Decode α :=
  match table.lookup name with
  | some x => .ok x
  | none => .error (.unknownVariant name (table.map Prod.fst))

/-- Reads a variant without data: its name as a text, or a map from its name to null. -/
def readVariant {α : Type} (table : List (String × α)) : Document → Decode α
  | .text name => variantNamed table name
  | .map [(name, value)] => do
    let x ← variantNamed table name
    match value with
    | .null => pure x
    | other => throw (.invalidType other.unexpected "unit")
  | .map _ => .error (.invalidValue .map "map with a single key")
  | d => .error (.invalidType d.unexpected "string or map")

end Document

/-- Reads the known entries of a record's map in the map's order, so that the first entry that
does not read is the error; `check` gives the reader of a known key. -/
def checkEntries (check : String → Option (Document → Decode Unit)) :
    List (String × Document) → Decode Unit
  | [] => .ok ()
  | (key, value) :: rest =>
    match check key with
    | some read => do read value; checkEntries check rest
    | none => checkEntries check rest

/-- The field `key` of a record's entries, read by `read`, or the error that it is missing. -/
def requiredField {α : Type} (entries : List (String × Document)) (key : String)
    (read : Document → Decode α) : Decode α :=
  match entries.lookup key with
  | some value => read value
  | none => .error (.missingField key)

/-- The optional field `key` of a record's entries: absent or null is none. -/
def optionalField {α : Type} (entries : List (String × Document)) (key : String)
    (read : Document → Decode α) : Decode (Option α) :=
  match entries.lookup key with
  | some value => Document.readOption read value
  | none => .ok none

/-- The element at `index` of a record's sequence, read by `read`, or the error that the
sequence ends before it; `expected` describes the record. -/
def element {α : Type} (items : List Document) (index : Nat) (expected : String)
    (read : Document → Decode α) : Decode α :=
  match items[index]? with
  | some value => read value
  | none => .error (.invalidLength index expected)

/-- Refuses a record's sequence longer than its `count` fields. -/
def noExtraElements (items : List Document) (count : Nat) : Decode Unit :=
  if items.length > count then .error (.invalidLength items.length "fewer elements in array")
  else .ok ()

end Cadence
