import Cadence.Text.Case
import Cadence.Token
/-!
# Vocabularies

A vocabulary is a fixed list of members, each with a name of its own. A name is decoded up to
ASCII case or exactly, by the first member whose name matches; a name that matches no member is
refused with the vocabulary's noun. Documents hold a member by its name.
-/

namespace Cadence

/-- A vocabulary: a list holding every member, and a name for each, no two members alike. -/
structure Vocabulary (α : Type) where
  /-- Every member, in declaration order. -/
  all : List α
  /-- The name of each member. -/
  name : α → String
  mem_all : ∀ x, x ∈ all
  name_injective : Function.Injective name

namespace Vocabulary

variable {α : Type} (v : Vocabulary α)

/-- The member whose name equals `text` up to ASCII case. -/
def findIgnoringCase (text : String) : Option α :=
  v.all.find? fun x => Text.equalsIgnoringAsciiCase (v.name x) text

/-- The member named exactly `text`. -/
def findExact (text : String) : Option α := v.all.find? fun x => v.name x == text

/-- Decodes a name up to ASCII case, refusing one that names no member with the vocabulary's
`noun` and the name as given. -/
def parse (noun text : String) : Except UnknownToken α :=
  match v.findIgnoringCase text with
  | some x => .ok x
  | none => .error ⟨noun, text⟩

/-- The names and their members, in declaration order. -/
def table : List (String × α) := v.all.map fun x => (v.name x, x)

end Vocabulary

end Cadence
