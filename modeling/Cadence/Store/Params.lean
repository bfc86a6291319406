import Std.Data.TreeMap
/-!
# Store parameters

Store parameters map text keys to text values, one value per key; a later write to a key
replaces the earlier one. Keys are compared exactly, code point by code point, and the map
lists its entries in that order.
-/

namespace Cadence

/-- A finite map from text keys to text values. -/
structure Params where
  /-- The entries, ordered by key. -/
  entries : Std.TreeMap String String compare

namespace Params

/-- The map without entries. -/
def empty : Params := ⟨∅⟩

instance : EmptyCollection Params := ⟨empty⟩

/-- The value under `key`. -/
def get? (p : Params) (key : String) : Option String := p.entries.get? key

/-- Writes `value` under `key`; answers the value it replaces. -/
def put (p : Params) (key value : String) : Option String × Params :=
  (p.get? key, ⟨p.entries.insert key value⟩)

/-- Removes `key`; answers the value it held. -/
def remove (p : Params) (key : String) : Option String × Params :=
  (p.get? key, ⟨p.entries.erase key⟩)

/-- Whether `key` has a value. -/
def containsKey (p : Params) (key : String) : Bool := p.entries.contains key

/-- The number of keys with a value. -/
def size (p : Params) : Nat := p.entries.size

/-- Whether no key has a value. -/
def isEmpty (p : Params) : Bool := p.entries.isEmpty

/-- The keys, in order. -/
def keys (p : Params) : List String := p.entries.keys

/-- The values, in the order of their keys. -/
def values (p : Params) : List String := p.entries.values

/-- The entries, in key order. -/
def toList (p : Params) : List (String × String) := p.entries.toList

/-- Writes the pairs in order, so that of two pairs with one key the later wins. -/
def extend (p : Params) (pairs : List (String × String)) : Params :=
  pairs.foldl (fun acc pair => (acc.put pair.1 pair.2).2) p

/-- The map of the pairs, the later of two pairs with one key winning. -/
def ofList (pairs : List (String × String)) : Params := empty.extend pairs

end Params

end Cadence
