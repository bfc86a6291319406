/-!
# Unknown names

A name that matches no member of a vocabulary is refused with the vocabulary's noun and the
name exactly as given.
-/

namespace Cadence

/-- A name that no member of the vocabulary `noun` carries. -/
structure UnknownToken where
  /-- The vocabulary, such as `granularity`. -/
  noun : String
  /-- The name as given. -/
  token : String
  deriving DecidableEq, Repr

/-- The wording: the noun, then the name between backticks. -/
def UnknownToken.message (e : UnknownToken) : String :=
  "unknown " ++ e.noun ++ " `" ++ e.token ++ "`"

end Cadence
