import Cadence.Granularity
import Cadence.Text.Numeral
import Cadence.Text.Quoted
/-!
# Configuration errors

Configuration fails for one of two causes: a granularity has no lookback count, or a
configured value does not read. The second names the key, the value as given (quoted) and the
reason.
-/

namespace Cadence

/-- Why a configured value does not read. -/
inductive InvalidReason where
  /-- The value is not an unsigned numeral within its bound. -/
  | numeral (error : Text.NumeralError)
  /-- A count is zero. -/
  | notPositive
  /-- A flag is none of the accepted words. -/
  | notBoolean
  deriving DecidableEq, Repr

/-- The wording of a reason. -/
def InvalidReason.message : InvalidReason → String
  | .numeral error => error.message
  | .notPositive => "interval count must be positive"
  | .notBoolean => "expected a boolean"

/-- Why configuration fails. -/
inductive ConfigError where
  /-- No lookback count is configured for the granularity. -/
  | missingLookback (granularity : Granularity)
  /-- The value under `key` does not read. -/
  | invalid (key value : String) (reason : InvalidReason)
  deriving DecidableEq, Repr

/-- The wording of a configuration error; the value appears quoted by `Text.quote`. -/
def ConfigError.message : ConfigError → String
  | .missingLookback g => "no lookback interval count configured for granularity `" ++ g.name ++ "`"
  | .invalid key value reason =>
    "invalid value " ++ Text.quote value ++ " for `" ++ key ++ "`: " ++ reason.message

end Cadence
