import Std.Time.Format
import Cadence.Plan
import Cadence.Store.Settings
import Cadence.Document.Pretty
/-!
# The planning command

Given a granularity and, optionally, a count of intervals, the command prints the analysis
plan of that granularity at the present instant as indented JSON. Lookback counts and store
settings are read from the process environment; the store parameters of every record kind are
derived from the settings.
A failure is printed after `Error: ` on the error stream, with exit status 1.
-/

namespace Cadence.Command

/-- The usage line, naming the granularities. -/
def usage : String :=
  "usage: watchtower-plan <granularity> [intervals]; granularity is one of " ++
    ", ".intercalate (Granularity.all.map Granularity.name)

/-- The plan text for the arguments, given the environment's values and the present instant;
or the error text. -/
def run (args : List String) (lookup : String → Option String) (now : Instant) :
    Except String String := do
  let token ← match args with
    | [] => throw usage
    | token :: _ => pure token
  let g ← (Granularity.parse token).mapError UnknownToken.message
  let intervals ← match args.drop 1 with
    | [] => pure none
    | raw :: _ => match h : Text.parseUnsigned Count.bound raw with
      | .ok n => pure (some ⟨n, Text.parseUnsigned_le h⟩)
      | .error e =>
        throw ("intervals must be a non-negative integer\n\nCaused by:\n    " ++ e.message)
  let lookback ← (Lookback.ofLookup lookup).mapError ConfigError.message
  -- the store layouts are derived from the settings, so they must read
  let _ ← (Settings.ofLookup lookup).mapError ConfigError.message
  let plan ← (Plan.make g intervals lookback now).mapError ConfigError.message
  return plan.toDocument.pretty 0

/-- The keys of the environment that configuration reads. -/
def environmentKeys : List String :=
  Granularity.all.map Lookback.key ++
    [Settings.hostnameKey, Settings.portKey, Settings.sslKey, Settings.timeoutKey,
      Settings.passwordKey, Settings.clusteredKey]

end Cadence.Command

open Cadence in
def main (args : List String) : IO UInt32 := do
  let mut values : List (String × String) := []
  for key in Command.environmentKeys do
    if let some value ← IO.getEnv key then
      values := values ++ [(key, value)]
  let stamp ← Std.Time.Timestamp.now
  let nanos := stamp.toNanosecondsSinceUnixEpoch.val
  let now := Instant.clamp (nanos / 1000000000) (nanos % 1000000000).toNat (by
    have := Int.emod_lt_of_pos nanos (by decide : (0 : Int) < 1000000000)
    have := Int.emod_nonneg nanos (by decide : (1000000000 : Int) ≠ 0)
    unfold nanosPerSecond; omega)
  match Command.run args (fun key => values.lookup key) now with
  | .ok text =>
    IO.println text
    return 0
  | .error message =>
    IO.eprintln ("Error: " ++ message)
    return 1
