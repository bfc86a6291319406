import Cadence.Config.Error
import Cadence.Text.Blank
import Cadence.Store.Keys
import Cadence.Store.Params
import Cadence.Store.RecordKind
/-!
# Connection settings of the store

Settings name the store's host, port, TLS use, timeout, password and clustering. A lookup
overrides the defaults key by key, in a fixed order, and stops at the first value that does
not read. Their written form hides the password, and the parameters for a kind of record
add the indexes and the record kind's database and identifier field.
-/

namespace Cadence

/-- How to reach the store. -/
structure Settings where
  /-- Host name, as given. -/
  hostname : String
  /-- Port, an unsigned 16-bit number. -/
  port : Nat
  /-- Whether to use TLS. -/
  ssl : Bool
  /-- Timeout in milliseconds, an unsigned 64-bit number. -/
  timeoutMs : Nat
  /-- Password, if one is set. -/
  password : Option String
  /-- Whether the store is clustered. -/
  clustered : Bool
  deriving DecidableEq, Repr

namespace Settings

/-- Local host, port 6379, no TLS, five seconds, no password, not clustered. -/
def defaults : Settings := ⟨"127.0.0.1", 6379, false, 5000, none, false⟩

/-- Lookup key of the host name. -/
def hostnameKey : String := "WATCHTOWER_STORE_HOSTNAME"

/-- Lookup key of the port. -/
def portKey : String := "WATCHTOWER_STORE_PORT"

/-- Lookup key of the TLS flag. -/
def sslKey : String := "WATCHTOWER_STORE_SSL"

/-- Lookup key of the timeout. -/
def timeoutKey : String := "WATCHTOWER_STORE_TIMEOUT_MS"

/-- Lookup key of the password. -/
def passwordKey : String := "WATCHTOWER_STORE_PASSWORD"

/-- Lookup key of the clustering flag. -/
def clusteredKey : String := "WATCHTOWER_STORE_CLUSTERED"

/-- Reads the value `raw` under `key` as an unsigned numeral at most `bound`, trimmed of
blanks. -/
def parseNumber (key raw : String) (bound : Nat) : Except ConfigError Nat :=
  match Text.parseUnsigned bound (Text.trimBlank raw) with
  | .ok n => .ok n
  | .error e => .error (.invalid key raw (.numeral e))

/-- Reads a flag: trimmed of blanks and with ASCII capitals made small, `true`, `1` and `yes`
are true, `false`, `0`, `no` and the empty text are false. -/
def parseFlag (key raw : String) : Except ConfigError Bool :=
  match Text.asciiLower (Text.trimBlank raw) with
  | "true" | "1" | "yes" => .ok true
  | "false" | "0" | "no" | "" => .ok false
  | _ => .error (.invalid key raw .notBoolean)

/-- The defaults, overridden from `lookup` in the order host name, port, TLS, timeout,
password, clustering. An empty password counts as none. -/
def ofLookup (lookup : String → Option String) : Except ConfigError Settings := do
  let hostname := (lookup hostnameKey).getD defaults.hostname
  let port ← match lookup portKey with
    | none => pure defaults.port
    | some raw => parseNumber portKey raw Text.u16Bound
  let ssl ← match lookup sslKey with
    | none => pure defaults.ssl
    | some raw => parseFlag sslKey raw
  let timeoutMs ← match lookup timeoutKey with
    | none => pure defaults.timeoutMs
    | some raw => parseNumber timeoutKey raw Text.u64Bound
  let password := (lookup passwordKey).filter fun p => !p.isEmpty
  let clustered ← match lookup clusteredKey with
    | none => pure defaults.clustered
    | some raw => parseFlag clusteredKey raw
  return { hostname, port, ssl, timeoutMs, password, clustered }

/-- The written form, with the password replaced by `<redacted>` so that it never shows. -/
def redacted (s : Settings) : String :=
  "BackendSettings \x7b hostname: " ++ Text.quote s.hostname ++
    ", port: " ++ toString s.port ++
    ", ssl: " ++ toString s.ssl ++
    ", timeout_ms: " ++ toString s.timeoutMs ++
    ", password: " ++ (if s.password.isSome then "Some(\"<redacted>\")" else "None") ++
    ", clustered: " ++ toString s.clustered ++ " \x7d"

end Settings

/-- The parameters to open records of `kind` with `settings`: connection, the self-named
indexes, then the record kind's database and identifier field. -/
def Params.forKind (kind : RecordKind) (settings : Settings) : Params :=
  let p := Params.empty
  let p := (p.put Keys.hostname settings.hostname).2
  let p := (p.put Keys.port (toString settings.port)).2
  let p := (p.put Keys.ssl (toString settings.ssl)).2
  let p := (p.put Keys.timeout (toString settings.timeoutMs)).2
  let p := match settings.password with
    | some password => (p.put Keys.password password).2
    | none => p
  let p := if settings.clustered then (p.put Keys.clustered "true").2 else p
  let p := p.extend (Keys.indexNames.map fun name => (name, name))
  let p := (p.put Keys.dbName kind.databaseName).2
  (p.put Keys.idName kind.idName).2

end Cadence
