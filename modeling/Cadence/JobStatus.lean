import Cadence.Vocabulary
/-!
# Job statuses

A job is created, running, stopped, in error, or a zombie. Each status has a lowercase
display name, matched without regard to ASCII case, and an uppercase stored token, matched
exactly.
-/

namespace Cadence

/-- The state a job is in. -/
inductive JobStatus where
  | created | running | error | stopped | zombie
  deriving DecidableEq, Repr

namespace JobStatus

/-- Every status, in declaration order. -/
def all : List JobStatus := [created, running, error, stopped, zombie]

/-- The lowercase display name. -/
def displayName : JobStatus → String
  | created => "created"
  | running => "running"
  | error => "error"
  | stopped => "stopped"
  | zombie => "zombie"

/-- The uppercase token a status is stored as: the display name in ASCII capitals. -/
def storedToken : JobStatus → String
  | created => "CREATED"
  | running => "RUNNING"
  | error => "ERROR"
  | stopped => "STOPPED"
  | zombie => "ZOMBIE"

/-- Statuses by their display names. -/
def displayNames : Vocabulary JobStatus where
  all := all
  name := displayName
  mem_all s := by cases s <;> decide
  name_injective a b := by cases a <;> cases b <;> decide

/-- Statuses by their stored tokens. -/
def storedTokens : Vocabulary JobStatus where
  all := all
  name := storedToken
  mem_all s := by cases s <;> decide
  name_injective a b := by cases a <;> cases b <;> decide

/-- The status whose display name equals `text` up to ASCII case. -/
def ofName? (text : String) : Option JobStatus := displayNames.findIgnoringCase text

/-- Decodes a name that may be absent; absence is no error. -/
def ofOptionalName? (text : Option String) : Option JobStatus := text.bind ofName?

/-- The status stored as exactly `text`. -/
def ofStoredToken? (text : String) : Option JobStatus := storedTokens.findExact text

/-- Decodes a display name, refusing one that matches no status. -/
def parse (text : String) : Except UnknownToken JobStatus := displayNames.parse "job status" text

end JobStatus

end Cadence
