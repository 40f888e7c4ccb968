/-!
# Log records

**Type.** A record has a level, the part of the program that it comes from, and a
message.

**Rule.** A log that is kept at a level keeps the records of that level and of the
graver ones.
-/

namespace DesiredState
namespace Log

/-- How grave a record is, the gravest level first. -/
inductive Level where
  | error
  | warn
  | info
  | debug
  | trace
deriving DecidableEq, Repr, Inhabited

namespace Level

/-- The position of a level, counted from the gravest one. -/
def rank : Level → Nat
  | .error => 0
  | .warn => 1
  | .info => 2
  | .debug => 3
  | .trace => 4

/-- The name of a level. -/
def name : Level → String
  | .error => "ERROR"
  | .warn => "WARN"
  | .info => "INFO"
  | .debug => "DEBUG"
  | .trace => "TRACE"

/-- The level of a log by how often more detail is asked for; a quiet one keeps
errors only. -/
def ofVerbosity (quiet : Bool) (verbosity : Nat) : Level :=
  if quiet then .error
  else
    match verbosity with
    | 0 => .warn
    | 1 => .info
    | 2 => .debug
    | _ => .trace

end Level

/-- An entry of a log. -/
structure Record where
  level : Level
  source : String
  message : String
deriving DecidableEq, Repr, Inhabited

namespace Record

/-- The record on one line. -/
def text (record : Record) : String :=
  record.level.name ++ " " ++ record.source ++ " " ++ record.message

/-- A log at a level keeps the record. -/
def isKeptAt (record : Record) (level : Level) : Bool :=
  record.level.rank ≤ level.rank

end Record

end Log
end DesiredState
