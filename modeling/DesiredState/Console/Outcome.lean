import DesiredState.Log

/-!
# Outcomes

**Type.** A command prints texts and leaves records in the log, in some order, and
then succeeds or fails for a reason.

**Views.** What was printed, what was printed as an error, and the records that a
log at a level keeps.
-/

namespace DesiredState
namespace Console

universe u

/-- Something that a command lets the user see. -/
inductive Emission where
  | print (text : String)
  | complain (text : String)
  | record (record : Log.Record)
deriving DecidableEq, Repr

namespace Emission

/-- The text that is printed. -/
def printed : Emission → String
  | .print text => text
  | _ => ""

/-- The text that is printed as an error. -/
def complaint : Emission → String
  | .complain text => text
  | _ => ""

/-- The record that is left in the log. -/
def record? : Emission → Option Log.Record
  | .record entry => some entry
  | _ => none

end Emission

/-- What a command lets the user see, and why it fails if it does. -/
structure Outcome (ε : Type u) where
  emissions : List Emission
  failure : Option ε
deriving Repr

namespace Outcome

variable {ε : Type u}

/-- The outcome of a success. -/
def succeed (emissions : List Emission) : Outcome ε :=
  ⟨emissions, none⟩

/-- The outcome of a failure. -/
def fail (emissions : List Emission) (failure : ε) : Outcome ε :=
  ⟨emissions, some failure⟩

/-- The outcome with some emissions before its own. -/
def after (emissions : List Emission) (outcome : Outcome ε) : Outcome ε :=
  { outcome with emissions := emissions ++ outcome.emissions }

/-- All that is printed. -/
def printed (outcome : Outcome ε) : String :=
  String.join (outcome.emissions.map Emission.printed)

/-- All that is printed as errors. -/
def complaints (outcome : Outcome ε) : String :=
  String.join (outcome.emissions.map Emission.complaint)

/-- The records that a log at a level keeps. -/
def log (outcome : Outcome ε) (level : Log.Level) : List Log.Record :=
  (outcome.emissions.filterMap Emission.record?).filter fun record =>
    record.isKeptAt level

/-- The exit status. -/
def status (outcome : Outcome ε) : Nat :=
  if outcome.failure.isSome then 1 else 0

theorem after_after (first second : List Emission) (outcome : Outcome ε) :
    after first (after second outcome) = after (first ++ second) outcome := by
  rw [after, after, after, List.append_assoc]

end Outcome

end Console
end DesiredState
