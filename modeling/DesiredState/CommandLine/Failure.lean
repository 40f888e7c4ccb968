import DesiredState.Input.Collection

/-!
# Failures of commands

**Type.** Why a command fails, with the message that it ends in.
-/

namespace DesiredState

/-- Why a command fails. -/
inductive CommandFailure where
  | input (cause : InputFailure)
  | noInputs
  | noPool (cause : PoolFailure)
  | nodesFailed (failed total : Nat)
  | notResolved (path : Path)
  | notCompiled (path : Path)
deriving DecidableEq, Repr

/-- The failure in words. -/
def CommandFailure.message : CommandFailure → String
  | .input cause => cause.message
  | .noInputs => "No node inputs found"
  | .noPool cause => cause.message
  | .nodesFailed failed total =>
      toString failed ++ " of " ++ toString total ++ " node(s) failed to compile"
  | .notResolved path => "Failed to resolve " ++ path.text
  | .notCompiled path => "Failed to compile " ++ path.text

end DesiredState
