/-!
# Usage errors

**Type.** Why arguments do not make an invocation. A request for help or for the
version is one of these, since nothing is run then.
-/

namespace DesiredState

/-- Why arguments do not make an invocation. -/
inductive UsageError where
  | missingRequiredArgument
  | unknownArgument
  | invalidSubcommand
  | invalidValue
  | tooManyValues
  | valueValidation
  | argumentConflict
  | missingSubcommand
  | displayHelp
  | displayVersion
  | displayHelpOnMissing
deriving DecidableEq, Repr

/-- The name of the error. -/
def UsageError.name : UsageError → String
  | .missingRequiredArgument => "MissingRequiredArgument"
  | .unknownArgument => "UnknownArgument"
  | .invalidSubcommand => "InvalidSubcommand"
  | .invalidValue => "InvalidValue"
  | .tooManyValues => "TooManyValues"
  | .valueValidation => "ValueValidation"
  | .argumentConflict => "ArgumentConflict"
  | .missingSubcommand => "MissingSubcommand"
  | .displayHelp => "DisplayHelp"
  | .displayVersion => "DisplayVersion"
  | .displayHelpOnMissing => "DisplayHelpOnMissingArgumentOrSubcommand"

end DesiredState
