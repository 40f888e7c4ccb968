import DesiredState.Config

/-!
# Faults

**Types.** The compilation of a module can end in one of three ways: the value
of an option is invalid, two options contradict each other, or a template cannot
be rendered. A fault holds its cause; category, message and advice are functions
of it.
-/

namespace DesiredState

/-- Two options that contradict each other. -/
inductive Conflict where
  /-- The version removes the package while the module is not absent. -/
  | versionRemoves (layer : Layer) (version : String) (state : Lifecycle)
  /-- The content of the file is given inline and by another option. -/
  | secondOrigin (layer : Layer) (other : OptionName)
deriving DecidableEq, Repr

namespace Conflict

/-- The option to blame. -/
def option : Conflict → OptionName
  | .versionRemoves _ _ _ => .version
  | .secondOrigin _ _ => .content

/-- The option that it contradicts. -/
def other : Conflict → OptionName
  | .versionRemoves _ _ _ => .absent
  | .secondOrigin _ other => other

/-- The layer of the option to blame. -/
def layer : Conflict → Layer
  | .versionRemoves layer _ _ => layer
  | .secondOrigin layer _ => layer

/-- Why the two contradict each other. -/
def reason : Conflict → String
  | .versionRemoves _ version state =>
      "version '" ++ Text.trim version ++
        "' removes the package while the service is " ++ state.name
  | .secondOrigin _ _ => "file content has a single origin"

end Conflict

/-- Why a template cannot be rendered. A renderer may also report a failure of its own
in words. -/
inductive RenderFailure where
  | noRenderer
  | notInStore
  | notFound (roots : List String)
  | notText (path : String)
  | undefinedVariable (name : String)
  | reported (message : String)
deriving DecidableEq, Repr

/-- The failure in words. -/
def RenderFailure.message : RenderFailure → String
  | .noRenderer => "no template renderer configured"
  | .notInStore => "not in store"
  | .notFound roots =>
      "template not found (searched: " ++ String.intercalate ", " roots ++ ")"
  | .notText path => path ++ ": stream did not contain valid UTF-8"
  | .undefinedVariable name => "undefined variable '" ++ name ++ "'"
  | .reported message => message

/-- Why a module does not compile. -/
inductive Fault where
  | invalid (cause : InvalidValue)
  | conflict (cause : Conflict)
  | unrendered (template : String) (cause : RenderFailure)
deriving DecidableEq, Repr

namespace Fault

/-- The name of the kind of fault. -/
def name : Fault → String
  | .invalid _ => "InvalidValue"
  | .conflict _ => "InconsistentState"
  | .unrendered _ _ => "Render"

/-- The kind of fault in words. -/
def category : Fault → String
  | .invalid _ => "Invalid option value"
  | .conflict _ => "Conflicting options"
  | .unrendered _ _ => "Template rendering failed"

/-- What to do about it. -/
def advice : Fault → String
  | .invalid _ =>
      "Fix the value at the reported layer; flags accept true/false/yes/no"
  | .conflict _ => "Set only one of the conflicting options"
  | .unrendered _ _ => "Check that the template exists and is readable"

/-- The fault in one sentence. -/
def message : Fault → String
  | .invalid cause =>
      "invalid value for '" ++ cause.option ++ "' from " ++ cause.layer.phrase ++
        ": expected " ++ cause.rejection.expected ++ ", got " ++
        cause.rejection.found
  | .conflict cause =>
      "'" ++ cause.option.name ++ "' (" ++ cause.layer.phrase ++
        ") conflicts with '" ++ cause.other.name ++ "': " ++ cause.reason
  | .unrendered template cause =>
      "template '" ++ template ++ "' failed to render: " ++ cause.message

/-- The option to blame. -/
def option : Fault → String
  | .invalid cause => cause.option
  | .conflict cause => cause.option.name
  | .unrendered _ _ => OptionName.template.name

/-- The layer to blame. -/
def layer? : Fault → Option Layer
  | .invalid cause => some cause.layer
  | .conflict cause => some cause.layer
  | .unrendered _ _ => none

end Fault
end DesiredState
