/-!
# Layers

**Type.** A value is looked up in four layers, from the parameter passed by the
user down to the default of the option. A layer has a label for tables, a name
for machine-readable reports and a phrase for messages.
-/

namespace DesiredState

/-- Where a value comes from, the strongest layer first. -/
inductive Layer where
  | passed
  | moduleScope
  | topScope
  | builtIn
deriving DecidableEq, Repr, Inhabited

namespace Layer

/-- The layers in order of precedence. -/
def all : List Layer :=
  [.passed, .moduleScope, .topScope, .builtIn]

/-- The short label. -/
def label : Layer → String
  | .passed => "passed"
  | .moduleScope => "module"
  | .topScope => "top"
  | .builtIn => "default"

/-- The name in machine-readable reports. -/
def name : Layer → String
  | .passed => "passed"
  | .moduleScope => "module_scope"
  | .topScope => "top_scope"
  | .builtIn => "default"

/-- The phrase in messages. -/
def phrase : Layer → String
  | .passed => "passed parameter"
  | .moduleScope => "module-scope variable"
  | .topScope => "top-scope variable"
  | .builtIn => "built-in default"

/-- The layer of a name. -/
def ofName? (name : String) : Option Layer :=
  all.find? fun layer => layer.name = name

end Layer
end DesiredState
