import DesiredState.KeyMap
import DesiredState.Text.Search

/-!
# Template variables

**Type.** A template can name the node, an additional class, the facts, the
settings, and the free options.

**Rule.** Two names stand for themselves, a name after `options.` or `facts.` is
looked up there, and any other name first among the settings and then among the
facts.
-/

namespace DesiredState

/-- What the placeholders of a template stand for. -/
structure Variables where
  fqdn : String
  additionalClass : Option String
  facts : KeyMap String
  settings : KeyMap String
  options : KeyMap String
deriving DecidableEq

namespace Variables

/-- The value of a name. -/
def lookup? (vars : Variables) (name : String) : Option String :=
  if name = "fqdn" then some vars.fqdn
  else if name = "my_class" then vars.additionalClass
  else
    match Text.after? name "options." with
    | some key => vars.options.get? key
    | none =>
        match Text.after? name "facts." with
        | some key => vars.facts.get? key
        | none => (vars.settings.get? name).or (vars.facts.get? name)

end Variables
end DesiredState
