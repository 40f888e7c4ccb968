import DesiredState.Template.Placeholder

/-!
# Renderers

**Type.** A renderer turns the name of a template into its text, with the
placeholders replaced, or into a fault.
-/

namespace DesiredState

/-- The text of a template under some variables, or why there is none. -/
abbrev Renderer := String → Variables → Except Fault String

namespace Renderer

/-- There are no templates. -/
def none : Renderer :=
  fun template _ => .error (.unrendered template .noRenderer)

/-- The templates are kept by name. -/
def ofStore (store : KeyMap String) : Renderer :=
  fun template vars =>
    match store.get? template with
    | .none => .error (.unrendered template .notInStore)
    | .some source => Template.substitute template source vars

end Renderer
end DesiredState
