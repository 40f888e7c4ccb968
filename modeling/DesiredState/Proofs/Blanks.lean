import DesiredState.Compilation
import DesiredState.Proofs.Assembly.Masking
import DesiredState.Proofs.Precedence

/-!
# Blank values

**Input.** The sources of a module, from which every parameter and every fact is
deleted whose value is a blank text.

**Idea.** A layer with a blank value is passed over like one without a value.
Only a default that copies a fact takes the blank one up; but such defaults belong
to text options, for which a blank text counts as missing.

**Results.**
* `lookup_withoutBlanks`: the look-up ends at the same layer.
* `entry_withoutBlanks`: every option has the same entry or the same error.
* `resolve_compile_withoutBlanks`: the configuration is the same, and so is the
  compiled module where no template is rendered.
-/

namespace DesiredState

namespace RawValue

/-- For a text a blank value counts as a missing one. -/
theorem toText_filter_isBlank (raw : Option RawValue) :
    toText (raw.filter fun value => !value.isBlank) = toText raw := by
  cases raw with
  | none => rfl
  | some value =>
      cases hblank : value.isBlank with
      | true => simp [Option.filter, toText, hblank]
      | false => simp [Option.filter, hblank]

end RawValue

namespace Sources

section Defs

/-- The values that are not blank. -/
def dropBlanks (values : KeyMap RawValue) : KeyMap RawValue :=
  values.filter fun _ raw => !raw.isBlank

/-- The sources without their blank parameters and facts. -/
def withoutBlanks (sources : Sources) : Sources :=
  { module := sources.module
    params := dropBlanks sources.params
    facts := dropBlanks sources.facts }

end Defs

section Compile

variable {sources other : Sources}

/-- Modules of one configuration compile alike when no template is rendered,
whatever their facts. -/
theorem compile_of_resolve (hresolve : other.resolve = sources.resolve)
    (hrenders : ∀ config, sources.resolve = .ok config → config.RendersNothing)
    (renderer renderer' : Renderer) :
    other.compile renderer' = sources.compile renderer := by
  unfold compile Sources.config
  rw [hresolve]
  cases hconfig : sources.resolve with
  | error invalid => rfl
  | ok config =>
      dsimp only
      rw [Config.toGraph_of_rendersNothing (hrenders config hconfig) config.lifecycle
        sources.facts other.facts renderer renderer']

end Compile

section Blanks

variable (sources : Sources) (option : OptionName)

theorem present?_dropBlanks (values : KeyMap RawValue) (name : String) :
    present? (dropBlanks values) name = present? values name := by
  rw [present?, present?, dropBlanks, KeyMap.get?_filter, Option.filter_filter]
  simp

theorem normalize_default_dropBlanks (module : String) (facts : KeyMap RawValue) :
    option.kind.normalize (option.spec.default.toRaw? module (dropBlanks facts)) =
      option.kind.normalize (option.spec.default.toRaw? module facts) := by
  cases hdefault : option.spec.default with
  | unset | switch | text => rfl
  | fact name =>
      rw [OptionName.kind_of_default_fact hdefault]
      simp only [OptionDefault.toRaw?, OptionKind.normalize, dropBlanks, KeyMap.get?_filter,
        RawValue.toText_filter_isBlank]

/-- The look-up ends at the same layer, with a value of the same normal form. -/
theorem lookup_withoutBlanks :
    (sources.withoutBlanks.lookup option).layer = (sources.lookup option).layer ∧
      option.kind.normalize (sources.withoutBlanks.lookup option).raw =
        option.kind.normalize (sources.lookup option).raw := by
  unfold lookup withoutBlanks
  simp only [present?_dropBlanks]
  split
  · exact ⟨rfl, rfl⟩
  · split
    · exact ⟨rfl, rfl⟩
    · split
      · exact ⟨rfl, rfl⟩
      · exact ⟨rfl, normalize_default_dropBlanks option sources.module sources.facts⟩

theorem entry_withoutBlanks : sources.withoutBlanks.entry option = sources.entry option :=
  entry_of_lookup (sources.lookup_withoutBlanks option).1 (sources.lookup_withoutBlanks option).2

/-- Without its blank parameters and facts a module resolves to the same
configuration, or ends at the same error, and it compiles to the same when no
template is rendered. -/
theorem resolve_compile_withoutBlanks :
    sources.withoutBlanks.resolve = sources.resolve ∧
    (∀ option, sources.withoutBlanks.entry option = sources.entry option) ∧
    ((∀ config, sources.resolve = .ok config → config.RendersNothing) →
      ∀ renderer, sources.withoutBlanks.compile renderer = sources.compile renderer) := by
  have hresolve : sources.withoutBlanks.resolve = sources.resolve :=
    resolve_of_entry rfl sources.entry_withoutBlanks
  refine ⟨hresolve, sources.entry_withoutBlanks, ?_⟩
  intro hrenders renderer
  exact compile_of_resolve hresolve hrenders renderer renderer

/-- A module with blanks at every layer, one of them in the fact that defaults
copy. -/
def blanked : Sources :=
  { module := "web"
    params := .ofList [("content", .text "listen 80"), ("monitor", .text " \t"),
      ("template", .text "")]
    facts := .ofList [("ipaddress", .text "\u2003"), ("monitor", .boolean true),
      ("port", .text " "), ("web_monitor", .text "\n")] }

theorem resolve_compile_blanked :
    blanked.withoutBlanks.params.size = 1 ∧ blanked.withoutBlanks.facts.size = 1 ∧
      (blanked.compile Renderer.none).isOk = true ∧
      blanked.withoutBlanks.compile Renderer.none = blanked.compile Renderer.none := by
  have htest : blanked.resolve.toOption.any (fun config => config.RendersNothing) = true := by
    decide +kernel
  obtain ⟨config, hconfig, hrenders⟩ := exists_of_resolve htest
  refine ⟨by decide +kernel, by decide +kernel, by decide +kernel, ?_⟩
  refine (resolve_compile_withoutBlanks blanked).2.2 ?_ Renderer.none
  intro resolved hresolved
  rw [hconfig] at hresolved
  cases hresolved
  exact of_decide_eq_true hrenders

end Blanks

end Sources
end DesiredState
