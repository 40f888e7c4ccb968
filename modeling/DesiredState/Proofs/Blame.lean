import DesiredState.Compilation
import DesiredState.Proofs.Assembly.Shape
import DesiredState.Proofs.Entries
import DesiredState.Proofs.Template.Substitution
import DesiredState.Template.SearchPath

/-!
# What faults blame

**Input.** The sources of a module and a renderer, with which the module does not
compile.

**Idea.** An invalid value is blamed on the layer that won, and a contradiction on
the layer that the version or the content comes from. A default is a value of its
option's kind, it removes no package, and there is none for the content; so the
layer that is blamed is one that the user fills. Only a default that copies a fact
is as the fact is: where the fact is a list or a mapping, its value is rejected, and
the default is blamed in place of the fact.

**Results.**
* `normalize_default_eq_error_iff`: the defaults whose value is rejected.
* `Config.toGraph_error_cases`, `compile_error_cases`: the ways in which a
  compilation fails.
* `blamesInput_of_conflict`: a contradiction is blamed on what the user supplied.
* `compile_blames`: so is every fault that is not the renderer's, copied facts
  apart.
* `compile_listed_address`: a copied fact for which the default is blamed.
-/

namespace DesiredState

section Defaults

/-- The value of a default is rejected only if it is the copy of a fact that has no
text. -/
theorem normalize_default_eq_error_iff (option : OptionName) (module : String)
    (facts : KeyMap RawValue) :
    (∃ rejection,
      option.kind.normalize (option.spec.default.toRaw? module facts) = .error rejection) ↔
      ∃ name value, option.spec.default = .fact name ∧ facts.get? name = some value ∧
        value.scalar? = none := by
  cases hdefault : option.spec.default with
  | unset =>
      cases option.kind <;> simp [OptionDefault.toRaw?, OptionKind.normalize,
        RawValue.toSwitch, RawValue.toText, RawValue.toChoice, RawValue.toMapping, Except.map]
  | switch value =>
      simp [OptionName.kind_of_default_switch hdefault, OptionDefault.toRaw?,
        OptionKind.normalize, RawValue.toSwitch, Except.map]
  | text pieces =>
      rcases OptionName.kind_of_default_text hdefault with hkind | ⟨hkind, rfl⟩
      · simp only [hkind, OptionDefault.toRaw?, OptionKind.normalize]
        rw [Except.exists_error_map_iff, RawValue.toText_eq_error_iff]
        simp [RawValue.scalar?]
      · have hok : (OptionKind.choice OptionName.protocols).normalize
            (some (.text (OptionDefault.join module [.literal "tcp"]))) =
              .ok (.text (some "tcp")) := by
          simp only [OptionDefault.join, List.map_cons, List.map_nil]
          decide +kernel
        simp [hkind, OptionDefault.toRaw?, hok]
  | fact name =>
      simp only [OptionName.kind_of_default_fact hdefault, OptionDefault.toRaw?,
        OptionKind.normalize]
      rw [Except.exists_error_map_iff, RawValue.toText_eq_error_iff]
      simp

end Defaults

section Defs

/-- No layer above the default supplies the option. -/
def Sources.Unsupplied (sources : Sources) (option : OptionName) : Prop :=
  ∀ layer : Layer, layer ≠ .builtIn → ¬ sources.Supplies option layer

/-- The option is left to its default, which copies a fact that has no text. -/
def Sources.CopiesNoText (sources : Sources) (option : OptionName) : Prop :=
  sources.Unsupplied option ∧ ∃ name value, option.spec.default = .fact name ∧
    sources.facts.get? name = some value ∧ value.scalar? = none

/-- The fault is about an option and a layer above the default, and that layer
supplies a value for the option. -/
def Fault.BlamesInput (fault : Fault) (sources : Sources) : Prop :=
  ∃ option layer, fault.option = option.name ∧ fault.layer? = some layer ∧
    layer ≠ .builtIn ∧ sources.Supplies option layer

/-- The fault is the renderer's, which is given the template of the configuration. -/
def Fault.IsRenderers (fault : Fault) (sources : Sources) (renderer : Renderer) : Prop :=
  ∃ config template, sources.resolve = .ok config ∧
    config.renderedTemplate? = some template ∧
    renderer template (config.templateVariables sources.facts) = .error fault

end Defs

section Rendering

/-- The faults of a renderer are about the templates that it is given. -/
def Renderer.BlamesTemplates (renderer : Renderer) : Prop :=
  ∀ template vars fault, renderer template vars = .error fault →
    ∃ cause, fault = .unrendered template cause

theorem Template.unrendered_of_substitute {template source : String} {vars : Variables}
    {fault : Fault} (h : substitute template source vars = .error fault) :
    ∃ cause, fault = .unrendered template cause := by
  rw [substitute_eq] at h
  split at h
  · cases h
  · cases h
    exact ⟨_, rfl⟩

theorem SearchPath.blamesTemplates_renderer (disk : Disk) (search : SearchPath) :
    (search.renderer disk).BlamesTemplates := by
  intro template vars fault h
  unfold SearchPath.renderer at h
  split at h
  · cases h
    exact ⟨_, rfl⟩
  · split at h
    · cases h
      exact ⟨_, rfl⟩
    · exact Template.unrendered_of_substitute h

/-- A configuration has no graph when its version or its content contradicts other
options, or when its template is not rendered. -/
theorem Config.toGraph_error_cases {config : Config} {facts : KeyMap RawValue}
    {renderer : Renderer} {state : Lifecycle} {fault : Fault}
    (h : config.toGraph facts renderer state = .error fault) :
    (∃ conflict, fault = .conflict conflict ∧
      (config.versionConflict? state = some conflict ∨
        config.contentConflict? = some conflict)) ∨
    ∃ template, config.renderedTemplate? = some template ∧
      renderer template (config.templateVariables facts) = .error fault := by
  rcases (config.toGraph_eq_error_iff state facts renderer fault).mp h with
    ⟨conflict, hconflict, rfl⟩ | ⟨_, hcontent⟩
  · exact .inl ⟨conflict, rfl, .inl hconflict⟩
  · rcases (config.fileContent_eq_error_iff facts renderer fault).mp hcontent with
      ⟨conflict, hconflict, rfl⟩ | ⟨_, hsource, template, htemplate, hrendered⟩
    · exact .inl ⟨conflict, rfl, .inr hconflict⟩
    · exact .inr ⟨template, (renderedTemplate?_of_source_none hsource).trans htemplate, hrendered⟩

end Rendering

namespace Sources

variable {sources : Sources} {renderer : Renderer} {option : OptionName} {fault : Fault}

section Entries

theorem unsupplied_iff : sources.Unsupplied option ↔ sources.Wins option .builtIn := by
  constructor
  · intro h
    refine ⟨.inl rfl, ?_⟩
    intro higher hlt
    refine h higher ?_
    rintro rfl
    exact Nat.lt_irrefl _ hlt
  · intro h layer hne
    refine h.first layer ?_
    cases layer with
    | passed | moduleScope | topScope => decide
    | builtIn => exact absurd rfl hne

/-- The winner supplies the option, unless it is the default. -/
theorem Wins.supplies_of_ne {layer : Layer} (h : sources.Wins option layer)
    (hne : layer ≠ .builtIn) : sources.Supplies option layer :=
  h.supplies.resolve_left hne

/-- An option that is left to its default is rejected only for the fact that it
copies. -/
theorem exists_entry_error_iff (h : sources.Unsupplied option) :
    (∃ invalid, sources.entry option = .error invalid) ↔ sources.CopiesNoText option := by
  have hwins := unsupplied_iff.mp h
  have hdefault := normalize_default_eq_error_iff option sources.module sources.facts
  constructor
  · rintro ⟨invalid, hinvalid⟩
    obtain ⟨_, hlayer, hnormal⟩ := (entry_eq_error_iff invalid).mp hinvalid
    rw [hlayer.unique hwins] at hnormal
    exact ⟨h, hdefault.mp ⟨_, hnormal⟩⟩
  · rintro ⟨_, hfact⟩
    obtain ⟨rejection, hnormal⟩ := hdefault.mpr hfact
    exact ⟨⟨option.name, .builtIn, rejection⟩, (entry_eq_error_iff _).mpr ⟨rfl, hwins, hnormal⟩⟩

/-- Resolution fails at one of the options. -/
theorem entry_of_resolve_error {invalid : InvalidValue}
    (h : sources.resolve = .error invalid) :
    ∃ option, sources.entry option = .error invalid := by
  have hentries := (resolve_eq_error_iff invalid).mp h
  obtain ⟨_, option, _, _, _, hoption⟩ := (sources.entries_eq_error_iff _ _).mp hentries
  exact ⟨option, hoption⟩

end Entries

section Conflicts

variable {config : Config}

/-- The text of an option is read from the layer that won. -/
theorem text?_of_wins (h : sources.resolve = .ok config) {value : Option String}
    (hwins : sources.Wins option .builtIn)
    (hnormal : option.kind.normalize (sources.held option .builtIn) = .ok (.text value)) :
    config.text? option = value :=
  text?_of_entry h ((sources.entry_eq_ok_iff option ⟨option, .text value, .builtIn⟩).mpr
    ⟨rfl, hwins, hnormal⟩) rfl

/-- A version that is left to its default does not remove the package. -/
theorem supplies_version (h : sources.resolve = .ok config)
    (hversion : Ensure.ofVersion (config.text .version) = .absent) :
    config.layerOf .version ≠ .builtIn ∧
      sources.Supplies .version (config.layerOf .version) := by
  have hwins := layerOf_wins h .version
  have hne : config.layerOf .version ≠ .builtIn := by
    intro hdefault
    have hpresent : OptionName.version.kind.normalize (sources.held .version .builtIn) =
        .ok (.text (some "present")) := by
      simp only [held, OptionName.spec, OptionDefault.toRaw?, OptionDefault.join, List.map_cons,
        List.map_nil]
      decide +kernel
    rw [hdefault] at hwins
    rw [Config.text, text?_of_wins h hwins hpresent] at hversion
    exact absurd hversion (by decide +kernel)
  exact ⟨hne, hwins.supplies_of_ne hne⟩

/-- There is no default for the content. -/
theorem supplies_content (h : sources.resolve = .ok config)
    (hcontent : (config.text? .content).isSome) :
    config.layerOf .content ≠ .builtIn ∧
      sources.Supplies .content (config.layerOf .content) := by
  have hwins := layerOf_wins h .content
  have hne : config.layerOf .content ≠ .builtIn := by
    intro hdefault
    rw [hdefault] at hwins
    rw [text?_of_wins h hwins rfl] at hcontent
    cases hcontent
  exact ⟨hne, hwins.supplies_of_ne hne⟩

/-- A contradiction is blamed on a value that the user supplied. -/
theorem blamesInput_of_conflict (h : sources.resolve = .ok config) {state : Lifecycle}
    {conflict : Conflict}
    (hconflict : config.versionConflict? state = some conflict ∨
      config.contentConflict? = some conflict) :
    (Fault.conflict conflict).BlamesInput sources := by
  rcases hconflict with hversion | hcontent
  · unfold Config.versionConflict? at hversion
    split at hversion
    · rename_i hremoves
      cases hversion
      exact ⟨.version, _, rfl, rfl, supplies_version h hremoves.2⟩
    · cases hversion
  · have hset : (config.text? .content).isSome := by
      by_contra hnone
      rw [Config.contentConflict?, if_pos (by simpa using hnone)] at hcontent
      cases hcontent
    have hblamed : conflict.option = .content ∧ conflict.layer = config.layerOf .content := by
      unfold Config.contentConflict? at hcontent
      repeat' split at hcontent
      all_goals cases hcontent
      all_goals exact ⟨rfl, rfl⟩
    refine ⟨.content, config.layerOf .content, ?_, ?_, supplies_content h hset⟩
    · rw [Fault.option, hblamed.1]
    · rw [Fault.layer?, hblamed.2]

end Conflicts

section Compile

/-- A compilation fails at a rejected value, or without a graph. -/
theorem compile_error_cases (h : sources.compile renderer = .error fault) :
    (∃ option invalid, sources.entry option = .error invalid ∧ fault = .invalid invalid) ∨
    ∃ config, sources.resolve = .ok config ∧
      config.toGraph sources.facts renderer config.lifecycle = .error fault := by
  unfold compile Sources.config at h
  cases hresolve : sources.resolve with
  | error invalid =>
      rw [hresolve] at h
      cases h
      obtain ⟨option, hoption⟩ := entry_of_resolve_error hresolve
      exact .inl ⟨option, invalid, hoption, rfl⟩
  | ok config =>
      rw [hresolve] at h
      dsimp only at h
      split at h
      · rename_i found hfound
        cases h
        exact .inr ⟨config, rfl, hfound⟩
      · cases h

theorem exists_compile_error {invalid : InvalidValue}
    (h : sources.entry option = .error invalid) :
    ∃ fault, sources.compile renderer = .error fault := by
  unfold compile Sources.config
  cases hresolve : sources.resolve with
  | error other => exact ⟨_, rfl⟩
  | ok config =>
      obtain ⟨entry, hentry⟩ := exists_entry hresolve option
      rw [h] at hentry
      cases hentry

/-- A fault that is not the renderer's is blamed on a layer above the default which
supplies a value for the option, except for an option that is left to its default and
copies a fact without a text. Such an option makes every compilation fail, and no
other option that is left to its default is rejected. The renderer of a search path
blames its templates. -/
theorem compile_blames (sources : Sources) (renderer : Renderer) :
    (∀ fault, sources.compile renderer = .error fault →
      fault.IsRenderers sources renderer ∨ fault.BlamesInput sources ∨
        ∃ option rejection, fault = .invalid ⟨option.name, .builtIn, rejection⟩ ∧
          sources.CopiesNoText option) ∧
    (∀ option, sources.Unsupplied option →
      ((∃ invalid, sources.entry option = .error invalid) ↔ sources.CopiesNoText option)) ∧
    (∀ option, sources.CopiesNoText option →
      ∃ fault, sources.compile renderer = .error fault) ∧
    (∀ disk (search : SearchPath), (search.renderer disk).BlamesTemplates) := by
  refine ⟨?_, fun option => exists_entry_error_iff, ?_, SearchPath.blamesTemplates_renderer⟩
  · intro fault hfault
    rcases compile_error_cases hfault with ⟨option, invalid, hinvalid, rfl⟩ |
      ⟨config, hresolve, hgraph⟩
    · obtain ⟨hname, hwins, hnormal⟩ := (entry_eq_error_iff invalid).mp hinvalid
      by_cases hdefault : invalid.layer = .builtIn
      · rw [hdefault] at hwins
        refine .inr (.inr ⟨option, invalid.rejection, ?_, ?_⟩)
        · rw [← hname, ← hdefault]
        · exact (exists_entry_error_iff (unsupplied_iff.mpr hwins)).mp ⟨invalid, hinvalid⟩
      · exact .inr (.inl
          ⟨option, invalid.layer, hname, rfl, hdefault, hwins.supplies_of_ne hdefault⟩)
    · rcases Config.toGraph_error_cases hgraph with ⟨conflict, rfl, hconflict⟩ |
        ⟨template, htemplate, hrendered⟩
      · exact .inr (.inl (blamesInput_of_conflict hresolve hconflict))
      · exact .inl ⟨config, template, hresolve, htemplate, hrendered⟩
  · rintro option hcopies
    obtain ⟨invalid, hinvalid⟩ := (exists_entry_error_iff hcopies.1).mpr hcopies
    exact exists_compile_error hinvalid

/-- A module of a node that lists its addresses. -/
def listed : Sources :=
  { module := "nginx"
    params := .empty
    facts := .ofList [("ipaddress", .list [.text "10.0.0.1"])] }

/-- Nothing is supplied for the target of the monitor, which is not even switched on,
and yet its default is blamed for the fact that it copies. -/
theorem compile_listed_address :
    listed.compile Renderer.none =
        .error (.invalid ⟨"monitor_target", .builtIn, .notText "list [list of 1]"⟩) ∧
      listed.Unsupplied .monitorTarget ∧
      ¬ (Fault.invalid ⟨"monitor_target", .builtIn, .notText "list [list of 1]"⟩).BlamesInput
        listed := by
  refine ⟨by decide +kernel, ?_, ?_⟩
  · rw [unsupplied_iff, wins_iff]
    decide +kernel
  · rintro ⟨option, layer, _, hlayer, hne, _⟩
    exact hne (Option.some.inj hlayer).symm

end Compile

end Sources

end DesiredState
