import DesiredState.Compilation
import DesiredState.Proofs.Assembly.Demand
import DesiredState.Proofs.Assembly.Masking
import DesiredState.Proofs.Graph.Changes
import DesiredState.Proofs.Precedence

/-!
# When a module is refused

**Input.** A configuration, the facts of the node, a renderer, and the state of the
module.

**Idea.** Three things stand in the way of a graph, in this order: a version that
removes the package of a module which is not absent, content that is given inline and
by another option as well, and a template that is not rendered. Where none of them
does, the configuration file carries what the strongest of its origins says.

**Results.**
* `versionConflict?_eq_some_iff`, `contentConflict?_eq_some_iff`: the contradictions.
* `carries_configFile`: the attributes that hold the content of the file.
* `toGraph_eq_error_iff_refused`: the faults of a module.
* `Contradicts.refused`: what the fault of a contradiction names.
* `toGraph_decided`: what becomes of every configuration.
-/

namespace DesiredState

/-- Two words ask for the removal of a package. -/
theorem Ensure.ofVersion_eq_absent_iff (version : String) :
    ofVersion version = .absent ↔
      Text.trim version = "absent" ∨ Text.trim version = "purged" := by
  unfold ofVersion
  dsimp only
  split
  · rename_i hpresent
    simp only [Bool.or_eq_true, decide_eq_true_eq] at hpresent
    rcases hpresent with (hword | hword) | hword <;> simp [hword]
  · split
    · rename_i hremoved
      simpa using hremoved
    · rename_i hkept
      simpa using hkept

/-- The file carries its content under the attribute of its origin and under no other
one. -/
def Declaration.Carries (file : Declaration) : Option FileContent → Prop
  | none => file.attributes.get? "source" = none ∧ file.attributes.get? "content" = none
  | some (.source pointer) =>
      file.attributes.get? "source" = some (.text pointer) ∧
        file.attributes.get? "content" = none
  | some (.inline text) =>
      file.attributes.get? "source" = none ∧
        file.attributes.get? "content" = some (.text text)

namespace Config

section Defs

variable (config : Config) (facts : KeyMap RawValue) (renderer : Renderer) (state : Lifecycle)

/-- The version asks for the removal of the package, though the module is not absent. -/
def RemovesPackage : Prop :=
  state ≠ .absent ∧
    (Text.trim (config.text .version) = "absent" ∨ Text.trim (config.text .version) = "purged")

/-- Why a module is refused. Of several reasons the first one counts. -/
inductive Refused : Fault → Prop
  /-- The version contradicts the state. -/
  | version (h : config.RemovesPackage state) :
      Refused (.conflict
        (.versionRemoves (config.layerOf .version) (config.text .version) state))
  /-- The content is given inline and by a source pointer. -/
  | pointed (hversion : ¬ config.RemovesPackage state)
      (hcontent : (config.text? .content).isSome) (hsource : (config.text? .source).isSome) :
      Refused (.conflict (.secondOrigin (config.layerOf .content) .source))
  /-- The content is given inline and by a template. -/
  | templated (hversion : ¬ config.RemovesPackage state)
      (hcontent : (config.text? .content).isSome) (hsource : config.text? .source = none)
      (htemplate : (config.text? .template).isSome) :
      Refused (.conflict (.secondOrigin (config.layerOf .content) .template))
  /-- The template is not rendered. -/
  | unrendered {template : String} {fault : Fault} (hversion : ¬ config.RemovesPackage state)
      (hcontent : config.text? .content = none) (hsource : config.text? .source = none)
      (htemplate : config.text? .template = some template)
      (hfault : renderer template (config.templateVariables facts) = .error fault) :
      Refused fault

/-- The first option cannot be honoured because of the second one. -/
inductive Contradicts : OptionName → OptionName → Prop
  /-- The version removes a package that is to stay. -/
  | version (h : config.RemovesPackage state) : Contradicts .version .absent
  /-- Inline content stands beside a source pointer, and perhaps a template. -/
  | pointed (hversion : ¬ config.RemovesPackage state)
      (hcontent : (config.text? .content).isSome) (hsource : (config.text? .source).isSome) :
      Contradicts .content .source
  /-- Inline content stands beside a template alone. -/
  | templated (hversion : ¬ config.RemovesPackage state)
      (hcontent : (config.text? .content).isSome) (hsource : config.text? .source = none)
      (htemplate : (config.text? .template).isSome) : Contradicts .content .template

/-- What the configuration file of a module that is not refused carries. -/
inductive Originates : Option FileContent → Prop
  /-- A source pointer goes before a template. -/
  | pointer {pointer : String} (hsource : config.text? .source = some pointer) :
      Originates (some (.source pointer))
  /-- A template is rendered. -/
  | rendered {template text : String} (hsource : config.text? .source = none)
      (htemplate : config.text? .template = some template)
      (htext : renderer template (config.templateVariables facts) = .ok text) :
      Originates (some (.inline text))
  /-- Inline content is taken as it is. -/
  | given {text : String} (hsource : config.text? .source = none)
      (htemplate : config.text? .template = none) (hcontent : config.text? .content = some text) :
      Originates (some (.inline text))
  /-- The file is left without content. -/
  | missing (hsource : config.text? .source = none) (htemplate : config.text? .template = none)
      (hcontent : config.text? .content = none) :
      Originates none

end Defs

section Contradictions

variable {config : Config} {state : Lifecycle}

theorem removesPackage_iff :
    config.RemovesPackage state ↔
      state ≠ .absent ∧ Ensure.ofVersion (config.text .version) = .absent := by
  rw [RemovesPackage, Ensure.ofVersion_eq_absent_iff]

theorem versionConflict?_eq_some_iff (conflict : Conflict) :
    config.versionConflict? state = some conflict ↔
      config.RemovesPackage state ∧
        conflict = .versionRemoves (config.layerOf .version) (config.text .version) state := by
  rw [removesPackage_iff, versionConflict?]
  split
  · rename_i hremoves
    simp [hremoves, eq_comm]
  · rename_i hkept
    simp [hkept]

theorem not_removesPackage_iff :
    ¬ config.RemovesPackage state ↔ config.versionConflict? state = none := by
  rw [removesPackage_iff, versionConflict?_eq_none_iff, not_and]

theorem contentConflict?_eq_some_iff (conflict : Conflict) :
    config.contentConflict? = some conflict ↔
      (config.text? .content).isSome ∧
        ((config.text? .source).isSome ∧
            conflict = .secondOrigin (config.layerOf .content) .source ∨
          config.text? .source = none ∧ (config.text? .template).isSome ∧
            conflict = .secondOrigin (config.layerOf .content) .template) := by
  unfold contentConflict?
  cases config.text? .content <;> cases config.text? .source <;>
    cases config.text? .template <;> simp [eq_comm]

end Contradictions

section Faults

variable {config : Config} {facts : KeyMap RawValue} {renderer : Renderer} {state : Lifecycle}

/-- A module has no graph exactly for the reasons why it is refused. -/
theorem toGraph_eq_error_iff_refused (fault : Fault) :
    config.toGraph facts renderer state = .error fault ↔
      config.Refused facts renderer state fault := by
  rw [toGraph_eq_error_iff, fileContent_eq_error_iff]
  constructor
  · rintro (⟨conflict, hconflict, rfl⟩ | ⟨hnone, hcontent⟩)
    · obtain ⟨hremoves, rfl⟩ := (versionConflict?_eq_some_iff conflict).mp hconflict
      exact .version hremoves
    · have hversion := not_removesPackage_iff.mpr hnone
      rcases hcontent with ⟨conflict, hconflict, rfl⟩ |
        ⟨hsingle, hsource, template, htemplate, hfault⟩
      · rcases (contentConflict?_eq_some_iff conflict).mp hconflict with
          ⟨hset, ⟨hsource, rfl⟩ | ⟨hsource, htemplate, rfl⟩⟩
        · exact .pointed hversion hset hsource
        · exact .templated hversion hset hsource htemplate
      · -- Content beside the template would be a contradiction.
        have hcontent : config.text? .content = none := by
          by_contra hset
          have hnone := (config.contentConflict?_eq_none_iff.mp hsingle
            (Option.isSome_iff_ne_none.mpr hset)).2
          rw [htemplate] at hnone
          cases hnone
        exact .unrendered hversion hcontent hsource htemplate hfault
  · intro hrefused
    cases hrefused with
    | version hremoves =>
        exact .inl ⟨_, (versionConflict?_eq_some_iff _).mpr ⟨hremoves, rfl⟩, rfl⟩
    | pointed hversion hset hsource =>
        refine .inr ⟨not_removesPackage_iff.mp hversion, .inl ⟨_, ?_, rfl⟩⟩
        exact (contentConflict?_eq_some_iff _).mpr ⟨hset, .inl ⟨hsource, rfl⟩⟩
    | templated hversion hset hsource htemplate =>
        refine .inr ⟨not_removesPackage_iff.mp hversion, .inl ⟨_, ?_, rfl⟩⟩
        exact (contentConflict?_eq_some_iff _).mpr ⟨hset, .inr ⟨hsource, htemplate, rfl⟩⟩
    | unrendered hversion hcontent hsource htemplate hfault =>
        have hsingle : config.contentConflict? = none := by
          rw [contentConflict?_eq_none_iff, hcontent]
          intro hset
          cases hset
        exact .inr ⟨not_removesPackage_iff.mp hversion,
          .inr ⟨hsingle, hsource, _, htemplate, hfault⟩⟩

/-- A contradiction names both options, and the layer of the one to blame. -/
theorem Contradicts.refused {option other : OptionName}
    (h : config.Contradicts state option other) :
    ∃ conflict : Conflict, config.Refused facts renderer state (.conflict conflict) ∧
      conflict.option = option ∧ conflict.other = other ∧
      conflict.layer = config.layerOf option := by
  cases h with
  | version hremoves => exact ⟨_, .version hremoves, rfl, rfl, rfl⟩
  | pointed hversion hcontent hsource =>
      exact ⟨_, .pointed hversion hcontent hsource, rfl, rfl, rfl⟩
  | templated hversion hcontent hsource htemplate =>
      exact ⟨_, .templated hversion hcontent hsource htemplate, rfl, rfl, rfl⟩

theorem originates_of_fileContent {content : Option FileContent}
    (h : config.fileContent facts renderer = .ok content) :
    config.Originates facts renderer content := by
  unfold fileContent at h
  split at h
  · cases h
  · split at h
    · rename_i pointer hsource
      cases h
      exact .pointer hsource
    · rename_i template hsource htemplate
      split at h
      · rename_i text htext
        cases h
        exact .rendered hsource htemplate htext
      · cases h
    · rename_i hsource htemplate
      cases h
      cases hcontent : config.text? .content with
      | none => exact .missing hsource htemplate hcontent
      | some text => exact .given hsource htemplate hcontent

end Faults

section Files

variable (config : Config) (state : Lifecycle) (content : Option FileContent)

/-- The configuration file carries its content. -/
theorem carries_configFile : (config.configFileDeclaration state content).Carries content := by
  have hkey : ∀ key, key ≠ "replace" → key ≠ "audit" → key ∉ ["ensure", "path", "mode", "owner",
      "group"] → (config.configFileDeclaration state content).attributes.get? key =
        (Declaration.ofAttributes ⟨.file, config.module ++ ".conf"⟩
          (contentAttributes content)).attributes.get? key := by
    intro key hreplace haudit hother
    rw [configFileDeclaration, get?_fileDeclaration _ _ _ hreplace haudit,
      Declaration.get?_ofAttributes_append]
    simp only [List.mem_cons, List.not_mem_nil, or_false, not_or] at hother
    simp [hother]
  have hsource := hkey "source" (by decide) (by decide) (by decide)
  have hcontent := hkey "content" (by decide) (by decide) (by decide)
  rcases content with _ | (pointer | text) <;>
    simp [Declaration.Carries, hsource, hcontent, contentAttributes]

theorem get?_configFile :
    (config.assemble state content).get? ⟨.file, config.module ++ ".conf"⟩ =
      some (config.configFileDeclaration state content) := by
  rw [Graph.get?_eq_some_iff, resources_assemble, mem_declarations_iff]
  exact ⟨.inr (.inr (.inl rfl)), rfl⟩

end Files

section Decision

/-- A module is refused for the first of the reasons that stand in its way, and with no
reason it has a graph. A contradiction is refused with the names of its two options and
the layer of the first. The configuration file of a graph carries what the strongest of
its origins says, and nothing under the attribute of another; a source pointer makes the
renderer irrelevant. The layers that contradictions are blamed on are those that won. -/
theorem toGraph_decided (config : Config) (facts : KeyMap RawValue) (renderer : Renderer)
    (state : Lifecycle) :
    (∀ fault, config.toGraph facts renderer state = .error fault ↔
      config.Refused facts renderer state fault) ∧
    (∀ option other, config.Contradicts state option other →
      ∃ conflict, config.toGraph facts renderer state = .error (.conflict conflict) ∧
        conflict.option = option ∧ conflict.other = other ∧
        conflict.layer = config.layerOf option) ∧
    ((∃ graph, config.toGraph facts renderer state = .ok graph) ↔
      ∀ fault, ¬ config.Refused facts renderer state fault) ∧
    (∀ graph, config.toGraph facts renderer state = .ok graph →
      ∃ file content, graph.get? ⟨.file, config.module ++ ".conf"⟩ = some file ∧
        config.Originates facts renderer content ∧ file.Carries content) ∧
    ((config.text? .source).isSome → ∀ other : Renderer,
      config.toGraph facts other state = config.toGraph facts renderer state) ∧
    (∀ sources : Sources, sources.resolve = .ok config → ∀ option,
      sources.Wins option (config.layerOf option)) := by
  refine ⟨toGraph_eq_error_iff_refused, ?_, ?_, ?_, ?_, fun _ => Sources.layerOf_wins⟩
  · intro option other h
    obtain ⟨conflict, hrefused, hnames⟩ := h.refused
    exact ⟨conflict, (toGraph_eq_error_iff_refused _).mpr hrefused, hnames⟩
  · simp only [← toGraph_eq_error_iff_refused]
    cases config.toGraph facts renderer state <;> simp
  · intro graph hgraph
    obtain ⟨_, content, hcontent, rfl⟩ :=
      (config.toGraph_eq_ok_iff state facts renderer graph).mp hgraph
    exact ⟨_, content, config.get?_configFile state content, originates_of_fileContent hcontent,
      config.carries_configFile state content⟩
  · intro hsource other
    exact toGraph_of_rendersNothing (.inl hsource) state facts facts renderer other

/-- A version that removes the package is refused before the content is looked at. -/
example :
    ((⟨"nginx", .ofList [("version", .text " purged "), ("content", .text "a"),
        ("source", .text "b")], .ofList [("nginx_version", .text "1.0")]⟩ : Sources).compile
      Renderer.none).map Compiled.state =
        .error (.conflict (.versionRemoves .passed " purged " .installed)) := by
  decide +kernel

end Decision

end Config
end DesiredState
