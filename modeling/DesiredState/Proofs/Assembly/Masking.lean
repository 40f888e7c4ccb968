import DesiredState.Proofs.Assembly.Shape

/-!
# Masked options

**Input.** Two configurations of one module, each of which is assembled in the
state that its own switches decide.

**Idea.** An option is masked when the values of others say that it does not
count: the weaker switches of the state below a stronger one, the version of an
absent module, the options of an integration that is off, those of a directory
without a source, and the template below a source pointer. Every declaration is
read off options that are not masked, and so is every contradiction.

**Results.**
* `fileContent_eq_givenContent`: a module that renders nothing asks neither the
  facts nor the renderer.
* `SameUnmasked.lifecycle_eq`, `SameUnmasked.assemble_eq`: the values of the
  options that are not masked decide the state and the graph.
* `toGraph_eq_of_unmasked`: together with their layers they decide the
  contradictions as well.
-/

namespace DesiredState
namespace Config

section Defs

/-- The value of an option. -/
def value? (config : Config) (option : OptionName) : Option Setting :=
  (config.entry? option).map Entry.value

/-- The option does not count for the module, whatever its value. -/
def isMasked (config : Config) : OptionName → Bool
  | .disable => config.isOn .absent
  | .disableAtBoot => config.isOn .absent || config.isOn .disable
  | .version => config.lifecycle = .absent
  | .monitorTool | .monitorTarget | .process => !config.isOn .monitor
  | .firewallTool | .firewallSrc | .firewallDst | .protocol | .port =>
      !config.isOn .firewall
  | .puppiHelper => !config.isOn .puppi
  | .configDir | .sourceDirPurge => (config.text? .sourceDir).isNone
  | .template => (config.text? .source).isSome
  | .options => true
  | _ => false

/-- No template is rendered: the file has a source pointer or inline content, or
there is no template. -/
def RendersNothing (config : Config) : Prop :=
  (config.text? .source).isSome ∨ (config.text? .content).isSome ∨
    (config.text? .template).isNone

instance (config : Config) : Decidable config.RendersNothing :=
  inferInstanceAs (Decidable (_ ∨ _ ∨ _))

/-- The content of the configuration file when no template is rendered. -/
def givenContent (config : Config) : Except Fault (Option FileContent) :=
  match config.contentConflict? with
  | some conflict => .error (.conflict conflict)
  | none =>
      match config.text? .source with
      | some pointer => .ok (some (.source pointer))
      | none => .ok ((config.text? .content).map .inline)

/-- Another configuration of the module has the same values for the options that
are not masked. -/
structure SameUnmasked (config other : Config) : Prop where
  module_eq : other.module = config.module
  value_eq : ∀ option, config.isMasked option = false →
    other.value? option = config.value? option

end Defs

section Values

variable {config other : Config} {option : OptionName}

/-- An option has the same value in two configurations if neither has an entry for it,
or if their entries have the same value. -/
theorem entries_of_value (h : other.value? option = config.value? option) :
    (other.entry? option = none ∧ config.entry? option = none) ∨
      ∃ entry held, other.entry? option = some entry ∧ config.entry? option = some held ∧
        entry.value = held.value := by
  unfold value? at h
  cases hheld : config.entry? option with
  | none =>
      rw [hheld, Option.map_none, Option.map_eq_none_iff] at h
      exact .inl ⟨h, rfl⟩
  | some held =>
      rw [hheld, Option.map_some, Option.map_eq_some_iff] at h
      obtain ⟨entry, hentry, hvalue⟩ := h
      exact .inr ⟨entry, held, hentry, rfl, hvalue⟩

theorem switch_of_value (h : other.value? option = config.value? option) :
    other.switch option = config.switch option := by
  unfold switch
  rcases entries_of_value h with ⟨hother, hconfig⟩ |
    ⟨⟨_, value, _⟩, ⟨_, _, _⟩, hother, hconfig, rfl⟩
  · rw [hother, hconfig]
  · rw [hother, hconfig]
    cases value <;> rfl

theorem text?_of_value (h : other.value? option = config.value? option) :
    other.text? option = config.text? option := by
  unfold text?
  rcases entries_of_value h with ⟨hother, hconfig⟩ |
    ⟨⟨_, value, _⟩, ⟨_, _, _⟩, hother, hconfig, rfl⟩
  · rw [hother, hconfig]
  · rw [hother, hconfig]
    cases value <;> rfl

theorem fileContent_eq_givenContent (h : config.RendersNothing) (facts : KeyMap RawValue)
    (renderer : Renderer) : config.fileContent facts renderer = config.givenContent := by
  unfold fileContent givenContent
  cases hconflict : config.contentConflict? with
  | some conflict => rfl
  | none =>
      cases hsource : config.text? .source with
      | some pointer => rfl
      | none =>
          cases htemplate : config.text? .template with
          | none => rfl
          | some template =>
              -- Content beside the template would be a contradiction.
              have hcontent : (config.text? .content).isSome := by
                simpa [RendersNothing, hsource, htemplate] using h
              obtain ⟨content, hcontent⟩ := Option.isSome_iff_exists.mp hcontent
              simp [contentConflict?, hsource, htemplate, hcontent] at hconflict

theorem toGraph_of_rendersNothing (h : config.RendersNothing) (state : Lifecycle)
    (facts facts' : KeyMap RawValue) (renderer renderer' : Renderer) :
    config.toGraph facts' renderer' state = config.toGraph facts renderer state := by
  rw [toGraph, toGraph, fileContent_eq_givenContent h, fileContent_eq_givenContent h]

end Values

namespace SameUnmasked

variable {config other : Config} (h : config.SameUnmasked other)
include h

section Options

variable (option : OptionName)

theorem switch_eq (hoption : config.isMasked option = false) :
    other.switch option = config.switch option :=
  switch_of_value (h.value_eq option hoption)

theorem isOn_eq (hoption : config.isMasked option = false) :
    other.isOn option = config.isOn option := by
  rw [isOn, isOn, h.switch_eq option hoption]

theorem text?_eq (hoption : config.isMasked option = false) :
    other.text? option = config.text? option :=
  text?_of_value (h.value_eq option hoption)

theorem text_eq (hoption : config.isMasked option = false) :
    other.text option = config.text option := by
  rw [text, text, h.text?_eq option hoption]

theorem textAttribute?_eq (hoption : config.isMasked option = false) :
    other.textAttribute? option = config.textAttribute? option := by
  rw [textAttribute?, textAttribute?, h.text?_eq option hoption]

theorem textAttribute_eq (hoption : config.isMasked option = false) :
    other.textAttribute option = config.textAttribute option := by
  rw [textAttribute, textAttribute, h.text_eq option hoption]

end Options

section Parts

/-- Of the switches only those that are not masked decide the state. -/
theorem lifecycle_eq : other.lifecycle = config.lifecycle := by
  have habsent : other.switch .absent = config.switch .absent := h.switch_eq .absent rfl
  unfold lifecycle Lifecycle.ofSwitches
  rw [habsent]
  by_cases hon : config.switch .absent = .on
  · rw [if_pos hon, if_pos hon]
  · rw [if_neg hon, if_neg hon]
    have hdisable : other.switch .disable = config.switch .disable :=
      h.switch_eq .disable (by simpa [isMasked, isOn] using hon)
    rw [hdisable]
    by_cases hstopped : config.switch .disable = .on
    · rw [if_pos hstopped, if_pos hstopped]
    · rw [if_neg hstopped, if_neg hstopped, h.switch_eq .disableAtBoot]
      simp [isMasked, isOn, hon, hstopped]

theorem packageEnsure_eq :
    config.lifecycle.packageEnsure (other.text .version) =
      config.lifecycle.packageEnsure (config.text .version) := by
  by_cases hstate : config.lifecycle = .absent
  · rw [hstate]
    rfl
  · rw [h.text_eq .version (by simpa [isMasked] using hstate)]

theorem packageDeclaration_eq :
    other.packageDeclaration config.lifecycle = config.packageDeclaration config.lifecycle := by
  rw [packageDeclaration, packageDeclaration, h.packageEnsure_eq, h.text_eq .package rfl]

theorem serviceRef_eq : other.serviceRef = config.serviceRef := by
  rw [serviceRef, serviceRef, h.text_eq .service rfl]

theorem serviceDeclaration_eq (state : Lifecycle) :
    other.serviceDeclaration state = config.serviceDeclaration state := by
  rw [serviceDeclaration, serviceDeclaration, h.serviceRef_eq]

theorem fileDeclaration_eq (id : String) (attributes : List (String × Option Attribute)) :
    other.fileDeclaration id attributes = config.fileDeclaration id attributes := by
  have hreplace : other.replaceAttributes = config.replaceAttributes := by
    rw [replaceAttributes, replaceAttributes, h.isOn_eq .auditOnly rfl]
  rw [fileDeclaration, fileDeclaration, hreplace, h.serviceRef_eq,
    h.switch_eq .serviceAutorestart rfl]

theorem configFileDeclaration_eq (state : Lifecycle) (content : Option FileContent) :
    other.configFileDeclaration state content = config.configFileDeclaration state content := by
  simp only [configFileDeclaration, h.module_eq, h.fileDeclaration_eq]
  rw [h.textAttribute_eq .configFile rfl, h.textAttribute_eq .configFileMode rfl,
    h.textAttribute_eq .configFileOwner rfl, h.textAttribute_eq .configFileGroup rfl]

theorem configDirDeclaration?_eq (state : Lifecycle) :
    other.configDirDeclaration? state = config.configDirDeclaration? state := by
  have hsource := h.textAttribute?_eq .sourceDir rfl
  unfold configDirDeclaration?
  rw [hsource]
  cases hset : config.text? .sourceDir with
  | none => simp [textAttribute?, hset]
  | some source =>
      have hunmasked : (config.text? .sourceDir).isNone = false := by rw [hset]; rfl
      simp only [h.module_eq, h.fileDeclaration_eq]
      rw [h.textAttribute_eq .configDir hunmasked,
        h.isOn_eq .sourceDirPurge hunmasked]

theorem monitorDeclaration?_eq (state : Lifecycle) :
    other.monitorDeclaration? state = config.monitorDeclaration? state := by
  unfold monitorDeclaration?
  rw [h.isOn_eq .monitor rfl]
  split
  · rename_i hon
    have hunmasked : (!config.isOn .monitor) = false := by simp [hon]
    rw [h.module_eq, h.textAttribute_eq .process hunmasked, h.textAttribute_eq .service rfl,
      h.textAttribute?_eq .monitorTarget hunmasked,
      h.textAttribute?_eq .monitorTool hunmasked]
  · rfl

theorem firewallDeclaration?_eq (state : Lifecycle) :
    other.firewallDeclaration? state = config.firewallDeclaration? state := by
  unfold firewallDeclaration? firewallId
  rw [h.isOn_eq .firewall rfl]
  split
  · rename_i hon
    have hunmasked : (!config.isOn .firewall) = false := by simp [hon]
    rw [h.text_eq .service rfl, h.text_eq .protocol hunmasked,
      h.text_eq .port hunmasked,
      h.textAttribute_eq .protocol hunmasked,
      h.textAttribute_eq .port hunmasked,
      h.textAttribute?_eq .firewallSrc hunmasked,
      h.textAttribute?_eq .firewallDst hunmasked,
      h.textAttribute?_eq .firewallTool hunmasked]
  · rfl

theorem integrationDeclaration?_eq (state : Lifecycle) :
    other.integrationDeclaration? state = config.integrationDeclaration? state := by
  unfold integrationDeclaration?
  rw [h.isOn_eq .puppi rfl]
  split
  · rename_i hon
    have hunmasked : (!config.isOn .puppi) = false := by simp [hon]
    rw [h.text_eq .service rfl, h.textAttribute?_eq .puppiHelper hunmasked]
  · rfl

theorem declarations_eq (content : Option FileContent) :
    other.declarations config.lifecycle content = config.declarations config.lifecycle content := by
  simp only [declarations, integrationDeclarations, h.packageDeclaration_eq,
    h.serviceDeclaration_eq, h.configFileDeclaration_eq, h.configDirDeclaration?_eq,
    h.monitorDeclaration?_eq, h.firewallDeclaration?_eq, h.integrationDeclaration?_eq]

/-- The options that are not masked decide the graph. -/
theorem assemble_eq (content : Option FileContent) :
    other.assemble config.lifecycle content = config.assemble config.lifecycle content := by
  unfold assemble
  rw [h.declarations_eq, h.module_eq, h.text?_eq .myClass rfl]

end Parts

end SameUnmasked

section Graphs

variable {config other : Config}

theorem rendersNothing_of_same (h : config.SameUnmasked other)
    (hrenders : config.RendersNothing) : other.RendersNothing := by
  unfold RendersNothing at *
  rw [h.text?_eq .source rfl, h.text?_eq .content rfl]
  cases hset : config.text? .source with
  | some pointer => exact .inl rfl
  | none =>
      rw [h.text?_eq .template (by simp [isMasked, hset])]
      rwa [hset] at hrenders

theorem versionConflict?_eq_none_of_same (h : config.SameUnmasked other)
    (hnone : config.versionConflict? config.lifecycle = none) :
    other.versionConflict? config.lifecycle = none := by
  rw [versionConflict?_eq_none_iff] at *
  intro hstate
  rw [h.text_eq .version (by simpa [isMasked] using hstate)]
  exact hnone hstate

theorem givenContent_of_same (h : config.SameUnmasked other) {content : Option FileContent}
    (hcontent : config.givenContent = .ok content) : other.givenContent = .ok content := by
  unfold givenContent at *
  have hsource : other.text? .source = config.text? .source := h.text?_eq .source rfl
  cases hconflict : config.contentConflict? with
  | some conflict =>
      rw [hconflict] at hcontent
      cases hcontent
  | none =>
      have hother : other.contentConflict? = none := by
        rw [contentConflict?_eq_none_iff] at *
        rw [h.text?_eq .content rfl, hsource]
        intro hset
        obtain ⟨hnone, htemplate⟩ := hconflict hset
        rw [h.text?_eq .template (by simp [isMasked, hnone])]
        exact ⟨hnone, htemplate⟩
      rw [hconflict] at hcontent
      rw [hother, hsource, h.text?_eq .content rfl]
      exact hcontent

/-- The values of the options that are not masked decide the graph of a module that
renders nothing; the layers matter for errors only. -/
theorem SameUnmasked.toGraph_eq_ok (h : config.SameUnmasked other)
    (hrenders : config.RendersNothing) {facts facts' : KeyMap RawValue}
    {renderer renderer' : Renderer} {graph : Graph}
    (hgraph : config.toGraph facts renderer config.lifecycle = .ok graph) :
    other.toGraph facts' renderer' other.lifecycle = .ok graph := by
  rw [toGraph_eq_ok_iff, fileContent_eq_givenContent hrenders] at hgraph
  obtain ⟨hversion, content, hcontent, rfl⟩ := hgraph
  rw [h.lifecycle_eq, toGraph_eq_ok_iff,
    fileContent_eq_givenContent (rendersNothing_of_same h hrenders)]
  exact ⟨versionConflict?_eq_none_of_same h hversion, content, givenContent_of_same h hcontent,
    (h.assemble_eq content).symm⟩

end Graphs

section Masking

variable {config other : Config}

theorem layerOf_of_entry {option : OptionName}
    (h : other.entry? option = config.entry? option) :
    other.layerOf option = config.layerOf option := by
  rw [layerOf, layerOf, layer?, layer?, h]

theorem versionConflict?_eq (h : config.SameUnmasked other)
    (hentry : config.isMasked .version = false →
      other.entry? .version = config.entry? .version) :
    other.versionConflict? config.lifecycle = config.versionConflict? config.lifecycle := by
  unfold versionConflict?
  by_cases hstate : config.lifecycle = .absent
  · rw [if_neg (by simp [hstate]), if_neg (by simp [hstate])]
  · have hunmasked : config.isMasked .version = false := by simpa [isMasked] using hstate
    rw [h.text_eq .version hunmasked, layerOf_of_entry (hentry hunmasked)]

theorem contentConflict?_eq (h : config.SameUnmasked other)
    (hentry : other.entry? .content = config.entry? .content) :
    other.contentConflict? = config.contentConflict? := by
  have hsource : other.text? .source = config.text? .source := h.text?_eq .source rfl
  unfold contentConflict?
  rw [h.text?_eq .content rfl, hsource, layerOf_of_entry hentry]
  cases hset : config.text? .source with
  | some pointer => simp
  | none => rw [h.text?_eq .template (by simp [isMasked, hset])]

theorem givenContent_eq (h : config.SameUnmasked other)
    (hentry : other.entry? .content = config.entry? .content) :
    other.givenContent = config.givenContent := by
  unfold givenContent
  rw [contentConflict?_eq h hentry, h.text?_eq .source rfl,
    h.text?_eq .content rfl]

/-- Configurations of one module with the same entries for every option that is not
masked are assembled alike, or contradict themselves alike, each in its own state
and whatever the facts and the renderer, where no template is rendered. -/
theorem toGraph_eq_of_unmasked (hmodule : other.module = config.module)
    (hentry : ∀ option, config.isMasked option = false →
      other.entry? option = config.entry? option)
    (hrenders : config.RendersNothing) (facts facts' : KeyMap RawValue)
    (renderer renderer' : Renderer) :
    other.toGraph facts' renderer' other.lifecycle =
      config.toGraph facts renderer config.lifecycle := by
  have hsame : config.SameUnmasked other := by
    refine ⟨hmodule, ?_⟩
    intro option hoption
    rw [value?, value?, hentry option hoption]
  unfold toGraph
  rw [hsame.lifecycle_eq, versionConflict?_eq hsame (hentry .version),
    fileContent_eq_givenContent (rendersNothing_of_same hsame hrenders),
    fileContent_eq_givenContent hrenders, givenContent_eq hsame (hentry .content rfl)]
  simp only [hsame.assemble_eq]

/-- A module that is removed, with nothing else said of it but its content. -/
def removed : Sources :=
  { module := "web"
    params := .ofList [("absent", .boolean true), ("source", .text "/srv/web.conf")]
    facts := .empty }

/-- The same module, with a value for options of every kind that is masked. -/
def removedMasked : Sources :=
  { module := "web"
    params := .ofList [("absent", .text "YES"), ("config_dir", .text "/srv/web"),
      ("disable", .boolean true), ("options", .mapping [("workers", .integer 4)]),
      ("port", .integer 8080), ("puppi_helper", .text "standard"),
      ("source", .text "/srv/web.conf"), ("template", .text "web.conf.erb"),
      ("version", .text "purged")]
    facts := .ofList [("ipaddress", .text "10.0.0.1"), ("monitor_tool", .text "nagios")] }

theorem toGraph_removed_unmasked :
    ∃ config other, removed.resolve = .ok config ∧ removedMasked.resolve = .ok other ∧
      config ≠ other ∧
      (config.toGraph removed.facts Renderer.none config.lifecycle).isOk = true ∧
      other.toGraph removedMasked.facts Renderer.none other.lifecycle =
        config.toGraph removed.facts Renderer.none config.lifecycle := by
  have htest : removed.resolve.toOption.any (fun config =>
      removedMasked.resolve.toOption.any fun other =>
        config ≠ other ∧
          (config.toGraph removed.facts Renderer.none config.lifecycle).isOk = true ∧
          other.module = config.module ∧ config.RendersNothing ∧
          ∀ option ∈ OptionName.all, config.isMasked option = false →
            other.entry? option = config.entry? option) = true := by
    decide +kernel
  obtain ⟨config, hconfig, htest⟩ := Sources.exists_of_resolve htest
  obtain ⟨other, hother, htest⟩ := Sources.exists_of_resolve htest
  obtain ⟨hne, hok, hmodule, hrenders, hentry⟩ := of_decide_eq_true htest
  refine ⟨config, other, hconfig, hother, hne, hok, ?_⟩
  exact toGraph_eq_of_unmasked hmodule
    (fun option => hentry option (OptionName.mem_all option)) hrenders _ _ _ _

end Masking

end Config
end DesiredState
