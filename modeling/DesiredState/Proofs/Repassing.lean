import DesiredState.Proofs.Assembly.Masking
import DesiredState.Proofs.Compilation.Difference
import DesiredState.Proofs.Entries

/-!
# Passing a configuration again

**Input.** The sources of a module that resolve to a configuration. Every option of
it is passed again as a parameter, with the raw value that stands for its setting;
an option whose text is unset is not passed.

**Idea.** An option that is passed is read as itself. One that is not passed has no
value at any layer, or only blank ones, and its default is nothing or a fact; so no
layer can supply it when the facts stay or some of them, or all, are gone.

**Results.**
* `get?_repassed`: the parameters that are passed again.
* `entry_again_of_set`, `entry_again_of_unset`: the entries they lead to.
* `resolve_again`: they resolve to the same settings.
* `compile_again`: without a template they lead to the same graph.
* `resolve_repassed`: the configuration and the graph come out again.
-/

namespace DesiredState

section Defs

/-- The parameters that pass every option of a configuration again. -/
def Config.repassed (config : Config) : KeyMap RawValue :=
  .ofList (config.entries.filterMap fun entry =>
    entry.value.toRaw?.map fun raw => (entry.option.name, raw))

/-- The entry of an option that is passed again, if it is set. -/
def Entry.again (entry : Entry) : Entry :=
  if entry.value.toRaw?.isSome then { entry with layer := .passed } else entry

/-- The configuration of a module whose options are passed again. -/
def Config.again (config : Config) : Config :=
  { config with entries := config.entries.map Entry.again }

/-- A module that is passed a configuration again, with facts of its own. -/
def Sources.repass (sources : Sources) (config : Config) (facts : KeyMap RawValue) :
    Sources :=
  { module := sources.module, params := config.repassed, facts := facts }

/-- The facts are some of the module's own, or all of them, or none. -/
def Sources.HasFacts (sources : Sources) (facts : KeyMap RawValue) : Prop :=
  ∀ name, facts.get? name = none ∨ facts.get? name = sources.facts.get? name

end Defs

theorem Sources.hasFacts_facts (sources : Sources) : sources.HasFacts sources.facts :=
  fun _ => .inr rfl

theorem Sources.hasFacts_empty (sources : Sources) : sources.HasFacts .empty :=
  fun name => .inl (KeyMap.get?_empty name)

namespace Entry

@[simp] theorem option_again (entry : Entry) : entry.again.option = entry.option := by
  unfold again
  split <;> rfl

@[simp] theorem value_again (entry : Entry) : entry.again.value = entry.value := by
  unfold again
  split <;> rfl

end Entry

namespace Config

variable {config : Config}

theorem value?_again (option : OptionName) :
    config.again.value? option = config.value? option := by
  unfold value? entry? again
  rw [List.find?_map, Option.map_map]
  have hoption : (fun entry : Entry => decide (entry.option = option)) ∘ Entry.again =
      fun entry => decide (entry.option = option) := by
    funext entry
    simp
  rw [hoption]
  congr 1
  funext entry
  simp

theorem sameUnmasked_again : config.SameUnmasked config.again where
  module_eq := rfl
  value_eq option _ := value?_again option

end Config

namespace Sources

variable {sources : Sources} {config : Config} {facts : KeyMap RawValue} {entry : Entry}

section Parameters

/-- An option is passed what stands for its setting. -/
theorem get?_repassed (h : sources.resolve = .ok config) (hmem : entry ∈ config.entries) :
    config.repassed.get? entry.option.name = entry.value.toRaw? :=
  get?_ofList_entries Setting.toRaw? h hmem

end Parameters

section Entries

/-- Only an option whose text is unset is not passed again. -/
theorem toRaw?_eq_none_iff_of_entry {option : OptionName}
    (h : sources.entry option = .ok entry) :
    entry.value.toRaw? = none ↔ entry.value = .text none := by
  rw [Setting.toRaw?_eq_none_iff]
  constructor
  · rintro (hswitch | htext)
    · exact absurd hswitch (value_ne_unset_switch h)
    · exact htext
  · exact .inr

/-- An option that is set is passed, and read as it was. -/
theorem entry_again_of_set (h : sources.resolve = .ok config) (hmem : entry ∈ config.entries)
    {raw : RawValue} (hraw : entry.value.toRaw? = some raw) :
    (sources.repass config facts).entry entry.option = .ok { entry with layer := .passed } := by
  have hnormal := isNormal_of_entry ((mem_entries_iff h entry).mp hmem)
  have hchoices := entry.option.hasPlainChoices
  have hheld : (sources.repass config facts).held entry.option .passed = entry.value.toRaw? :=
    get?_repassed h hmem
  rw [entry_eq_ok_iff]
  refine ⟨rfl, ⟨.inr ⟨raw, hheld.trans hraw, ?_⟩, ?_⟩, ?_⟩
  · exact isBlank_of_toRaw? hchoices hnormal hraw
  · intro higher hlt
    exact absurd hlt (Nat.not_lt_zero _)
  · rw [hheld]
    exact normalize_toRaw? hchoices hnormal

/-- Below the parameters every layer holds what it held, or nothing. -/
theorem held_repass (config : Config) (hfacts : sources.HasFacts facts) (option : OptionName)
    (layer : Layer) (hlayer : layer ≠ .passed) :
    (sources.repass config facts).held option layer = none ∨
      (sources.repass config facts).held option layer = sources.held option layer := by
  cases layer with
  | passed => exact absurd rfl hlayer
  | moduleScope => exact hfacts _
  | topScope => exact hfacts _
  | builtIn =>
      simp only [held]
      cases option.spec.default with
      | unset | switch | text => exact .inr rfl
      | fact name => exact hfacts name

/-- An option that is unset is not passed, and no layer below supplies it. -/
theorem entry_again_of_unset (h : sources.resolve = .ok config)
    (hfacts : sources.HasFacts facts) (hmem : entry ∈ config.entries)
    (hraw : entry.value.toRaw? = none) :
    (sources.repass config facts).entry entry.option = .ok entry := by
  have hentry := (mem_entries_iff h entry).mp hmem
  obtain ⟨_, hwins, hnormal⟩ := (sources.entry_eq_ok_iff _ _).mp hentry
  have hvalue : entry.value = .text none := (toRaw?_eq_none_iff_of_entry hentry).mp hraw
  have hpassed : (sources.repass config facts).held entry.option .passed = none :=
    (get?_repassed h hmem).trans hraw
  have hdefault : entry.layer = .builtIn := layer_of_unset hentry hvalue
  rw [entry_eq_ok_iff, hdefault]
  refine ⟨rfl, ⟨.inl rfl, ?_⟩, ?_⟩
  · rintro higher hlt ⟨value, hheld, hblank⟩
    by_cases hhigher : higher = .passed
    · rw [hhigher, hpassed] at hheld
      cases hheld
    · rcases held_repass config hfacts entry.option higher hhigher with hnone | hsame
      · rw [hnone] at hheld
        cases hheld
      · rw [hsame] at hheld
        exact hwins.first higher (hdefault ▸ hlt) ⟨value, hheld, hblank⟩
  · rw [hdefault, hvalue] at hnormal
    rw [hvalue]
    rcases held_repass config hfacts entry.option .builtIn (by decide) with hnone | hsame
    · rw [hnone]
      exact normalize_none_of_unset hnormal
    · rw [hsame]
      exact hnormal

theorem entry_again (h : sources.resolve = .ok config) (hfacts : sources.HasFacts facts)
    (hmem : entry ∈ config.entries) :
    (sources.repass config facts).entry entry.option = .ok entry.again := by
  unfold Entry.again
  cases hraw : entry.value.toRaw? with
  | none => exact entry_again_of_unset h hfacts hmem hraw
  | some raw => exact entry_again_of_set h hmem hraw

end Entries

section Again

/-- The options that are passed again resolve to the settings that they had. -/
theorem resolve_again (h : sources.resolve = .ok config) (hfacts : sources.HasFacts facts) :
    (sources.repass config facts).resolve = .ok config.again := by
  obtain ⟨hmodule, hall⟩ := (sources.resolve_eq_ok_iff config).mp h
  rw [resolve_eq_ok_iff]
  refine ⟨hmodule, ?_⟩
  rw [Config.again, List.forall₂_map_right_iff]
  refine hall.imp ?_
  intro option entry hentry
  have hoption := ((sources.entry_eq_ok_iff _ _).mp hentry).1
  have hmem : entry ∈ config.entries := by
    rw [mem_entries_iff h, hoption]
    exact hentry
  rw [← hoption]
  exact entry_again h hfacts hmem

/-- Without a template to render, the options that are passed again lead to the
graph that they led to. -/
theorem compile_again {renderer renderer' : Renderer} {compiled : Compiled}
    (hcompile : sources.compile renderer = .ok compiled)
    (hrenders : compiled.config.RendersNothing) (hfacts : sources.HasFacts facts) :
    ∃ recompiled, (sources.repass compiled.config facts).compile renderer' = .ok recompiled ∧
      recompiled.graph = compiled.graph := by
  obtain ⟨hresolve, hstate, hgraph⟩ := (sources.compile_eq_ok_iff renderer compiled).mp hcompile
  rw [hstate] at hgraph
  refine ⟨⟨compiled.config.again, compiled.config.again.lifecycle, compiled.graph⟩, ?_, rfl⟩
  rw [compile_eq_ok_iff]
  exact ⟨resolve_again hresolve hfacts, rfl,
    Config.sameUnmasked_again.toGraph_eq_ok hrenders hgraph⟩

/-- The settings of a module, passed again as raw values, resolve to themselves,
whether its facts stay or not: each option is passed, unless its text is unset. A
module that renders no template has the same graph again. -/
theorem resolve_repassed (h : sources.resolve = .ok config)
    (hfacts : sources.HasFacts facts) :
    ∃ again, (sources.repass config facts).resolve = .ok again ∧
      (∀ option, ∃ value,
        config.value? option = some value ∧ again.value? option = some value ∧
        config.repassed.get? option.name = value.toRaw? ∧
        (value = .text none ∨ value.toRaw?.isSome ∧ again.layer? option = some .passed)) ∧
      (config.RendersNothing →
        ∀ (renderer renderer' : Renderer) (compiled : Compiled),
          sources.compile renderer = .ok compiled →
          ∃ recompiled, (sources.repass config facts).compile renderer' = .ok recompiled ∧
            recompiled.graph = compiled.graph) := by
  refine ⟨config.again, resolve_again h hfacts, ?_, ?_⟩
  · intro option
    obtain ⟨entry, hentry⟩ := exists_entry h option
    have hoption := ((sources.entry_eq_ok_iff _ _).mp hentry).1
    subst hoption
    have hvalue : config.value? entry.option = some entry.value := by
      rw [Config.value?, (entry?_eq_some_iff h _ _).mpr hentry]
      rfl
    refine ⟨entry.value, hvalue, (Config.value?_again _).trans hvalue,
      get?_repassed h ((mem_entries_iff h entry).mpr hentry), ?_⟩
    cases hraw : entry.value.toRaw? with
    | none => exact .inl ((toRaw?_eq_none_iff_of_entry hentry).mp hraw)
    | some raw =>
        have hagain := entry_again h hfacts ((mem_entries_iff h entry).mpr hentry)
        refine .inr ⟨rfl, ?_⟩
        rw [Config.layer?, (entry?_eq_some_iff (resolve_again h hfacts) _ _).mpr hagain,
          Entry.again, hraw]
        rfl
  · intro hrenders renderer renderer' compiled hcompile
    obtain ⟨hresolve, _⟩ := (sources.compile_eq_ok_iff renderer compiled).mp hcompile
    rw [h] at hresolve
    cases hresolve
    exact compile_again hcompile hrenders hfacts

/-- A module with settings of every kind from every layer. -/
def assorted : Sources :=
  { module := "web"
    params := .ofList [("options", .mapping [("workers", .integer 4)]), ("port", .integer 8080),
      ("protocol", .text "UDP")]
    facts := .ofList [("firewall", .boolean true), ("ipaddress", .text "10.0.0.1"),
      ("web_monitor", .text "yes")] }

theorem resolve_assorted_repassed :
    ∃ compiled kept alone, assorted.compile Renderer.none = .ok compiled ∧
      compiled.config.text? .firewallDst = some "10.0.0.1" ∧
      (assorted.repass compiled.config assorted.facts).compile Renderer.none = .ok kept ∧
      (assorted.repass compiled.config .empty).compile Renderer.none = .ok alone ∧
      kept.graph = compiled.graph ∧ alone.graph = compiled.graph := by
  have htest : (assorted.compile Renderer.none).toOption.any (fun compiled =>
      compiled.config.text? .firewallDst = some "10.0.0.1" ∧
        compiled.config.RendersNothing) = true := by
    decide +kernel
  cases hcompile : assorted.compile Renderer.none with
  | error fault =>
      rw [hcompile] at htest
      cases htest
  | ok compiled =>
      rw [hcompile] at htest
      obtain ⟨htarget, hrenders⟩ := of_decide_eq_true htest
      obtain ⟨hresolve, _⟩ := (assorted.compile_eq_ok_iff _ compiled).mp hcompile
      obtain ⟨_, _, _, hkept⟩ := resolve_repassed hresolve assorted.hasFacts_facts
      obtain ⟨_, _, _, halone⟩ := resolve_repassed hresolve assorted.hasFacts_empty
      obtain ⟨kept, hkept, hkeptGraph⟩ := hkept hrenders _ Renderer.none _ hcompile
      obtain ⟨alone, halone, haloneGraph⟩ := halone hrenders _ Renderer.none _ hcompile
      exact ⟨compiled, kept, alone, rfl, htarget, hkept, halone, hkeptGraph, haloneGraph⟩

end Again

end Sources
end DesiredState
