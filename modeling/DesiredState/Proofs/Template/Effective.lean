import DesiredState.Proofs.Assembly.Shape
import DesiredState.Proofs.Entries

/-!
# Options in templates

**Input.** A resolved module, and the variables that its templates are rendered
with.

**Idea.** No option has one of the reserved names or prefixes, but for `my_class`,
which is looked up as itself. Every other option is found among the settings when
its value has a text. When it has none, the look-up goes on to the fact of the same
name; that fact is one the resolution passed over, because it would have been the
value, or rejected, otherwise.

**Results.**
* `lookup?_name`: the look-up of an option's name.
* `get?_scalars`: the settings hold the texts of the options that have one.
* `lookup?_option_name`: what an option's name stands for in a template.
* `lookup?_shadowed`: facts that stand for options in spite of their values.
-/

namespace DesiredState

/-- The text of the fact with an option's name, where a template can reach it. -/
def Sources.bareText? (sources : Sources) (option : OptionName) : Option String :=
  if option = .myClass then none
  else (sources.facts.get? option.name).bind RawValue.scalar?

section Names

namespace OptionName

theorem name_ne_fqdn (option : OptionName) : option.name ≠ "fqdn" := by
  cases option <;> decide

theorem name_eq_my_class_iff (option : OptionName) :
    option.name = "my_class" ↔ option = .myClass := by
  cases option <;> decide

theorem after?_name_options (option : OptionName) : Text.after? option.name "options." = none := by
  cases option <;> decide

theorem after?_name_facts (option : OptionName) : Text.after? option.name "facts." = none := by
  cases option <;> decide

end OptionName

/-- An option is looked up as the additional class, or among the settings and then
among the facts. -/
theorem Variables.lookup?_name (vars : Variables) (option : OptionName) :
    vars.lookup? option.name =
      if option = .myClass then vars.additionalClass
      else (vars.settings.get? option.name).or (vars.facts.get? option.name) := by
  rw [lookup?, if_neg option.name_ne_fqdn, option.after?_name_options, option.after?_name_facts]
  simp only [OptionName.name_eq_my_class_iff]

end Names

namespace Sources

variable {sources : Sources} {config : Config} {entry : Entry} {option : OptionName}

section Settings

/-- The settings hold the texts of the options that have one. -/
theorem get?_scalars (h : sources.resolve = .ok config) (hmem : entry ∈ config.entries) :
    config.scalars.get? entry.option.name = entry.value.scalar? :=
  get?_ofList_entries Setting.scalar? h hmem

/-- The additional class is the text of its option. -/
theorem text?_myClass (h : sources.resolve = .ok config)
    (hentry : sources.entry .myClass = .ok entry) :
    config.text? .myClass = entry.value.scalar? := by
  have hnormal := isNormal_of_entry hentry
  cases hvalue : entry.value with
  | text value => exact text?_of_entry h hentry hvalue
  | switch | mapping =>
      rw [hvalue] at hnormal
      exact hnormal.elim

/-- A name stands for the text of its option, and for the fact where there is none. -/
theorem lookup?_of_entry (h : sources.resolve = .ok config)
    (hentry : sources.entry option = .ok entry) :
    (config.templateVariables sources.facts).lookup? option.name =
      entry.value.scalar?.or (sources.bareText? option) := by
  have hoption := ((sources.entry_eq_ok_iff _ _).mp hentry).1
  subst hoption
  rw [Variables.lookup?_name, bareText?]
  by_cases hclass : entry.option = .myClass
  · rw [hclass] at hentry
    rw [if_pos hclass, if_pos hclass, Option.or_none]
    exact text?_myClass h hentry
  · rw [if_neg hclass, if_neg hclass, Config.templateVariables,
      get?_scalars h ((mem_entries_iff h entry).mpr hentry), KeyMap.get?_filterMap]

end Settings

section Facts

theorem bareText?_eq_some {word : String} (h : sources.bareText? option = some word) :
    option ≠ .myClass ∧
      ∃ raw, sources.held option .topScope = some raw ∧ raw.scalar? = some word := by
  unfold bareText? at h
  split at h
  · cases h
  · rename_i hclass
    exact ⟨hclass, Option.bind_eq_some_iff.mp h⟩

/-- A fact that is not the value of its option is blank, or lost to a layer above. -/
theorem passedOver_of_ne (h : sources.entry option = .ok entry)
    (hne : entry.layer ≠ .topScope) {raw : RawValue}
    (hheld : sources.held option .topScope = some raw) :
    raw.isBlank = true ∨ entry.layer.rank < Layer.topScope.rank := by
  have hwins := ((sources.entry_eq_ok_iff _ _).mp h).2.1
  cases hblank : raw.isBlank with
  | true => exact .inl rfl
  | false =>
      refine .inr (Nat.lt_of_le_of_ne (Nat.le_of_not_lt ?_) ?_)
      · intro hlt
        exact hwins.first .topScope hlt ⟨raw, hheld, hblank⟩
      · intro hrank
        exact hne (Layer.rank_injective hrank)

theorem isBlankText_of_isBlank {raw : RawValue} {word : String} (hblank : raw.isBlank = true)
    (h : raw.scalar? = some word) : Text.isBlankText word = true := by
  cases raw with
  | text value =>
      cases h
      exact hblank
  | boolean | integer | float | list | mapping => cases hblank

/-- A fact that is reached under the name of an option is not the value of it: it is
blank, or the option is a mapping from a layer above. -/
theorem passedOver_of_scalar?_eq_none (h : sources.entry option = .ok entry)
    (hnone : entry.value.scalar? = none) {word : String}
    (hbare : sources.bareText? option = some word) :
    entry.layer ≠ .topScope ∧
      (Text.isBlankText word = true ∨
        entry.layer.rank < Layer.topScope.rank ∧ ∃ entries, entry.value = .mapping entries) := by
  obtain ⟨_, raw, hheld, hword⟩ := bareText?_eq_some hbare
  have hblank : raw.isBlank = true → Text.isBlankText word = true :=
    fun hblank => isBlankText_of_isBlank hblank hword
  rcases value_of_scalar?_eq_none h hnone with hunset | ⟨entries, hmapping⟩
  · -- The default is below the fact, so the fact lost to nothing: it is blank.
    have hlayer := layer_of_unset h hunset
    have hne : entry.layer ≠ .topScope := by simp [hlayer]
    refine ⟨hne, .inl ?_⟩
    rcases passedOver_of_ne h hne hheld with hraw | hlt
    · exact hblank hraw
    · rw [hlayer] at hlt
      exact absurd hlt (by decide)
  · have hne := layer_ne_topScope_of_mapping h hmapping hheld (by rw [hword]; rfl)
    refine ⟨hne, ?_⟩
    rcases passedOver_of_ne h hne hheld with hraw | hlt
    · exact .inl (hblank hraw)
    · exact .inr ⟨hlt, entries, hmapping⟩

end Facts

section Lookup

/-- The name of an option stands for the text of its value. A value without a text,
which is an unset text or a mapping, leaves the name to the fact of the same name if
that has a text, except for the additional class. Such a fact is never the value of
the option: it is blank, or the option is a mapping that a higher layer supplies. -/
theorem lookup?_option_name (h : sources.resolve = .ok config) (option : OptionName) :
    ∃ entry, config.entry? option = some entry ∧
      (config.templateVariables sources.facts).lookup? option.name =
        entry.value.scalar?.or (sources.bareText? option) ∧
      (entry.value.scalar? = none →
        (entry.value = .text none ∨ ∃ entries, entry.value = .mapping entries) ∧
        ∀ word, sources.bareText? option = some word →
          entry.layer ≠ .topScope ∧
            (Text.isBlankText word = true ∨
              entry.layer.rank < Layer.topScope.rank ∧
                ∃ entries, entry.value = .mapping entries)) := by
  obtain ⟨entry, hentry⟩ := exists_entry h option
  refine ⟨entry, (entry?_eq_some_iff h option entry).mpr hentry, lookup?_of_entry h hentry, ?_⟩
  intro hnone
  refine ⟨value_of_scalar?_eq_none hentry hnone, ?_⟩
  intro word hbare
  exact passedOver_of_scalar?_eq_none hentry hnone hbare

/-- A module whose mapping is passed beside a fact of its name, and with a blank fact
for an option that has no default. -/
def shadowed : Sources :=
  { module := "nginx"
    params := .ofList [("options", .mapping [("workers", .text "4")])]
    facts := .ofList [("content", .text " "), ("options", .text "raw"), ("port", .integer 8080)] }

/-- The port stands for its value, which is the fact, and the mapping for the fact
that lost to it. -/
theorem lookup?_shadowed_port :
    ∃ config, shadowed.resolve = .ok config ∧
      (config.templateVariables shadowed.facts).lookup? "port" = some "8080" := by
  have htest : shadowed.resolve.toOption.any (fun config =>
      config.entry? .port = some ⟨.port, .text (some "8080"), .topScope⟩) = true := by
    decide +kernel
  obtain ⟨config, hconfig, hport⟩ := exists_of_resolve htest
  obtain ⟨entry, hentry, hlookup, _⟩ := lookup?_option_name hconfig .port
  rw [of_decide_eq_true hport] at hentry
  cases hentry
  exact ⟨config, hconfig, hlookup⟩

/-- The mapping that is passed is no text, and the content is unset; yet their names
stand for the facts that the resolution passed over. -/
theorem lookup?_shadowed :
    ∃ config, shadowed.resolve = .ok config ∧
      config.entry? .options =
        some ⟨.options, .mapping (.ofList [("workers", "4")]), .passed⟩ ∧
      (config.templateVariables shadowed.facts).lookup? "options" = some "raw" ∧
      config.entry? .content = some ⟨.content, .text none, .builtIn⟩ ∧
      (config.templateVariables shadowed.facts).lookup? "content" = some " " := by
  have htest : shadowed.resolve.toOption.any (fun config =>
      config.entry? .options =
          some ⟨.options, .mapping (.ofList [("workers", "4")]), .passed⟩ ∧
        (config.templateVariables shadowed.facts).lookup? "options" = some "raw" ∧
        config.entry? .content = some ⟨.content, .text none, .builtIn⟩ ∧
        (config.templateVariables shadowed.facts).lookup? "content" = some " ") = true := by
    decide +kernel
  obtain ⟨config, hconfig, hfound⟩ := exists_of_resolve htest
  exact ⟨config, hconfig, of_decide_eq_true hfound⟩

end Lookup

end Sources
end DesiredState
