import DesiredState.Proofs.NormalForm
import DesiredState.Proofs.Precedence

/-!
# Entries of a configuration

**Input.** The sources of a module, and the entries that its options resolve to.

**Idea.** Every option has one entry, so what is read off the entries and put under
the names of their options is found again there. A value that is not blank is never
read as unset; so what is unset is so by default.

**Results.**
* `get?_ofList_entries`: a map made from the entries, under the name of an option.
* `text?_of_entry`: the text of an option.
* `value_ne_unset_switch`: a switch is on or off.
* `layer_of_unset`: a text is unset at its default only.
* `layer_ne_topScope_of_mapping`: a mapping is no value of a fact that has a text.
-/

namespace DesiredState
namespace Sources

variable {sources : Sources} {config : Config} {entry : Entry}

section Names

/-- Two entries of a configuration belong to different options. -/
theorem pairwise_option (h : sources.resolve = .ok config) :
    config.entries.Pairwise fun a b => a.option ≠ b.option := by
  have hoptions := options_of_forall₂ ((sources.resolve_eq_ok_iff config).mp h).2
  have hnodup : (config.entries.map Entry.option).Nodup := by
    rw [hoptions]
    decide
  exact List.pairwise_map.mp hnodup

variable {β : Type} (part : Setting → Option β)

theorem nodup_part (h : sources.resolve = .ok config) :
    ((config.entries.filterMap fun entry =>
      (part entry.value).map fun found => (entry.option.name, found)).map Prod.fst).Nodup := by
  refine List.pairwise_map.mpr (List.Pairwise.filterMap _ ?_ (pairwise_option h))
  intro a b hne x hx y hy heq
  obtain ⟨_, _, rfl⟩ := Option.map_eq_some_iff.mp hx
  obtain ⟨_, _, rfl⟩ := Option.map_eq_some_iff.mp hy
  exact hne (OptionName.name_injective heq)

/-- What is read off the settings stands under the names of their options. -/
theorem get?_ofList_entries (h : sources.resolve = .ok config) (hmem : entry ∈ config.entries) :
    (KeyMap.ofList (config.entries.filterMap fun entry =>
      (part entry.value).map fun found => (entry.option.name, found))).get?
        entry.option.name = part entry.value := by
  apply Option.ext
  intro found
  rw [KeyMap.get?_ofList_eq_some_iff (nodup_part part h), List.mem_filterMap]
  constructor
  · rintro ⟨other, hother, hfound⟩
    obtain ⟨_, hpart, heq⟩ := Option.map_eq_some_iff.mp hfound
    obtain ⟨hname, rfl⟩ := Prod.mk.inj heq
    have hoption := OptionName.name_injective hname
    have hentry := (mem_entries_iff h other).mp hother
    rw [hoption, (mem_entries_iff h entry).mp hmem] at hentry
    cases hentry
    exact hpart
  · intro hpart
    exact ⟨entry, hmem, by rw [hpart]; rfl⟩

end Names

section Values

variable {option : OptionName}

theorem isNormal_of_entry (h : sources.entry option = .ok entry) :
    entry.value.IsNormal option.kind :=
  isNormal_of_normalize ((sources.entry_eq_ok_iff _ _).mp h).2.2

/-- The text that a configuration offers for an option is that of its entry. -/
theorem text?_of_entry (h : sources.resolve = .ok config)
    (hentry : sources.entry option = .ok entry) {value : Option String}
    (hvalue : entry.value = .text value) : config.text? option = value := by
  have hfound := (entry?_eq_some_iff h option entry).mpr hentry
  obtain ⟨_, _, _⟩ := entry
  cases hvalue
  rw [Config.text?, hfound]

end Values

section Unset

variable {option : OptionName}

/-- A setting that is read from a value which is not blank is set, and so is the
default of a switch. -/
theorem value_ne_unset_switch (h : sources.entry option = .ok entry) :
    entry.value ≠ .switch .unset := by
  obtain ⟨_, hwins, hnormal⟩ := (sources.entry_eq_ok_iff _ _).mp h
  intro hunset
  rw [hunset] at hnormal
  cases hkind : option.kind with
  | text | choice | mapping =>
      rw [hkind] at hnormal
      exact (isNormal_of_normalize hnormal).elim
  | switch =>
      rw [hkind] at hnormal
      obtain ⟨value, hread, hvalue⟩ := Except.exists_of_map_eq_ok hnormal
      cases hvalue
      rcases hwins.supplies with hdefault | ⟨raw, hraw, hblank⟩
      · obtain ⟨value, hswitch⟩ := OptionName.default_of_switch hkind
        rw [hdefault, held, hswitch] at hread
        cases value <;> cases hread
      · rw [hraw] at hread
        exact RawValue.toSwitch_ne_unset hblank hread

/-- What has no text is a text that is unset, or a mapping. -/
theorem value_of_scalar?_eq_none (h : sources.entry option = .ok entry)
    (hnone : entry.value.scalar? = none) :
    entry.value = .text none ∨ ∃ entries, entry.value = .mapping entries := by
  cases hvalue : entry.value with
  | switch value =>
      rw [hvalue] at hnone
      cases value with
      | on | off => cases hnone
      | unset => exact absurd hvalue (value_ne_unset_switch h)
  | text value =>
      rw [hvalue] at hnone
      exact .inl (congrArg Setting.text hnone)
  | mapping entries => exact .inr ⟨entries, rfl⟩

/-- A text stays unset at its default only: a layer that supplies a value holds one
that is not blank. -/
theorem layer_of_unset (h : sources.entry option = .ok entry)
    (hvalue : entry.value = .text none) : entry.layer = .builtIn := by
  obtain ⟨_, hwins, hnormal⟩ := (sources.entry_eq_ok_iff _ _).mp h
  rcases hwins.supplies with hdefault | ⟨value, hheld, hblank⟩
  · exact hdefault
  · rw [hheld, hvalue] at hnormal
    rw [isBlank_of_unset hnormal] at hblank
    cases hblank

/-- A fact that has a text is no mapping. -/
theorem layer_ne_topScope_of_mapping (h : sources.entry option = .ok entry)
    {entries : KeyMap String} (hvalue : entry.value = .mapping entries) {raw : RawValue}
    (hraw : sources.facts.get? option.name = some raw) (htext : raw.scalar?.isSome) :
    entry.layer ≠ .topScope := by
  obtain ⟨_, _, hnormal⟩ := (sources.entry_eq_ok_iff _ _).mp h
  intro htop
  rw [htop, hvalue, held, hraw] at hnormal
  cases hkind : option.kind with
  | switch | text | choice =>
      rw [hkind] at hnormal
      exact (isNormal_of_normalize hnormal).elim
  | mapping =>
      rw [hkind] at hnormal
      cases raw with
      | boolean | integer | float | text | list => cases hnormal
      | mapping => cases htext

end Unset

end Sources
end DesiredState
