import DesiredState.Compilation
import DesiredState.Proofs.NormalForm
import DesiredState.Proofs.Precedence

/-!
# What options accept

**Input.** The sources of a module, in which every option has a winning layer.

**Idea.** Each kind of option has a language of raw values. The reader of the kind
takes blank texts besides, but no blank text ever wins for a switch or a choice: the
layers above the default are passed over when they are blank, and the defaults of
these kinds are not blank. So an option has an entry exactly when what its winner
holds is in the language of its kind, and the resolution ends at the first option in
the table whose winner holds anything else.

**Results.**
* `exists_normalize_iff`: a kind reads the values of its language.
* `reads_of_wins`: no blank text wins where it is no value of the kind.
* `rejected_iff`, `exists_entry_iff`: the options that have no entry.
* `resolve_eq_error_iff_firstRejected`: the option that ends a resolution.
* `config_rejects`: when a resolution fails, and what it blames.
-/

namespace DesiredState

section Languages

/-- A boolean, a number or a text. -/
inductive RawValue.IsScalar : RawValue → Prop
  | boolean (value : Bool) : IsScalar (.boolean value)
  | integer (value : Int) : IsScalar (.integer value)
  | float (value : Double) : IsScalar (.float value)
  | text (value : String) : IsScalar (.text value)

/-- The values that a kind of option accepts, of which a missing one is always one. -/
inductive OptionKind.Accepts : OptionKind → Option RawValue → Prop
  | missing (kind : OptionKind) : Accepts kind none
  | boolean (value : Bool) : Accepts .switch (some (.boolean value))
  | word {value : String} (h : (Text.trim value).toLower ∈ ["true", "yes", "false", "no"]) :
      Accepts .switch (some (.text value))
  | text {value : RawValue} (h : value.IsScalar) : Accepts .text (some value)
  | choice {allowed : List String} {value : RawValue} {word : String}
      (hword : value.scalar? = some word) (h : word.toLower ∈ allowed) :
      Accepts (.choice allowed) (some value)
  | mapping {entries : List (String × RawValue)} (h : ∀ entry ∈ entries, entry.2.IsScalar) :
      Accepts .mapping (some (.mapping entries))

end Languages

section Readers

theorem RawValue.isScalar_iff (raw : RawValue) :
    raw.IsScalar ↔ ∃ word, raw.scalar? = some word := by
  constructor
  · rintro (_ | _ | _ | _) <;> exact ⟨_, rfl⟩
  · rintro ⟨word, hword⟩
    cases raw with
    | boolean value => exact .boolean value
    | integer value => exact .integer value
    | float value => exact .float value
    | text value => exact .text value
    | list | mapping => cases hword

/-- The words of a switch are the empty one and those of its language. -/
theorem RawValue.exists_switchOfWord?_iff (word : String) :
    (∃ switch, switchOfWord? word = some switch) ↔
      word = "" ∨ word ∈ ["true", "yes", "false", "no"] := by
  unfold switchOfWord?
  by_cases hempty : word = "" <;> by_cases htrue : word = "true" <;>
    by_cases hyes : word = "yes" <;> by_cases hfalse : word = "false" <;>
    by_cases hno : word = "no" <;> simp [hempty, htrue, hyes, hfalse, hno]

theorem RawValue.exists_scalarEntries_iff (entries : List (String × RawValue)) :
    (∃ texts, scalarEntries entries = .ok texts) ↔ ∀ entry ∈ entries, entry.2.IsScalar := by
  induction entries with
  | nil => simp [scalarEntries]
  | cons entry rest ih =>
      obtain ⟨key, value⟩ := entry
      rw [List.forall_mem_cons, ← ih, RawValue.isScalar_iff, scalarEntries]
      cases value.scalar? with
      | none => simp
      | some word => cases scalarEntries rest <;> simp

variable {value : RawValue}

theorem RawValue.exists_toSwitch_iff (h : value.isBlank = false) :
    (∃ switch, toSwitch (some value) = .ok switch) ↔ OptionKind.switch.Accepts (some value) := by
  cases value with
  | boolean value => exact ⟨fun _ => .boolean value, fun _ => ⟨_, rfl⟩⟩
  | text value =>
      have hread : (∃ switch, toSwitch (some (.text value)) = .ok switch) ↔
          ∃ switch, switchOfWord? (Text.trim value).toLower = some switch := by
        rw [toSwitch]
        cases switchOfWord? (Text.trim value).toLower <;> simp
      rw [hread, exists_switchOfWord?_iff, or_iff_right (toLower_trim_ne_empty h)]
      constructor
      · exact .word
      · intro haccepts
        cases haccepts with
        | word h => exact h
  | integer | float | list | mapping =>
      constructor
      · rintro ⟨_, hread⟩
        cases hread
      · intro haccepts
        cases haccepts

theorem RawValue.exists_toText_iff (value : RawValue) :
    (∃ text, toText (some value) = .ok text) ↔ OptionKind.text.Accepts (some value) := by
  have hscalar : OptionKind.text.Accepts (some value) ↔ value.IsScalar :=
    ⟨fun | .text h => h, .text⟩
  rw [hscalar, RawValue.isScalar_iff, toText]
  cases hblank : value.isBlank with
  | true =>
      cases value with
      | text word => simp [scalar?]
      | boolean | integer | float | list | mapping => cases hblank
  | false => cases value.scalar? <;> simp

theorem RawValue.exists_toChoice_iff {allowed : List String} (h : value.isBlank = false) :
    (∃ text, toChoice allowed (some value) = .ok text) ↔
      (OptionKind.choice allowed).Accepts (some value) := by
  have hchoice : (OptionKind.choice allowed).Accepts (some value) ↔
      ∃ word, value.scalar? = some word ∧ word.toLower ∈ allowed :=
    ⟨fun | .choice hword h => ⟨_, hword, h⟩, fun ⟨_, hword, h⟩ => .choice hword h⟩
  rw [hchoice, toChoice, toText, h]
  cases value.scalar? with
  | none => simp
  | some word => by_cases hallowed : word.toLower ∈ allowed <;> simp [hallowed]

theorem RawValue.exists_toMapping_iff (value : RawValue) :
    (∃ texts, toMapping (some value) = .ok texts) ↔ OptionKind.mapping.Accepts (some value) := by
  cases value with
  | mapping entries =>
      have hentries : OptionKind.mapping.Accepts (some (.mapping entries)) ↔
          ∀ entry ∈ entries, entry.2.IsScalar :=
        ⟨fun | .mapping h => h, .mapping⟩
      rw [hentries, ← exists_scalarEntries_iff, toMapping]
      cases scalarEntries entries <;> simp
  | boolean | integer | float | text | list =>
      constructor
      · rintro ⟨_, hread⟩
        cases hread
      · intro haccepts
        cases haccepts

/-- A kind reads the values of its language, and besides no others than blank texts. -/
theorem exists_normalize_iff {kind : OptionKind} {raw : Option RawValue}
    (h : kind = .text ∨ ∀ value, raw = some value → value.isBlank = false) :
    (∃ setting, kind.normalize raw = .ok setting) ↔ kind.Accepts raw := by
  cases raw with
  | none =>
      have hmissing : ∃ setting, kind.normalize none = .ok setting := by
        cases kind <;> exact ⟨_, rfl⟩
      exact iff_of_true hmissing (.missing kind)
  | some value =>
      cases kind with
      | switch =>
          have hblank := h.resolve_left (by simp) value rfl
          rw [OptionKind.normalize, Except.exists_ok_map_iff, RawValue.exists_toSwitch_iff hblank]
      | text => rw [OptionKind.normalize, Except.exists_ok_map_iff, RawValue.exists_toText_iff]
      | choice allowed =>
          have hblank := h.resolve_left (by simp) value rfl
          rw [OptionKind.normalize, Except.exists_ok_map_iff, RawValue.exists_toChoice_iff hblank]
      | mapping =>
          rw [OptionKind.normalize, Except.exists_ok_map_iff, RawValue.exists_toMapping_iff]

end Readers

namespace Sources

section Defs

/-- What the winner of an option holds is not in the language of the option. -/
structure Rejected (sources : Sources) (option : OptionName) (layer : Layer) : Prop where
  wins : sources.Wins option layer
  outside : ¬ option.kind.Accepts (sources.held option layer)

/-- The option is rejected, and none that comes before it in the table. -/
def FirstRejected (sources : Sources) (option : OptionName) (layer : Layer) : Prop :=
  sources.Rejected option layer ∧
    ∃ earlier later, OptionName.all = earlier ++ option :: later ∧
      ∀ before ∈ earlier, ∀ winner, ¬ sources.Rejected before winner

end Defs

section Winners

variable {sources : Sources} {option : OptionName} {layer : Layer}

/-- Blank texts win for text options only. -/
theorem reads_of_wins (h : sources.Wins option layer) :
    option.kind = .text ∨
      ∀ value, sources.held option layer = some value → value.isBlank = false := by
  rcases h.supplies with rfl | ⟨raw, hraw, hblank⟩
  · simp only [held]
    cases hdefault : option.spec.default with
    | unset => simp [OptionDefault.toRaw?]
    | switch value => simp [OptionDefault.toRaw?, RawValue.isBlank]
    | text pieces =>
        rcases OptionName.kind_of_default_text hdefault with hkind | ⟨_, rfl⟩
        · exact .inl hkind
        · right
          rintro value ⟨rfl⟩
          simp only [OptionDefault.join, List.map_cons, List.map_nil]
          decide +kernel
    | fact name => exact .inl (OptionName.kind_of_default_fact hdefault)
  · right
    intro value hvalue
    rw [hraw] at hvalue
    cases hvalue
    exact hblank

/-- An option is rejected exactly when its entry is an error that names it and its
winner. -/
theorem rejected_iff :
    sources.Rejected option layer ↔
      ∃ rejection, sources.entry option = .error ⟨option.name, layer, rejection⟩ := by
  have herror : ∀ rejection, sources.entry option = .error ⟨option.name, layer, rejection⟩ ↔
      sources.Wins option layer ∧
        option.kind.normalize (sources.held option layer) = .error rejection := by
    intro rejection
    rw [entry_eq_error_iff]
    simp
  simp only [herror, exists_and_left]
  constructor
  · rintro ⟨hwins, houtside⟩
    refine ⟨hwins, ?_⟩
    cases hnormal : option.kind.normalize (sources.held option layer) with
    | error rejection => exact ⟨rejection, rfl⟩
    | ok setting =>
        exact absurd ((exists_normalize_iff (reads_of_wins hwins)).mp ⟨setting, hnormal⟩) houtside
  · rintro ⟨hwins, rejection, hnormal⟩
    refine ⟨hwins, fun haccepts => ?_⟩
    obtain ⟨setting, hsetting⟩ := (exists_normalize_iff (reads_of_wins hwins)).mpr haccepts
    rw [hnormal] at hsetting
    cases hsetting

/-- An option has an entry exactly when it is not rejected. -/
theorem exists_entry_iff :
    (∃ entry, sources.entry option = .ok entry) ↔ ∀ layer, ¬ sources.Rejected option layer := by
  constructor
  · rintro ⟨entry, hentry⟩ layer hrejected
    obtain ⟨rejection, herror⟩ := rejected_iff.mp hrejected
    rw [hentry] at herror
    cases herror
  · intro hnone
    cases hentry : sources.entry option with
    | ok entry => exact ⟨entry, rfl⟩
    | error invalid =>
        have hname := ((entry_eq_error_iff invalid).mp hentry).1
        refine absurd (rejected_iff.mpr ⟨invalid.rejection, ?_⟩) (hnone invalid.layer)
        rw [hentry, ← hname]

/-- A rejected value is rejected whatever the layers below it hold. -/
theorem Rejected.of_agree {other : Sources} (h : sources.Rejected option layer)
    (hagree : ∀ upper : Layer, upper.rank ≤ layer.rank →
      other.held option upper = sources.held option upper) : other.Rejected option layer where
  wins := h.wins.of_agree hagree
  outside := by
    rw [hagree layer (Nat.le_refl _)]
    exact h.outside

end Winners

section Resolution

variable {sources : Sources}

theorem config_eq_error_iff (fault : Fault) :
    sources.config = .error fault ↔
      ∃ invalid, sources.resolve = .error invalid ∧ fault = .invalid invalid := by
  unfold Sources.config
  cases sources.resolve with
  | ok config => simp
  | error invalid => simp [eq_comm]

/-- Resolution fails at the first option that is rejected. -/
theorem resolve_eq_error_iff_firstRejected (invalid : InvalidValue) :
    sources.resolve = .error invalid ↔
      ∃ option, sources.FirstRejected option invalid.layer ∧
        sources.entry option = .error invalid := by
  rw [resolve_eq_error_iff, entries_eq_error_iff]
  constructor
  · rintro ⟨earlier, option, later, hsplit, hearlier, herror⟩
    have hname := ((entry_eq_error_iff invalid).mp herror).1
    refine ⟨option, ⟨rejected_iff.mpr ⟨invalid.rejection, ?_⟩, earlier, later, hsplit, ?_⟩, herror⟩
    · rw [herror, ← hname]
    · intro before hbefore
      exact exists_entry_iff.mp (hearlier before hbefore)
  · rintro ⟨option, ⟨_, earlier, later, hsplit, hearlier⟩, herror⟩
    refine ⟨earlier, option, later, hsplit, ?_, herror⟩
    intro before hbefore
    exact exists_entry_iff.mpr (hearlier before hbefore)

theorem exists_config_error_iff :
    (∃ fault, sources.config = .error fault) ↔
      ∃ option layer, sources.Rejected option layer := by
  constructor
  · rintro ⟨fault, hfault⟩
    obtain ⟨invalid, hinvalid, _⟩ := (config_eq_error_iff fault).mp hfault
    obtain ⟨option, hfirst, _⟩ := (resolve_eq_error_iff_firstRejected invalid).mp hinvalid
    exact ⟨option, invalid.layer, hfirst.1⟩
  · rintro ⟨option, layer, hrejected⟩
    cases hresolve : sources.resolve with
    | error invalid =>
        exact ⟨.invalid invalid, (config_eq_error_iff _).mpr ⟨invalid, hresolve, rfl⟩⟩
    | ok config => exact absurd hrejected (exists_entry_iff.mp (exists_entry hresolve option) layer)

/-- A resolution fails exactly when the winner of some option holds what is not in the
language of the option. It fails with an invalid value, which is blamed on the first
such option in the table and on its winner, and with what the kind of that option says
of the value. What the layers below a winner hold is never taken instead. -/
theorem config_rejects (sources : Sources) :
    ((∃ fault, sources.config = .error fault) ↔
      ∃ option layer, sources.Wins option layer ∧
        ¬ option.kind.Accepts (sources.held option layer)) ∧
    (∀ fault, sources.config = .error fault ↔
      ∃ option layer rejection, sources.FirstRejected option layer ∧
        option.kind.normalize (sources.held option layer) = .error rejection ∧
        fault = .invalid ⟨option.name, layer, rejection⟩) ∧
    (∀ option layer, sources.Rejected option layer → ∀ other : Sources,
      (∀ upper : Layer, upper.rank ≤ layer.rank →
        other.held option upper = sources.held option upper) →
      other.Rejected option layer ∧ ∃ fault, other.config = .error fault) := by
  refine ⟨?_, ?_, ?_⟩
  · rw [exists_config_error_iff]
    constructor
    · rintro ⟨option, layer, hwins, houtside⟩
      exact ⟨option, layer, hwins, houtside⟩
    · rintro ⟨option, layer, hwins, houtside⟩
      exact ⟨option, layer, hwins, houtside⟩
  · intro fault
    rw [config_eq_error_iff]
    constructor
    · rintro ⟨invalid, hinvalid, rfl⟩
      obtain ⟨option, hfirst, herror⟩ := (resolve_eq_error_iff_firstRejected invalid).mp hinvalid
      obtain ⟨hname, _, hnormal⟩ := (entry_eq_error_iff invalid).mp herror
      exact ⟨option, invalid.layer, invalid.rejection, hfirst, hnormal, by rw [← hname]⟩
    · rintro ⟨option, layer, rejection, hfirst, hnormal, rfl⟩
      refine ⟨_, (resolve_eq_error_iff_firstRejected _).mpr ⟨option, hfirst, ?_⟩, rfl⟩
      exact (entry_eq_error_iff _).mpr ⟨rfl, hfirst.1.wins, hnormal⟩
  · intro option layer hrejected other hagree
    have hother := hrejected.of_agree hagree
    exact ⟨hother, exists_config_error_iff.mpr ⟨option, layer, hother⟩⟩

/-- Of several invalid values the first in the table is blamed, though a lower layer
holds a valid one for it. -/
example :
    (⟨"nginx", .ofList [("protocol", .text " tcp "), ("version", .list [])],
      .ofList [("nginx_version", .text "1.0"), ("absent", .integer 1)]⟩ : Sources).config =
        .error (.invalid ⟨"absent", .topScope, .notSwitch "integer 1"⟩) := by
  decide +kernel

end Resolution

end Sources
end DesiredState
