import DesiredState.OptionTable
import DesiredState.Proofs.KeyMap.Listing

/-!
# Normal forms

**Input.** A raw value, and the kind of an option that gives it a meaning.

**Idea.** The normal form of a value can be written as a raw value again: a switch
as its word, a text as itself, a mapping as one of texts. The kind reads that value
as the normal form it came from, because the texts of numbers, the words of
switches and the allowed choices are neither blank nor changed by lowering.

**Results.**
* `isBlankText_scalar?`: the text of a value that is not blank is not blank.
* `isNormal_of_normalize`: what a kind makes of a raw value is in normal form.
* `normalize_toRaw?`: a normal form is read as itself.
* `isBlank_of_toRaw?`: a normal form that is set is not blank.
-/

namespace DesiredState

section Blanks

/-- A text with a character that is not blank. -/
theorem Text.isBlankText_of_mem {s : String} {c : Char} (hmem : c ∈ s.toList)
    (hc : Text.isBlank c = false) : Text.isBlankText s = false := by
  rw [Text.isBlankText, List.all_eq_false]
  exact ⟨c, hmem, by simp [hc]⟩

theorem Text.isBlank_of_isDigit {c : Char} (h : c.isDigit = true) :
    Text.isBlank c = false := by
  have hlow : 48 ≤ c.toNat ∧ c.toNat ≤ 57 := by
    simp only [Char.isDigit, Bool.and_eq_true, decide_eq_true_eq] at h
    exact ⟨UInt32.le_iff_toNat_le.mp h.1, UInt32.le_iff_toNat_le.mp h.2⟩
  simp only [Text.isBlank, Text.blankRanges, List.any_cons, List.any_nil, Bool.or_false,
    Bool.or_eq_false_iff, Bool.and_eq_false_iff, decide_eq_false_iff_not]
  omega

theorem Text.isBlankText_of_digit {cs : List Char} (h : ∃ c ∈ cs, c.isDigit = true) :
    Text.isBlankText (String.ofList cs) = false := by
  obtain ⟨c, hmem, hdigit⟩ := h
  exact Text.isBlankText_of_mem (by simpa using hmem) (Text.isBlank_of_isDigit hdigit)

theorem isDigit_of_mem_toDigits {n : Nat} {c : Char} (h : c ∈ Nat.toDigits 10 n) :
    c.isDigit = true :=
  Nat.isDigit_of_mem_toDigits (by decide) (by decide) h

theorem exists_digit_toDigits (n : Nat) : ∃ c ∈ Nat.toDigits 10 n, c.isDigit = true := by
  obtain ⟨c, hmem⟩ := List.exists_mem_of_ne_nil _ (Nat.toDigits_ne_nil (n := n) (b := 10))
  exact ⟨c, hmem, isDigit_of_mem_toDigits hmem⟩

/-- A decimal has a digit before its point. -/
theorem Double.exists_digit_positional (digits : Nat) (exponent : Int) :
    ∃ c ∈ Double.positional digits exponent, c.isDigit = true := by
  unfold Double.positional
  dsimp only
  split
  · obtain ⟨c, hmem, hdigit⟩ := exists_digit_toDigits digits
    exact ⟨c, List.mem_append_left _ hmem, hdigit⟩
  · generalize hplaces : (-exponent).toNat = places
    generalize hpadded : List.replicate (places + 1 - (Nat.toDigits 10 digits).length) '0' ++
      Nat.toDigits 10 digits = padded
    have hdigits : ∀ c ∈ padded, c.isDigit = true := by
      intro c hmem
      rw [← hpadded] at hmem
      rcases List.mem_append.mp hmem with hzero | hdigit
      · rw [List.eq_of_mem_replicate hzero]
        rfl
      · exact isDigit_of_mem_toDigits hdigit
    have hlength : places < padded.length := by
      rw [← hpadded, List.length_append, List.length_replicate]
      omega
    have hwhole : padded.take (padded.length - places) ≠ [] := by
      rw [Ne, List.take_eq_nil_iff, not_or]
      exact ⟨by omega, List.ne_nil_of_length_pos (by omega)⟩
    obtain ⟨c, hmem⟩ := List.exists_mem_of_ne_nil _ hwhole
    refine ⟨c, ?_, hdigits c (List.mem_of_mem_take hmem)⟩
    split
    · exact hmem
    · simp [hmem]

theorem Double.isBlankText_text (x : Double) : Text.isBlankText x.text = false := by
  cases x with
  | notANumber => decide
  | infinite negative => cases negative <;> decide
  | finite negative mantissa unit =>
      have hsigned : ∀ magnitude : List Char, (∃ c ∈ magnitude, c.isDigit = true) →
          ∃ c ∈ (if negative then '-' :: magnitude else magnitude), c.isDigit = true := by
        rintro magnitude ⟨c, hmem, hdigit⟩
        refine ⟨c, ?_, hdigit⟩
        split
        · exact List.mem_cons_of_mem _ hmem
        · exact hmem
      unfold Double.text
      refine Text.isBlankText_of_digit (hsigned _ ?_)
      split
      · exact ⟨'0', List.mem_singleton_self _, rfl⟩
      · exact Double.exists_digit_positional _ _

theorem RawValue.isBlankText_integer (n : Int) : Text.isBlankText (toString n) = false := by
  have hdigit : ∃ c ∈ (toString n).toList, c.isDigit = true := by
    rw [Int.toString_eq_repr, Int.repr_eq_if]
    split
    · rw [Nat.toList_repr]
      exact exists_digit_toDigits _
    · obtain ⟨c, hmem, hdigit⟩ := exists_digit_toDigits (-n).toNat
      refine ⟨c, ?_, hdigit⟩
      rw [String.toList_append, Nat.toList_repr]
      exact List.mem_append_right _ hmem
  obtain ⟨c, hmem, hdigit⟩ := hdigit
  exact Text.isBlankText_of_mem hmem (Text.isBlank_of_isDigit hdigit)

/-- The text of a value that is not blank is not blank. -/
theorem RawValue.isBlankText_scalar? {raw : RawValue} {word : String}
    (hraw : raw.isBlank = false) (h : raw.scalar? = some word) :
    Text.isBlankText word = false := by
  cases raw with
  | boolean value =>
      cases h
      cases value <;> decide
  | integer value =>
      cases h
      exact RawValue.isBlankText_integer value
  | float value =>
      cases h
      exact Double.isBlankText_text value
  | text value =>
      cases h
      exact hraw
  | list items => cases h
  | mapping entries => cases h

end Blanks

section Defs

/-- The raw value that stands for a setting: the word of a switch, a text itself, a
mapping of texts. Nothing stands for a switch or a text that is unset. -/
def Setting.toRaw? : Setting → Option RawValue
  | .switch .unset => none
  | .switch value => some (.text value.text)
  | .text value => value.map .text
  | .mapping entries =>
      some (.mapping (entries.entries.map fun entry => (entry.1, .text entry.2)))

theorem Setting.toRaw?_eq_none_iff (setting : Setting) :
    setting.toRaw? = none ↔ setting = .switch .unset ∨ setting = .text none := by
  cases setting with
  | switch value => cases value <;> simp [toRaw?]
  | text value => simp [toRaw?]
  | mapping entries => simp [toRaw?]

/-- The settings that an option of a kind can have. -/
def Setting.IsNormal : OptionKind → Setting → Prop
  | .switch, .switch _ => True
  | .text, .text value => ∀ word, value = some word → Text.isBlankText word = false
  | .choice allowed, .text value => ∀ word, value = some word → word ∈ allowed
  | .mapping, .mapping _ => True
  | _, _ => False

/-- The choices of a kind are neither blank nor changed by lowering. -/
def OptionKind.HasPlainChoices : OptionKind → Prop
  | .choice allowed => ∀ word ∈ allowed, word.toLower = word ∧ Text.isBlankText word = false
  | _ => True

end Defs

theorem OptionName.hasPlainChoices (option : OptionName) : option.kind.HasPlainChoices := by
  have hprotocols : (OptionKind.choice OptionName.protocols).HasPlainChoices := by
    unfold OptionKind.HasPlainChoices
    decide +kernel
  cases option <;> first | exact trivial | exact hprotocols

namespace RawValue

section Reading

/-- A text that is read is that of a scalar which is not blank. -/
theorem toText_eq_some_iff (raw : Option RawValue) (word : String) :
    toText raw = .ok (some word) ↔
      ∃ value, raw = some value ∧ value.isBlank = false ∧ value.scalar? = some word := by
  cases raw with
  | none => simp [toText]
  | some value =>
      cases hblank : value.isBlank with
      | true => simp [toText, hblank]
      | false => cases hscalar : value.scalar? <;> simp [toText, hblank, hscalar]

/-- No text is read where there is no value, or a blank one. -/
theorem toText_eq_none_iff (raw : Option RawValue) :
    toText raw = .ok none ↔ ∀ value, raw = some value → value.isBlank = true := by
  cases raw with
  | none => simp [toText]
  | some value =>
      cases hblank : value.isBlank with
      | true => simp [toText, hblank]
      | false => cases hscalar : value.scalar? <;> simp [toText, hblank, hscalar]

theorem toText_text {word : String} (h : Text.isBlankText word = false) :
    toText (some (.text word)) = .ok (some word) :=
  (toText_eq_some_iff _ _).mpr ⟨.text word, rfl, h, rfl⟩

theorem toLower_trim_ne_empty {word : String} (h : Text.isBlankText word = false) :
    (Text.trim word).toLower ≠ "" := by
  change (Text.trim word).map Char.toLower ≠ ""
  rw [Ne, String.map_eq_empty, Text.trim_eq_empty_iff, h]
  exact Bool.false_ne_true

theorem switchOfWord?_ne_unset {word : String} (h : word ≠ "") :
    switchOfWord? word ≠ some .unset := by
  rw [switchOfWord?, if_neg h]
  split
  · simp
  · split <;> simp

/-- A switch that is given a value which is not blank is on or off. -/
theorem toSwitch_ne_unset {raw : RawValue} (h : raw.isBlank = false) :
    toSwitch (some raw) ≠ .ok .unset := by
  cases raw with
  | boolean value => cases value <;> simp [toSwitch, Switch.ofBool]
  | text value =>
      rw [toSwitch]
      cases hswitch : switchOfWord? (Text.trim value).toLower with
      | none => simp
      | some switch =>
          intro hunset
          cases hunset
          exact switchOfWord?_ne_unset (toLower_trim_ne_empty h) hswitch
  | integer | float | list | mapping => simp [toSwitch]

/-- A text cannot be read from a list or a mapping, and from nothing else. -/
theorem toText_eq_error_iff (raw : Option RawValue) :
    (∃ rejection, toText raw = .error rejection) ↔
      ∃ value, raw = some value ∧ value.scalar? = none := by
  cases raw with
  | none => simp [toText]
  | some value =>
      cases value with
      | text word =>
          cases hblank : Text.isBlankText word <;> simp [toText, isBlank, scalar?, hblank]
      | boolean | integer | float | list | mapping => simp [toText, isBlank, scalar?]

theorem scalarEntries_text (es : List (String × String)) :
    scalarEntries (es.map fun entry => (entry.1, .text entry.2)) = .ok es := by
  induction es with
  | nil => rfl
  | cons e rest ih => simp [scalarEntries, scalar?, ih]

theorem toMapping_text (m : KeyMap String) :
    toMapping (some (.mapping (m.entries.map fun entry => (entry.1, .text entry.2)))) =
      .ok m := by
  simp only [toMapping, scalarEntries_text, KeyMap.ofList_entries]

end Reading

end RawValue

section NormalForms

variable {kind : OptionKind} {raw : Option RawValue} {setting : Setting}

theorem Except.exists_ok_map_iff {ε α β : Type} (f : α → β) (result : Except ε α) :
    (∃ value, result.map f = .ok value) ↔ ∃ value, result = .ok value := by
  cases result <;> simp [Except.map]

theorem Except.exists_error_map_iff {ε α β : Type} (f : α → β) (result : Except ε α) :
    (∃ fault, result.map f = .error fault) ↔ ∃ fault, result = .error fault := by
  cases result <;> simp [Except.map]

theorem Except.exists_of_map_eq_ok {ε α β : Type} {f : α → β} {result : Except ε α} {value : β}
    (h : result.map f = .ok value) : ∃ found, result = .ok found ∧ f found = value := by
  cases result with
  | error fault => cases h
  | ok found =>
      cases h
      exact ⟨found, rfl, rfl⟩

/-- A choice that is read is one of the allowed words. -/
theorem RawValue.mem_of_toChoice {allowed : List String} {word : String}
    (h : RawValue.toChoice allowed raw = .ok (some word)) : word ∈ allowed := by
  unfold RawValue.toChoice at h
  split at h
  · cases h
  · cases h
  · split at h
    · cases h
      assumption
    · cases h

/-- What a kind makes of a raw value is in normal form. -/
theorem isNormal_of_normalize (h : kind.normalize raw = .ok setting) :
    setting.IsNormal kind := by
  cases kind with
  | switch =>
      obtain ⟨value, _, rfl⟩ := Except.exists_of_map_eq_ok h
      exact trivial
  | text =>
      obtain ⟨value, hvalue, rfl⟩ := Except.exists_of_map_eq_ok h
      rintro word rfl
      obtain ⟨raw, _, hblank, hscalar⟩ := (RawValue.toText_eq_some_iff _ _).mp hvalue
      exact RawValue.isBlankText_scalar? hblank hscalar
  | choice allowed =>
      obtain ⟨value, hvalue, rfl⟩ := Except.exists_of_map_eq_ok h
      rintro word rfl
      exact RawValue.mem_of_toChoice hvalue
  | mapping =>
      obtain ⟨value, _, rfl⟩ := Except.exists_of_map_eq_ok h
      exact trivial

/-- A normal form is read as itself. -/
theorem normalize_toRaw? (hkind : kind.HasPlainChoices) (h : setting.IsNormal kind) :
    kind.normalize setting.toRaw? = .ok setting := by
  cases kind with
  | switch =>
      cases setting with
      | switch value =>
          cases value with
          | unset => rfl
          | on | off => decide +kernel
      | text | mapping => exact h.elim
  | text =>
      cases setting with
      | text value =>
          cases value with
          | none => rfl
          | some word =>
              simp only [Setting.toRaw?, OptionKind.normalize, Option.map_some,
                RawValue.toText_text (h word rfl)]
              rfl
      | switch | mapping => exact h.elim
  | choice allowed =>
      cases setting with
      | text value =>
          cases value with
          | none => rfl
          | some word =>
              obtain ⟨hlower, hblank⟩ := hkind word (h word rfl)
              simp only [Setting.toRaw?, OptionKind.normalize, Option.map_some,
                RawValue.toChoice, RawValue.toText_text hblank, hlower, if_pos (h word rfl)]
              rfl
      | switch | mapping => exact h.elim
  | mapping =>
      cases setting with
      | mapping entries =>
          simp only [Setting.toRaw?, OptionKind.normalize, RawValue.toMapping_text]
          rfl
      | switch | text => exact h.elim

/-- Where a value is read as an unset text, a missing one is, too. -/
theorem normalize_none_of_unset (h : kind.normalize raw = .ok (.text none)) :
    kind.normalize none = .ok (.text none) := by
  cases kind with
  | text | choice => rfl
  | switch | mapping => exact (isNormal_of_normalize h).elim

/-- What is read as an unset text is blank. -/
theorem isBlank_of_unset {value : RawValue}
    (h : kind.normalize (some value) = .ok (.text none)) : value.isBlank = true := by
  cases kind with
  | text =>
      obtain ⟨read, hread, heq⟩ := Except.exists_of_map_eq_ok h
      cases heq
      exact (RawValue.toText_eq_none_iff _).mp hread value rfl
  | choice allowed =>
      obtain ⟨read, hread, heq⟩ := Except.exists_of_map_eq_ok h
      cases heq
      unfold RawValue.toChoice at hread
      split at hread
      · cases hread
      · rename_i hnone
        exact (RawValue.toText_eq_none_iff _).mp hnone value rfl
      · split at hread <;> cases hread
  | switch | mapping => exact (isNormal_of_normalize h).elim

/-- The raw value that stands for a normal form is not blank. -/
theorem isBlank_of_toRaw? {value : RawValue} (hkind : kind.HasPlainChoices)
    (h : setting.IsNormal kind) (hvalue : setting.toRaw? = some value) :
    value.isBlank = false := by
  cases setting with
  | switch switch =>
      cases switch with
      | unset => cases hvalue
      | on | off =>
          cases hvalue
          decide
  | text text =>
      obtain ⟨word, rfl, rfl⟩ := Option.map_eq_some_iff.mp hvalue
      cases kind with
      | text => exact h word rfl
      | choice allowed => exact (hkind word (h word rfl)).2
      | switch | mapping => exact h.elim
  | mapping entries =>
      cases hvalue
      rfl

end NormalForms

end DesiredState
