/-!
# Searching in texts

Texts inside texts, a text cut at the first occurrence of a character, and the
rest of a text after a given beginning.
-/

namespace DesiredState
namespace Text

/-- The part stands somewhere in the characters. -/
def occursIn (part : List Char) : List Char → Bool
  | [] => part.isEmpty
  | c :: rest => part.isPrefixOf (c :: rest) || occursIn part rest

/-- The part stands somewhere in the text. -/
def contains (whole part : String) : Bool :=
  occursIn part.toList whole.toList

/-- What stands before and after the first occurrence of a character. -/
def cutChars (separator : Char) : List Char → Option (List Char × List Char)
  | [] => none
  | c :: rest =>
      if c = separator then some ([], rest)
      else (cutChars separator rest).map fun cut => (c :: cut.1, cut.2)

/-- What stands before and after the first occurrence of a character. -/
def cut? (s : String) (separator : Char) : Option (String × String) :=
  (cutChars separator s.toList).map fun cut =>
    (String.ofList cut.1, String.ofList cut.2)

/-- What follows the beginning of a text. -/
def after? (s beginning : String) : Option String :=
  (beginning.toList.isPrefixOf? s.toList).map String.ofList

section Lemmas

theorem occursIn_iff (part whole : List Char) :
    occursIn part whole = true ↔ ∃ before after, whole = before ++ part ++ after := by
  induction whole with
  | nil =>
      rw [occursIn, List.isEmpty_iff]
      constructor
      · rintro rfl
        exact ⟨[], [], rfl⟩
      · rintro ⟨before, after, h⟩
        simp only [List.append_assoc, List.nil_eq, List.append_eq_nil_iff] at h
        exact h.2.1
  | cons c rest ih =>
      rw [occursIn, Bool.or_eq_true, ih, List.isPrefixOf_iff_prefix]
      constructor
      · rintro (⟨after, h⟩ | ⟨before, after, h⟩)
        · exact ⟨[], after, by simpa using h.symm⟩
        · exact ⟨c :: before, after, by simp [h]⟩
      · rintro ⟨before, after, h⟩
        cases before with
        | nil => exact .inl ⟨after, by simpa using h.symm⟩
        | cons b before =>
            simp only [List.cons_append, List.cons.injEq] at h
            exact .inr ⟨before, after, h.2⟩

theorem cutChars_eq_some_iff (separator : Char) (cs before after : List Char) :
    cutChars separator cs = some (before, after) ↔
      cs = before ++ separator :: after ∧ separator ∉ before := by
  induction cs generalizing before with
  | nil => simp [cutChars]
  | cons c rest ih =>
      rw [cutChars]
      split
      · rename_i heq
        subst heq
        cases before with
        | nil => simp
        | cons b before => simp; rintro rfl; simp
      · rename_i hne
        cases before with
        | nil => simp [hne]
        | cons b before =>
            rw [Option.map_eq_some_iff]
            constructor
            · rintro ⟨⟨x, y⟩, hxy, heq⟩
              cases heq
              obtain ⟨rfl, hmem⟩ := (ih x).mp hxy
              exact ⟨rfl, by simp [hmem, Ne.symm hne]⟩
            · rintro ⟨heq, hmem⟩
              simp only [List.cons_append, List.cons.injEq] at heq
              refine ⟨(before, after), (ih before).mpr ⟨heq.2, ?_⟩, by simp [heq.1]⟩
              exact fun hin => hmem (List.mem_cons_of_mem _ hin)

end Lemmas

end Text
end DesiredState
