import DesiredState.Template.Placeholder
import Mathlib.Data.List.TakeWhile

/-!
# Occurrences of placeholders

**Syntax.** A placeholder is two opening braces, blanks, a name, blanks, and two
closing braces. An occurrence is a placeholder that stands at a place of a text.

**Results.**
* `leading?_eq_some_iff`: reading at the front of a text finds the placeholder
  that stands there, and there is one at most.
* `standsIn_iff`: the occurrences of a text are what is read at its places.
* `StandsIn.disjoint`: distinct occurrences have no place in common, since the
  only opening braces of a placeholder are its first two characters.
-/

namespace DesiredState
namespace Template

section Syntax

/-- A name: a first character, and others after it. -/
inductive IsName : List Char → Prop
  | cons {first : Char} {rest : List Char} :
      isNameStart first = true →
      (∀ c ∈ rest, isNameChar c = true) →
      IsName (first :: rest)

/-- A placeholder as it is written, and the name in it. -/
inductive IsPlaceholder : List Char → List Char → Prop
  | braces {left name right : List Char} :
      (∀ c ∈ left, Text.isBlank c = true) →
      IsName name →
      (∀ c ∈ right, Text.isBlank c = true) →
      IsPlaceholder (['{', '{'] ++ left ++ name ++ right ++ ['}', '}']) name

end Syntax

section Characters

theorem isNameChar_of_isNameStart {c : Char} (h : isNameStart c = true) :
    isNameChar c = true := by
  simp only [isNameStart, Bool.or_eq_true, decide_eq_true_eq] at h
  simp only [isNameChar, Char.isAlphanum, Bool.or_eq_true, decide_eq_true_eq]
  rcases h with h | h
  · exact .inl (.inl (.inl h))
  · exact .inl (.inr h)

theorem toNat_of_isNameChar {c : Char} (h : isNameChar c = true) :
    0x2E ≤ c.toNat ∧ c.toNat ≤ 0x7A := by
  simp only [isNameChar, Bool.or_eq_true, decide_eq_true_eq] at h
  rcases h with (halphanum | rfl) | rfl
  · have hranges : (decide (c.val ≥ 65 ∧ c.val ≤ 90) ||
        (decide (c.val ≥ 97) && decide (c.val ≤ 122)) ||
        (decide (c.val ≥ 48) && decide (c.val ≤ 57))) = true := halphanum
    simp only [Bool.or_eq_true, Bool.and_eq_true, decide_eq_true_eq, ge_iff_le,
      UInt32.le_iff_toNat_le] at hranges
    change ((65 ≤ c.toNat ∧ c.toNat ≤ 90) ∨ (97 ≤ c.toNat ∧ c.toNat ≤ 122)) ∨
      (48 ≤ c.toNat ∧ c.toNat ≤ 57) at hranges
    omega
  · decide
  · decide

theorem toNat_of_isBlank {c : Char} (h : Text.isBlank c = true) :
    c.toNat ≤ 0x20 ∨ 0x85 ≤ c.toNat := by
  simp only [Text.isBlank, Text.blankRanges, List.any_cons, List.any_nil,
    Bool.or_eq_true, Bool.and_eq_true, decide_eq_true_eq, Bool.false_eq_true,
    or_false] at h
  omega

theorem isBlank_of_isNameChar {c : Char} (h : isNameChar c = true) :
    Text.isBlank c = false := by
  have hname := toNat_of_isNameChar h
  rw [← Bool.not_eq_true]
  intro hblank
  have := toNat_of_isBlank hblank
  omega

theorem isNameChar_of_isBlank {c : Char} (h : Text.isBlank c = true) :
    isNameChar c = false := by
  rw [← Bool.not_eq_true]
  intro hname
  rw [isBlank_of_isNameChar hname] at h
  cases h

theorem ne_brace_of_isNameChar {c : Char} (h : isNameChar c = true) : c ≠ '{' := by
  rintro rfl
  exact absurd h (by decide)

theorem ne_brace_of_isBlank {c : Char} (h : Text.isBlank c = true) : c ≠ '{' := by
  rintro rfl
  exact absurd h (by decide)

end Characters

section Reading

theorem isPlaceholder_of_leading? {cs written name rest : List Char}
    (h : leading? cs = some (written, name, rest)) : IsPlaceholder written name := by
  unfold leading? at h
  split at h
  · rename_i inside
    dsimp only at h
    split at h
    · rename_i first more tail hname htail
      split at h
      · rename_i hstart
        simp only [Option.some.injEq, Prod.mk.injEq] at h
        obtain ⟨rfl, rfl, rfl⟩ := h
        refine .braces ?_ ?_ ?_
        · intro c hc
          exact List.mem_takeWhile_imp hc
        · rw [hname]
          refine .cons hstart ?_
          intro c hc
          have hmem : c ∈ (inside.dropWhile Text.isBlank).takeWhile isNameChar :=
            hname ▸ List.mem_cons_of_mem _ hc
          exact List.mem_takeWhile_imp hmem
        · intro c hc
          exact List.mem_takeWhile_imp hc
      · cases h
    · cases h
  · cases h

theorem leading?_of_isPlaceholder {written name : List Char}
    (h : IsPlaceholder written name) (rest : List Char) :
    leading? (written ++ rest) = some (written, name, rest) := by
  cases h with
  | @braces left name right hleft hname hright =>
      cases hname with
      | @cons first more hstart hmore =>
          have hfirst := isNameChar_of_isNameStart hstart
          have hall : ∀ c ∈ first :: more, isNameChar c = true := by
            intro c hc
            rcases List.mem_cons.mp hc with rfl | hc
            · exact hfirst
            · exact hmore c hc
          have hbrace : isNameChar '}' = false := by decide
          have hclose : Text.isBlank '}' = false := by decide
          -- What follows the name starts with a blank or a closing brace.
          have hend : ∀ tail : List Char,
              (right ++ '}' :: tail).takeWhile isNameChar = [] ∧
                (right ++ '}' :: tail).dropWhile isNameChar = right ++ '}' :: tail := by
            intro tail
            cases right with
            | nil => simp [hbrace]
            | cons c cs =>
                have hc := isNameChar_of_isBlank (hright c List.mem_cons_self)
                simp [hc]
          have hinside : ['{', '{'] ++ left ++ (first :: more) ++ right ++ ['}', '}'] ++ rest =
              '{' :: '{' :: (left ++ ((first :: more) ++ (right ++ '}' :: '}' :: rest))) := by
            simp
          rw [hinside, leading?]
          rw [List.takeWhile_append_of_pos hleft, List.dropWhile_append_of_pos hleft,
            List.cons_append, List.takeWhile_cons_of_neg (by simp [isBlank_of_isNameChar hfirst]),
            List.dropWhile_cons_of_neg (by simp [isBlank_of_isNameChar hfirst]),
            ← List.cons_append, List.takeWhile_append_of_pos hall,
            List.dropWhile_append_of_pos hall, (hend _).1, (hend _).2,
            List.takeWhile_append_of_pos hright, List.dropWhile_append_of_pos hright,
            List.takeWhile_cons_of_neg (by simp [hclose]),
            List.dropWhile_cons_of_neg (by simp [hclose])]
          simp [hstart]

/-- Reading at the front of a text finds the placeholder that stands there. -/
theorem leading?_eq_some_iff (cs written name rest : List Char) :
    leading? cs = some (written, name, rest) ↔
      IsPlaceholder written name ∧ cs = written ++ rest := by
  constructor
  · intro h
    exact ⟨isPlaceholder_of_leading? h, (leading?_written h).1⟩
  · rintro ⟨hplaceholder, rfl⟩
    exact leading?_of_isPlaceholder hplaceholder rest

theorem leading?_cons_of_ne {c : Char} (h : c ≠ '{') (cs : List Char) :
    leading? (c :: cs) = none := by
  unfold leading?
  split
  · rename_i heq
    cases heq
    exact absurd rfl h
  · rfl

theorem leading?_brace_of_ne {c : Char} (h : c ≠ '{') (cs : List Char) :
    leading? ('{' :: c :: cs) = none := by
  unfold leading?
  split
  · rename_i heq
    cases heq
    exact absurd rfl h
  · rfl

/-- The opening braces of a placeholder are its first two characters. -/
theorem IsPlaceholder.eq_cons {written name : List Char}
    (h : IsPlaceholder written name) :
    ∃ first inner, written = '{' :: '{' :: first :: inner ∧
      ∀ c ∈ first :: inner, c ≠ '{' := by
  cases h with
  | @braces left name right hleft hname hright =>
      have hne : ∀ c ∈ left ++ name ++ right ++ ['}', '}'], c ≠ '{' := by
        intro c hc
        simp only [List.mem_append] at hc
        rcases hc with ((hc | hc) | hc) | hc
        · exact ne_brace_of_isBlank (hleft c hc)
        · cases hname with
          | cons hstart hmore =>
              rcases List.mem_cons.mp hc with rfl | hc
              · exact ne_brace_of_isNameChar (isNameChar_of_isNameStart hstart)
              · exact ne_brace_of_isNameChar (hmore c hc)
        · exact ne_brace_of_isBlank (hright c hc)
        · rintro rfl
          simp at hc
      cases hrest : left ++ name ++ right ++ ['}', '}'] with
      | nil => simp at hrest
      | cons first inner =>
          refine ⟨first, inner, ?_, ?_⟩
          · rw [← hrest]
            simp
          · rw [← hrest]
            exact hne

/-- No placeholder starts inside another one. -/
theorem leading?_drop_eq_none {written name : List Char}
    (h : IsPlaceholder written name) (rest : List Char) {k : Nat} (hpos : 0 < k)
    (hlt : k < written.length) : leading? ((written ++ rest).drop k) = none := by
  obtain ⟨first, inner, rfl, hne⟩ := h.eq_cons
  match k, hpos with
  | 1, _ => exact leading?_brace_of_ne (hne first List.mem_cons_self) (inner ++ rest)
  | j + 2, _ =>
      have hj : j < (first :: inner).length := by
        simp only [List.length_cons] at hlt ⊢
        omega
      have hdrop : ('{' :: '{' :: first :: inner ++ rest).drop (j + 2) =
          (first :: inner)[j] :: ((first :: inner).drop (j + 1) ++ rest) := by
        rw [← List.cons_append, ← List.drop_eq_getElem_cons hj,
          ← List.drop_append_of_le_length (Nat.le_of_lt hj)]
        rfl
      rw [hdrop]
      exact leading?_cons_of_ne (hne _ (List.getElem_mem hj)) _

end Reading

/-- A placeholder at a place of a text. -/
structure Occurrence where
  start : Nat
  written : List Char
  name : List Char
deriving DecidableEq, Repr

namespace Occurrence

/-- The place behind the occurrence. -/
def stop (occurrence : Occurrence) : Nat :=
  occurrence.start + occurrence.written.length

/-- The placeholder stands in the text at its place. -/
structure StandsIn (occurrence : Occurrence) (source : List Char) : Prop where
  isPlaceholder : IsPlaceholder occurrence.written occurrence.name
  stands : occurrence.written <+: source.drop occurrence.start

theorem standsIn_iff (occurrence : Occurrence) (source : List Char) :
    occurrence.StandsIn source ↔
      ∃ rest, leading? (source.drop occurrence.start) =
        some (occurrence.written, occurrence.name, rest) := by
  constructor
  · rintro ⟨hplaceholder, rest, heq⟩
    exact ⟨rest, (leading?_eq_some_iff _ _ _ _).mpr ⟨hplaceholder, heq.symm⟩⟩
  · rintro ⟨rest, h⟩
    have ⟨hplaceholder, heq⟩ := (leading?_eq_some_iff _ _ _ _).mp h
    exact ⟨hplaceholder, rest, heq.symm⟩

section Disjointness

variable {source : List Char} {a b : Occurrence}

theorem StandsIn.eq_of_start_eq (ha : a.StandsIn source) (hb : b.StandsIn source)
    (h : a.start = b.start) : a = b := by
  obtain ⟨_, hreadA⟩ := (standsIn_iff a source).mp ha
  obtain ⟨_, hreadB⟩ := (standsIn_iff b source).mp hb
  rw [h, hreadB] at hreadA
  cases a
  cases b
  cases hreadA
  cases h
  rfl

theorem StandsIn.stop_le_of_lt (ha : a.StandsIn source) (hb : b.StandsIn source)
    (h : a.start < b.start) : a.stop ≤ b.start := by
  by_contra hlt
  obtain ⟨rest, heq⟩ := ha.stands
  obtain ⟨_, hread⟩ := (standsIn_iff b source).mp hb
  have hdrop : source.drop b.start = (a.written ++ rest).drop (b.start - a.start) := by
    rw [heq, List.drop_drop]
    congr 1
    omega
  have hinside : b.start - a.start < a.written.length := by
    unfold stop at hlt
    omega
  rw [hdrop, leading?_drop_eq_none ha.isPlaceholder rest (by omega) hinside] at hread
  cases hread

/-- Distinct occurrences have no place in common. -/
theorem StandsIn.disjoint (ha : a.StandsIn source) (hb : b.StandsIn source)
    (hne : a ≠ b) : a.stop ≤ b.start ∨ b.stop ≤ a.start := by
  rcases Nat.lt_trichotomy a.start b.start with h | h | h
  · exact .inl (ha.stop_le_of_lt hb h)
  · exact absurd (ha.eq_of_start_eq hb h) hne
  · exact .inr (hb.stop_le_of_lt ha h)

end Disjointness

end Occurrence

end Template
end DesiredState
