/-!
# Blank characters

**Input.** Characters and texts.

**Rule.** A character is blank when Unicode gives it the property White_Space.
Trimming removes the blank characters at both ends of a text, and a text is
blank when nothing else is in it.

**Results.** Trimming a text leaves the empty text exactly when the text is
blank.
-/

namespace DesiredState
namespace Text

/-- The code points with the property White_Space, as closed ranges in
increasing order. -/
def blankRanges : List (Nat × Nat) :=
  [(0x09, 0x0D), (0x20, 0x20), (0x85, 0x85), (0xA0, 0xA0), (0x1680, 0x1680),
    (0x2000, 0x200A), (0x2028, 0x2029), (0x202F, 0x202F), (0x205F, 0x205F),
    (0x3000, 0x3000)]

/-- A character with the property White_Space. -/
def isBlank (c : Char) : Bool :=
  blankRanges.any fun range => range.1 ≤ c.toNat && c.toNat ≤ range.2

/-- The characters without the blank ones at both ends. -/
def trimChars (cs : List Char) : List Char :=
  ((cs.dropWhile isBlank).reverse.dropWhile isBlank).reverse

/-- The text without the blank characters at both ends. -/
def trim (s : String) : String :=
  String.ofList (trimChars s.toList)

/-- A text in which every character is blank; the empty text is one. -/
def isBlankText (s : String) : Bool :=
  s.toList.all isBlank

section Lemmas

theorem dropWhile_eq_nil_iff_all {α : Type} (p : α → Bool) (xs : List α) :
    xs.dropWhile p = [] ↔ xs.all p = true := by
  induction xs with
  | nil => simp
  | cons x rest ih =>
      by_cases h : p x = true
      · rw [List.dropWhile_cons_of_pos h, ih, List.all_cons, h, Bool.true_and]
      · simp [h]

/-- What is dropped in front does not decide whether the whole is blank. -/
theorem all_dropWhile {α : Type} (p : α → Bool) (xs : List α) :
    (xs.dropWhile p).all p = xs.all p := by
  induction xs with
  | nil => rfl
  | cons x rest ih =>
      by_cases h : p x = true
      · simpa [h] using ih
      · simp [h]

theorem trimChars_eq_nil_iff (cs : List Char) :
    trimChars cs = [] ↔ cs.all isBlank = true := by
  rw [trimChars, List.reverse_eq_nil_iff, dropWhile_eq_nil_iff_all,
    List.all_reverse, all_dropWhile]

/-- Trimming leaves nothing exactly when the text is blank. -/
theorem trim_eq_empty_iff (s : String) :
    trim s = "" ↔ isBlankText s = true := by
  rw [isBlankText, ← trimChars_eq_nil_iff, trim, ← String.toList_inj,
    String.toList_ofList]
  rfl

end Lemmas

end Text
end DesiredState
