import DesiredState.Path
import DesiredState.Text.Lines
import Mathlib.Data.List.Basic

/-!
# Pieces between separators

**Input.** A text that is cut at every slash, or at every line feed.

**Idea.** Both cuts go on from one character to the next as `List.splitOn` does, so they are
that cut, and share what is known of it.

**Results.**
* `eq_splitOn`: a cut that goes on as `List.splitOn` does.
* `piecesOfChars_eq_splitOn`, `piecesAtLineFeed_eq_splitOn`: the two cuts.
* `not_mem_of_mem_splitOn`: no piece has a separator.
* `length_splitOn`: there is one piece more than there are separators.
-/

namespace DesiredState

section Splitting

variable {separator : Char} {cs piece : List Char}

/-- A cut that opens a piece at each separator, and puts every other character into the
piece behind it. -/
theorem eq_splitOn {cut : List Char → List (List Char)} (hnil : cut [] = [[]])
    (hcut : ∀ rest, cut (separator :: rest) = [] :: cut rest)
    (hput : ∀ c rest piece pieces, c ≠ separator → cut rest = piece :: pieces →
      cut (c :: rest) = (c :: piece) :: pieces) (cs : List Char) :
    cut cs = cs.splitOn separator := by
  induction cs with
  | nil => rw [hnil, List.splitOn_nil]
  | cons c rest ih =>
      rw [List.splitOn_cons_eq_if_modifyHead]
      by_cases hc : c = separator
      · rw [if_pos (beq_iff_eq.mpr hc), hc, hcut, ih]
      · obtain ⟨piece, pieces, hpieces⟩ :=
          List.exists_cons_of_ne_nil (List.splitOn_ne_nil separator rest)
        rw [if_neg (mt beq_iff_eq.mp hc), hpieces, hput c rest piece pieces hc (ih.trans hpieces)]
        rfl

theorem not_mem_of_mem_splitOn (h : piece ∈ cs.splitOn separator) : separator ∉ piece := by
  induction cs generalizing piece with
  | nil =>
      rw [List.splitOn_nil, List.mem_singleton] at h
      simp [h]
  | cons c rest ih =>
      rw [List.splitOn_cons_eq_if_modifyHead] at h
      split at h
      · rcases List.mem_cons.mp h with rfl | hrest
        · exact List.not_mem_nil
        · exact ih hrest
      · rename_i hc
        obtain ⟨first, pieces, hpieces⟩ :=
          List.exists_cons_of_ne_nil (List.splitOn_ne_nil separator rest)
        rw [hpieces] at h ih
        rcases List.mem_cons.mp h with rfl | hrest
        · have hne : separator ≠ c := fun heq => hc (beq_iff_eq.mpr heq.symm)
          exact List.not_mem_cons_of_ne_of_not_mem hne (ih List.mem_cons_self)
        · exact ih (List.mem_cons_of_mem first hrest)

theorem length_splitOn (separator : Char) (cs : List Char) :
    (cs.splitOn separator).length = cs.count separator + 1 := by
  induction cs with
  | nil => rfl
  | cons c rest ih =>
      rw [List.splitOn_cons_eq_if_modifyHead]
      split
      · rename_i hc
        rw [List.length_cons, ih, beq_iff_eq.mp hc, List.count_cons_self]
      · rename_i hc
        rw [List.length_modifyHead, ih, List.count_cons_of_ne (mt beq_iff_eq.mpr hc)]

end Splitting

section Cuts

/-- The pieces between slashes. -/
theorem Path.piecesOfChars_eq_splitOn (cs : List Char) : piecesOfChars cs = cs.splitOn '/' := by
  refine eq_splitOn rfl (fun rest => rfl) ?_ cs
  intro c rest piece pieces hc hpieces
  rw [piecesOfChars, if_neg hc, hpieces]

/-- The pieces between line feeds. -/
theorem Text.piecesAtLineFeed_eq_splitOn (cs : List Char) :
    piecesAtLineFeed cs = cs.splitOn '\n' := by
  refine eq_splitOn rfl (fun rest => rfl) ?_ cs
  intro c rest piece pieces hc hpieces
  rw [piecesAtLineFeed, if_neg hc, hpieces]

end Cuts

end DesiredState
