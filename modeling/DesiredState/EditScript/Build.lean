import DesiredState.EditScript.Frontier

/-!
# Building an edit script

**Algorithm.** What both lists begin and end with in common is kept. If one of them
is used up by then, the rest of the other is deleted or inserted. Otherwise both are
split at a point on a shortest path, and the two parts are treated alike.

**Results.** The script leads from the old list to the new one.
-/

namespace DesiredState
namespace EditScript

universe u

variable {α : Type u} [DecidableEq α]

/-- A point splits two lists into parts that are smaller than the whole. -/
def IsProperSplit (old new : List α) (point : Nat × Nat) : Prop :=
  0 < point.1 + point.2 ∧ point.1 ≤ old.length ∧ point.2 ≤ new.length ∧
    point.1 + point.2 < old.length + new.length

instance (old new : List α) (point : Nat × Nat) :
    Decidable (IsProperSplit old new point) :=
  inferInstanceAs (Decidable (_ ∧ _))

/-- The items between the common beginning and the common end of two lists. -/
def core (items : List α) (before after : Nat) : List α :=
  (items.drop before).take (items.length - before - after)

omit [DecidableEq α] in
theorem length_core_le (items : List α) (before after : Nat) :
    (core items before after).length ≤ items.length := by
  simp only [core, List.length_take, List.length_drop]
  omega

omit [DecidableEq α] in
theorem IsProperSplit.length_take_lt {oldCore newCore old new : List α}
    {point : Nat × Nat} (h : IsProperSplit oldCore newCore point)
    (ho : oldCore.length ≤ old.length) (hn : newCore.length ≤ new.length) :
    (oldCore.take point.1).length + (newCore.take point.2).length <
      old.length + new.length := by
  obtain ⟨h0, h1, h2, h3⟩ := h
  simp only [List.length_take]
  omega

omit [DecidableEq α] in
theorem IsProperSplit.length_drop_lt {oldCore newCore old new : List α}
    {point : Nat × Nat} (h : IsProperSplit oldCore newCore point)
    (ho : oldCore.length ≤ old.length) (hn : newCore.length ≤ new.length) :
    (oldCore.drop point.1).length + (newCore.drop point.2).length <
      old.length + new.length := by
  obtain ⟨h0, h1, h2, h3⟩ := h
  simp only [List.length_drop]
  omega

/-- The script between two lists. -/
def between (old new : List α) : List (Segment α) :=
  let before := commonPrefix old new
  let after := commonSuffix (old.drop before) (new.drop before)
  let oldCore := core old before after
  let newCore := core new before after
  let middle :=
    if oldCore.isEmpty || newCore.isEmpty then
      deleting oldCore ++ inserting newCore
    else
      match splitPoint? oldCore newCore with
      | none => deleting oldCore ++ inserting newCore
      | some point =>
          if IsProperSplit oldCore newCore point then
            between (oldCore.take point.1) (newCore.take point.2) ++
              between (oldCore.drop point.1) (newCore.drop point.2)
          else deleting oldCore ++ inserting newCore
  keeping (old.take before) ++ middle ++ keeping (old.drop (old.length - after))
termination_by old.length + new.length
decreasing_by
  · exact IsProperSplit.length_take_lt ‹_› (length_core_le ..) (length_core_le ..)
  · exact IsProperSplit.length_drop_lt ‹_› (length_core_le ..) (length_core_le ..)

section Sides

omit [DecidableEq α] in
theorem drop_eq_drop_drop (items : List α) {before after : Nat}
    (hb : before ≤ items.length) (ha : after ≤ items.length - before) :
    items.drop (items.length - after) =
      (items.drop before).drop (items.length - before - after) := by
  rw [List.drop_drop]
  congr 1
  omega

omit [DecidableEq α] in
theorem take_append_core (items : List α) {before after : Nat}
    (hb : before ≤ items.length) (ha : after ≤ items.length - before) :
    items.take before ++
      (core items before after ++ items.drop (items.length - after)) = items := by
  rw [core, drop_eq_drop_drop items hb ha, List.take_append_drop, List.take_append_drop]

/-- The kept and deleted items are the old list. -/
theorem oldSide_between (old new : List α) : oldSide (between old new) = old := by
  fun_induction between old new with
  | case1 old new before after oldCore newCore middle ih1 ih2 =>
      have hmiddle : oldSide middle = oldCore := by
        simp only [middle]
        split
        · simp
        · split
          · simp
          · rename_i point _
            split
            · rename_i h
              simp [ih1 point h, ih2 point h]
            · simp
      have ha := commonSuffix_le_left (old.drop before) (new.drop before)
      rw [List.length_drop] at ha
      simp only [oldSide_append, oldSide_keeping, hmiddle, List.append_assoc]
      exact take_append_core old (commonPrefix_le_left old new) ha

/-- The kept and inserted items are the new list. -/
theorem newSide_between (old new : List α) : newSide (between old new) = new := by
  fun_induction between old new with
  | case1 old new before after oldCore newCore middle ih1 ih2 =>
      have hmiddle : newSide middle = newCore := by
        simp only [middle]
        split
        · simp
        · split
          · simp
          · rename_i point _
            split
            · rename_i h
              simp [ih1 point h, ih2 point h]
            · simp
      have ho := commonSuffix_le_left (old.drop before) (new.drop before)
      have hn := commonSuffix_le_right (old.drop before) (new.drop before)
      have htake : old.take before = new.take before := take_commonPrefix old new
      have hdrop := drop_commonSuffix (old.drop before) (new.drop before)
      rw [List.length_drop] at ho hn
      have hbo := commonPrefix_le_left old new
      have hbn := commonPrefix_le_right old new
      rw [List.length_drop, List.length_drop, ← drop_eq_drop_drop old hbo ho,
        ← drop_eq_drop_drop new hbn hn] at hdrop
      simp only [newSide_append, newSide_keeping, hmiddle, List.append_assoc]
      rw [htake, show old.drop (old.length - after) = new.drop (new.length - after)
        from hdrop]
      exact take_append_core new hbn hn

end Sides

end EditScript
end DesiredState
