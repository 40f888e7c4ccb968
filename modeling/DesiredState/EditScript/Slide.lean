import DesiredState.EditScript.Build

/-!
# Sliding insertions

**Rule.** Inserted items that end like the kept items before them can as well be
inserted earlier, and inserted items that begin like the kept items after them can
as well be inserted later. Each insertion is moved up as far as it goes, which
unites it with other insertions on its way, and then down as far as it goes.

**Results.** The sides of a script do not change.
-/

namespace DesiredState
namespace EditScript

universe u

variable {α : Type u} [DecidableEq α]

/-- An insertion in its script, between what comes before it, the nearest segment
first, and what comes after it. -/
structure Slider (α : Type u) where
  before : List (Segment α)
  items : List α
  after : List (Segment α)

namespace Slider

/-- Put kept items in front of some segments. -/
def keepFirst (items : List α) : List (Segment α) → List (Segment α)
  | .keep others :: rest => .keep (items ++ others) :: rest
  | segments => .keep items :: segments

/-- Put kept items behind some segments, of which the last comes first. -/
def keepLast (items : List α) : List (Segment α) → List (Segment α)
  | .keep others :: rest => .keep (others ++ items) :: rest
  | segments => .keep items :: segments

/-- How many steps some segments can be moved past. -/
def weight : List (Segment α) → Nat
  | [] => 0
  | .keep items :: rest => items.length + 1 + weight rest
  | _ :: rest => 1 + weight rest

omit [DecidableEq α] in
theorem weight_keeping_lt {fewer items : List α} (rest : List (Segment α))
    (h : fewer.length < items.length) :
    weight (keeping fewer ++ rest) < weight (.keep items :: rest) := by
  unfold keeping
  split
  · simp [weight]
  · simp [weight, h]

theorem length_take_lt {others items : List α} (h : 0 < commonSuffix others items) :
    (others.take (others.length - commonSuffix others items)).length <
      others.length := by
  have hle := commonSuffix_le_left others items
  rw [List.length_take]
  omega

theorem length_drop_lt {others items : List α} (h : 0 < commonPrefix others items) :
    (others.drop (commonPrefix others items)).length < others.length := by
  have hle := commonPrefix_le_left others items
  rw [List.length_drop]
  omega

/-- Move an insertion up as far as it goes. -/
def up (before : List (Segment α)) (items : List α) (after : List (Segment α)) :
    Slider α :=
  match before with
  | [] => ⟨[], items, after⟩
  | .delete others :: rest => up rest items (.delete others :: after)
  | .insert others :: rest => up rest (others ++ items) after
  | .keep others :: rest =>
      let n := commonSuffix others items
      if 0 < n then
        let moved := items.drop (items.length - n)
        up (keeping (others.take (others.length - n)) ++ rest)
          (moved ++ items.take (items.length - n)) (keepFirst moved after)
      else ⟨.keep others :: rest, items, after⟩
termination_by weight before
decreasing_by
  · simp [weight]
  · simp [weight]
  · exact weight_keeping_lt rest (length_take_lt ‹_›)

/-- Move an insertion down as far as it goes. -/
def down (before : List (Segment α)) (items : List α) (after : List (Segment α)) :
    Slider α :=
  match after with
  | [] => ⟨before, items, []⟩
  | .delete others :: rest => down (.delete others :: before) items rest
  | .insert others :: rest => down before (items ++ others) rest
  | .keep others :: rest =>
      let n := commonPrefix others items
      if 0 < n then
        let moved := items.take n
        down (keepLast moved before) (items.drop n ++ moved)
          (keeping (others.drop n) ++ rest)
      else ⟨before, items, .keep others :: rest⟩
termination_by weight after
decreasing_by
  · simp [weight]
  · simp [weight]
  · exact weight_keeping_lt rest (length_drop_lt ‹_›)

/-- How many of some segments insert items. -/
def insertions (segments : List (Segment α)) : Nat :=
  segments.countP Segment.isInsert

omit [DecidableEq α] in
theorem insertions_keepFirst (items : List α) (segments : List (Segment α)) :
    insertions (keepFirst items segments) = insertions segments := by
  unfold keepFirst insertions
  split <;> simp [Segment.isInsert]

omit [DecidableEq α] in
theorem insertions_keeping_append (items : List α) (segments : List (Segment α)) :
    insertions (keeping items ++ segments) = insertions segments := by
  unfold keeping insertions
  split <;> simp [Segment.isInsert]

theorem insertions_after_up (before : List (Segment α)) (items : List α)
    (after : List (Segment α)) :
    insertions (up before items after).after = insertions after := by
  fun_induction up before items after with
  | case1 => rfl
  | case2 items after others rest ih => simpa [insertions, Segment.isInsert] using ih
  | case3 items after others rest ih => exact ih
  | case4 items after others rest n hn moved ih =>
      rw [ih, insertions_keepFirst]
  | case5 => rfl

theorem insertions_after_down_le (before : List (Segment α)) (items : List α)
    (after : List (Segment α)) :
    insertions (down before items after).after ≤ insertions after := by
  fun_induction down before items after with
  | case1 => exact Nat.le_refl _
  | case2 before items others rest ih => simpa [insertions, Segment.isInsert] using ih
  | case3 before items others rest ih =>
      exact Nat.le_trans ih (by simp [insertions, List.countP_cons])
  | case4 before items others rest n hn moved ih =>
      rw [insertions_keeping_append] at ih
      simpa [insertions, Segment.isInsert] using ih
  | case5 => exact Nat.le_refl _

/-- Move an insertion up and then down, each as far as it goes. -/
def slide (before : List (Segment α)) (items : List α) (after : List (Segment α)) :
    Slider α :=
  let top := up before items after
  down top.before top.items top.after

theorem insertions_after_slide_le (before : List (Segment α)) (items : List α)
    (after : List (Segment α)) :
    insertions (slide before items after).after ≤ insertions after := by
  have h := insertions_after_down_le (up before items after).before
    (up before items after).items (up before items after).after
  rw [insertions_after_up] at h
  exact h

end Slider

open Slider

/-- Slide every insertion among the segments that come after some others, of which
the nearest comes first. -/
def slideAll (before : List (Segment α)) (after : List (Segment α)) :
    List (Segment α) :=
  match after with
  | [] => before.reverse
  | .insert items :: rest =>
      slideAll (.insert (slide before items rest).items :: (slide before items rest).before)
        (slide before items rest).after
  | .keep items :: rest => slideAll (.keep items :: before) rest
  | .delete items :: rest => slideAll (.delete items :: before) rest
termination_by (insertions after, after.length)
decreasing_by
  · apply Prod.Lex.left
    have h := insertions_after_slide_le before items rest
    simp only [insertions, List.countP_cons, Segment.isInsert] at h ⊢
    simp only [if_true]
    omega
  · apply Prod.Lex.right'
    · simp [insertions, Segment.isInsert]
    · simp
  · apply Prod.Lex.right'
    · simp [insertions, Segment.isInsert]
    · simp

section Sides

omit [DecidableEq α] in
@[simp] theorem oldSide_keepFirst (items : List α) (segments : List (Segment α)) :
    oldSide (keepFirst items segments) = items ++ oldSide segments := by
  unfold keepFirst
  split <;> simp [Segment.old]

omit [DecidableEq α] in
@[simp] theorem newSide_keepFirst (items : List α) (segments : List (Segment α)) :
    newSide (keepFirst items segments) = items ++ newSide segments := by
  unfold keepFirst
  split <;> simp [Segment.new]

omit [DecidableEq α] in
@[simp] theorem oldSide_reverse_keepLast (items : List α) (segments : List (Segment α)) :
    oldSide (keepLast items segments).reverse = oldSide segments.reverse ++ items := by
  unfold keepLast
  split <;> simp [Segment.old]

omit [DecidableEq α] in
@[simp] theorem newSide_reverse_keepLast (items : List α) (segments : List (Segment α)) :
    newSide (keepLast items segments).reverse = newSide segments.reverse ++ items := by
  unfold keepLast
  split <;> simp [Segment.new]

omit [DecidableEq α] in
@[simp] theorem reverse_keeping (items : List α) :
    (keeping items).reverse = keeping items := by
  unfold keeping
  split <;> rfl

theorem oldSide_up (before : List (Segment α)) (items : List α)
    (after : List (Segment α)) :
    oldSide (up before items after).before.reverse ++
        oldSide (up before items after).after =
      oldSide before.reverse ++ oldSide after := by
  fun_induction up before items after with
  | case1 => rfl
  | case2 items after others rest ih => simp [ih, Segment.old]
  | case3 items after others rest ih => simp [ih, Segment.old]
  | case4 items after others rest n hn moved ih =>
      have h : others.take (others.length - n) ++ moved = others := by
        rw [show moved = others.drop (others.length - n) from
          (drop_commonSuffix others items).symm, List.take_append_drop]
      rw [ih]
      simp only [List.reverse_append, reverse_keeping, oldSide_append, oldSide_keeping,
        oldSide_keepFirst, List.reverse_cons, oldSide_cons, oldSide_nil, Segment.old,
        List.append_nil]
      conv => rhs; rw [← h]
      simp only [List.append_assoc]
  | case5 => rfl

theorem newSide_up (before : List (Segment α)) (items : List α)
    (after : List (Segment α)) :
    newSide (up before items after).before.reverse ++
        ((up before items after).items ++ newSide (up before items after).after) =
      newSide before.reverse ++ (items ++ newSide after) := by
  fun_induction up before items after with
  | case1 => rfl
  | case2 items after others rest ih => simp [ih, Segment.new]
  | case3 items after others rest ih => simp [ih, Segment.new]
  | case4 items after others rest n hn moved ih =>
      have ho : others.take (others.length - n) ++ moved = others := by
        rw [show moved = others.drop (others.length - n) from
          (drop_commonSuffix others items).symm, List.take_append_drop]
      have hi : items.take (items.length - n) ++ moved = items :=
        List.take_append_drop _ _
      rw [ih]
      simp only [List.reverse_append, reverse_keeping, newSide_append, newSide_keeping,
        newSide_keepFirst, List.reverse_cons, newSide_cons, newSide_nil, Segment.new,
        List.append_nil]
      conv => rhs; rw [← ho, ← hi]
      simp only [List.append_assoc]
  | case5 => rfl

theorem oldSide_down (before : List (Segment α)) (items : List α)
    (after : List (Segment α)) :
    oldSide (down before items after).before.reverse ++
        oldSide (down before items after).after =
      oldSide before.reverse ++ oldSide after := by
  fun_induction down before items after with
  | case1 => rfl
  | case2 before items others rest ih => simp [ih, Segment.old]
  | case3 before items others rest ih => simp [ih, Segment.old]
  | case4 before items others rest n hn moved ih =>
      have h : moved ++ others.drop n = others := by
        rw [show moved = others.take n from (take_commonPrefix others items).symm,
          List.take_append_drop]
      rw [ih]
      simp only [oldSide_append, oldSide_keeping, oldSide_reverse_keepLast, oldSide_cons,
        Segment.old]
      conv => rhs; rw [← h]
      simp only [List.append_assoc]
  | case5 => rfl

theorem newSide_down (before : List (Segment α)) (items : List α)
    (after : List (Segment α)) :
    newSide (down before items after).before.reverse ++
        ((down before items after).items ++ newSide (down before items after).after) =
      newSide before.reverse ++ (items ++ newSide after) := by
  fun_induction down before items after with
  | case1 => rfl
  | case2 before items others rest ih => simp [ih, Segment.new]
  | case3 before items others rest ih => simp [ih, Segment.new]
  | case4 before items others rest n hn moved ih =>
      have ho : moved ++ others.drop n = others := by
        rw [show moved = others.take n from (take_commonPrefix others items).symm,
          List.take_append_drop]
      have hi : moved ++ items.drop n = items := List.take_append_drop _ _
      rw [ih]
      simp only [newSide_append, newSide_keeping, newSide_reverse_keepLast, newSide_cons,
        Segment.new]
      conv => rhs; rw [← ho, ← hi]
      simp only [List.append_assoc]
  | case5 => rfl

theorem oldSide_slide (before : List (Segment α)) (items : List α)
    (after : List (Segment α)) :
    oldSide (slide before items after).before.reverse ++
        oldSide (slide before items after).after =
      oldSide before.reverse ++ oldSide after := by
  rw [slide, oldSide_down, oldSide_up]

theorem newSide_slide (before : List (Segment α)) (items : List α)
    (after : List (Segment α)) :
    newSide (slide before items after).before.reverse ++
        ((slide before items after).items ++ newSide (slide before items after).after) =
      newSide before.reverse ++ (items ++ newSide after) := by
  rw [slide, newSide_down, newSide_up]

theorem oldSide_slideAll (before after : List (Segment α)) :
    oldSide (slideAll before after) = oldSide before.reverse ++ oldSide after := by
  fun_induction slideAll before after with
  | case1 => simp
  | case2 before items rest ih =>
      rw [ih]
      simp only [List.reverse_cons, oldSide_append, oldSide_cons, Segment.old,
        oldSide_nil, List.nil_append, List.append_nil]
      exact oldSide_slide before items rest
  | case3 before items rest ih => simp [ih, Segment.old]
  | case4 before items rest ih => simp [ih, Segment.old]

theorem newSide_slideAll (before after : List (Segment α)) :
    newSide (slideAll before after) = newSide before.reverse ++ newSide after := by
  fun_induction slideAll before after with
  | case1 => simp
  | case2 before items rest ih =>
      rw [ih]
      simp only [List.reverse_cons, newSide_append, newSide_cons, Segment.new,
        newSide_nil, List.append_nil, List.append_assoc]
      exact newSide_slide before items rest
  | case3 before items rest ih => simp [ih, Segment.new]
  | case4 before items rest ih => simp [ih, Segment.new]

end Sides

end EditScript
end DesiredState
