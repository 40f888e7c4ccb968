import DesiredState.EditScript.Slide

/-!
# Computing an edit script

**Algorithm.** A script is built between two lists, its insertions are slid into
place, and between two kept segments all deletions are put before the insertions.

**Results.** The script leads from the old list to the new one.
-/

namespace DesiredState
namespace EditScript

universe u

variable {α : Type u}

/-- Put the deletions between two kept segments before the insertions; `deleted` and
`inserted` are those that have been passed since the last kept segment. -/
def arrange (deleted inserted : List α) : List (Segment α) → List (Segment α)
  | [] => deleting deleted ++ inserting inserted
  | .keep items :: rest =>
      deleting deleted ++ inserting inserted ++ .keep items :: arrange [] [] rest
  | .delete items :: rest => arrange (deleted ++ items) inserted rest
  | .insert items :: rest => arrange deleted (inserted ++ items) rest

theorem oldSide_arrange (deleted inserted : List α) (script : List (Segment α)) :
    oldSide (arrange deleted inserted script) = deleted ++ oldSide script := by
  fun_induction arrange deleted inserted script with
  | case1 => simp
  | case2 deleted inserted items rest ih => simp [ih, Segment.old]
  | case3 deleted inserted items rest ih => simp [ih, Segment.old]
  | case4 deleted inserted items rest ih => simp [ih, Segment.old]

theorem newSide_arrange (deleted inserted : List α) (script : List (Segment α)) :
    newSide (arrange deleted inserted script) = inserted ++ newSide script := by
  fun_induction arrange deleted inserted script with
  | case1 => simp
  | case2 deleted inserted items rest ih => simp [ih, Segment.new]
  | case3 deleted inserted items rest ih => simp [ih, Segment.new]
  | case4 deleted inserted items rest ih => simp [ih, Segment.new]

variable [DecidableEq α]

/-- The edit script that leads from one list to another. -/
def compute (old new : List α) : List (Segment α) :=
  arrange [] [] (slideAll [] (between old new))

/-- The kept and deleted items of a computed script are the old list. -/
theorem oldSide_compute (old new : List α) : oldSide (compute old new) = old := by
  simp [compute, oldSide_arrange, oldSide_slideAll, oldSide_between]

/-- The kept and inserted items of a computed script are the new list. -/
theorem newSide_compute (old new : List α) : newSide (compute old new) = new := by
  simp [compute, newSide_arrange, newSide_slideAll, newSide_between]

end EditScript
end DesiredState
