/-!
# Edit scripts

**Type.** An edit script leads from an old list to a new one. It is a list of
segments, each of which keeps, deletes or inserts some neighbouring items.

**Sides.** The kept and deleted items are the old list, the kept and inserted ones
the new list.
-/

namespace DesiredState
namespace EditScript

universe u

variable {α : Type u}

/-- A step of an edit script. -/
inductive Segment (α : Type u) where
  | keep (items : List α)
  | delete (items : List α)
  | insert (items : List α)
deriving DecidableEq, Repr

namespace Segment

/-- The items that a segment takes from the old list. -/
def old : Segment α → List α
  | .keep items => items
  | .delete items => items
  | .insert _ => []

/-- The items that a segment gives to the new list. -/
def new : Segment α → List α
  | .keep items => items
  | .delete _ => []
  | .insert items => items

/-- The segment inserts items. -/
def isInsert : Segment α → Bool
  | .insert _ => true
  | _ => false

end Segment

/-- The old list of a script. -/
def oldSide (script : List (Segment α)) : List α :=
  script.flatMap Segment.old

/-- The new list of a script. -/
def newSide (script : List (Segment α)) : List α :=
  script.flatMap Segment.new

/-- The segment that keeps some items, if there are any. -/
def keeping (items : List α) : List (Segment α) :=
  if items.isEmpty then [] else [.keep items]

/-- The segment that deletes some items, if there are any. -/
def deleting (items : List α) : List (Segment α) :=
  if items.isEmpty then [] else [.delete items]

/-- The segment that inserts some items, if there are any. -/
def inserting (items : List α) : List (Segment α) :=
  if items.isEmpty then [] else [.insert items]

section Sides

@[simp] theorem oldSide_nil : oldSide ([] : List (Segment α)) = [] := rfl

@[simp] theorem newSide_nil : newSide ([] : List (Segment α)) = [] := rfl

@[simp] theorem oldSide_cons (segment : Segment α) (script : List (Segment α)) :
    oldSide (segment :: script) = segment.old ++ oldSide script := rfl

@[simp] theorem newSide_cons (segment : Segment α) (script : List (Segment α)) :
    newSide (segment :: script) = segment.new ++ newSide script := rfl

@[simp] theorem oldSide_append (s t : List (Segment α)) :
    oldSide (s ++ t) = oldSide s ++ oldSide t := by
  simp [oldSide]

@[simp] theorem newSide_append (s t : List (Segment α)) :
    newSide (s ++ t) = newSide s ++ newSide t := by
  simp [newSide]

@[simp] theorem oldSide_keeping (items : List α) : oldSide (keeping items) = items := by
  unfold keeping
  split <;> simp_all [Segment.old]

@[simp] theorem newSide_keeping (items : List α) : newSide (keeping items) = items := by
  unfold keeping
  split <;> simp_all [Segment.new]

@[simp] theorem oldSide_deleting (items : List α) : oldSide (deleting items) = items := by
  unfold deleting
  split <;> simp_all [Segment.old]

@[simp] theorem newSide_deleting (items : List α) : newSide (deleting items) = [] := by
  unfold deleting
  split <;> simp [Segment.new]

@[simp] theorem oldSide_inserting (items : List α) : oldSide (inserting items) = [] := by
  unfold inserting
  split <;> simp [Segment.old]

@[simp] theorem newSide_inserting (items : List α) : newSide (inserting items) = items := by
  unfold inserting
  split <;> simp_all [Segment.new]

end Sides

section CommonEnds

variable [DecidableEq α]

/-- How many items two lists begin with in common. -/
def commonPrefix : List α → List α → Nat
  | a :: as, b :: bs => if a = b then commonPrefix as bs + 1 else 0
  | _, _ => 0

/-- How many items two lists end with in common. -/
def commonSuffix (as bs : List α) : Nat :=
  commonPrefix as.reverse bs.reverse

theorem take_commonPrefix (as bs : List α) :
    as.take (commonPrefix as bs) = bs.take (commonPrefix as bs) := by
  fun_induction commonPrefix as bs with
  | case1 as bs b ih => simp [ih]
  | case2 => rfl
  | case3 => rfl

theorem commonPrefix_le_left (as bs : List α) : commonPrefix as bs ≤ as.length := by
  fun_induction commonPrefix as bs with
  | case1 as bs b ih => simpa using ih
  | case2 => simp
  | case3 => simp

theorem commonPrefix_le_right (as bs : List α) : commonPrefix as bs ≤ bs.length := by
  fun_induction commonPrefix as bs with
  | case1 as bs b ih => simpa using ih
  | case2 => simp
  | case3 => simp

theorem commonSuffix_le_left (as bs : List α) : commonSuffix as bs ≤ as.length := by
  simpa [commonSuffix] using commonPrefix_le_left as.reverse bs.reverse

theorem commonSuffix_le_right (as bs : List α) : commonSuffix as bs ≤ bs.length := by
  simpa [commonSuffix] using commonPrefix_le_right as.reverse bs.reverse

theorem drop_commonSuffix (as bs : List α) :
    as.drop (as.length - commonSuffix as bs) =
      bs.drop (bs.length - commonSuffix as bs) := by
  have h := congrArg List.reverse (take_commonPrefix as.reverse bs.reverse)
  simpa [List.reverse_take, commonSuffix] using h

end CommonEnds

end EditScript
end DesiredState
