import DesiredState.EditScript.Basic

/-!
# Frontiers

**Type.** A point of the grid of two lists tells how many items of the old and of
the new list are used up; its diagonal is the difference of the two. The frontier
of a round lists, for each diagonal that paths with that many edits can end on, how
many items of the old list the furthest of them uses up. The diagonals of round
`d` are `d`, `d - 2`, …, `-d`, in this order.

**Algorithm.** Paths are followed from the start forwards and from the end
backwards, one more edit in each round, until two of them meet. The point of
meeting splits both lists.
-/

namespace DesiredState
namespace EditScript

universe u

variable {α : Type u} [DecidableEq α]

namespace Frontier

/-- The further of two neighbours, moved onto the diagonal between them: one comes
by an insertion, the other by a deletion. -/
def between : List Nat → List Nat
  | a :: b :: rest => (if b < a then a else b + 1) :: between (b :: rest)
  | ends => ends

/-- Where the paths of the next round are after their last edit. -/
def afterEdit : List Nat → List Nat
  | [] => [0]
  | a :: rest => (a + 1) :: between (a :: rest)

/-- The diagonal of a position in a frontier. -/
def diagonal (frontier : List Nat) (i : Nat) : Int :=
  (frontier.length : Int) - 1 - 2 * i

/-- The items of the new list that are used up at a position. -/
def newItems (frontier : List Nat) (i x : Nat) : Nat :=
  (x - diagonal frontier i).toNat

/-- Follow the items that both lists have in common. -/
def follow (old new : List α) (frontier : List Nat) : List Nat :=
  frontier.mapIdx fun i x =>
    x + commonPrefix (old.drop x) (new.drop (newItems frontier i x))

/-- The entry of a diagonal. -/
def at? (frontier : List Nat) (k : Int) : Option Nat :=
  if k.natAbs < frontier.length then
    frontier[(((frontier.length : Int) - 1 - k) / 2).toNat]?
  else none

/-- The first position at which a path meets one from the other end. Together they
use up all `n` items of the old list; the diagonals of the two ends are `delta`
apart. -/
def meeting? (n : Nat) (delta : Int) (mine theirs : List Nat) : Option Nat :=
  (List.range mine.length).find? fun i =>
    match mine[i]?, at? theirs (delta - diagonal mine i) with
    | some x, some other => n ≤ x + other
    | _, _ => false

end Frontier

open Frontier

/-- Look for a point of meeting, with a bound on the rounds to come. -/
def meetWithin (old new : List α) (rounds : Nat)
    (forward backward : List Nat) : Option (Nat × Nat) :=
  match rounds with
  | 0 => none
  | rounds + 1 =>
      let delta : Int := old.length - new.length
      let starts := afterEdit forward
      let ahead := follow old new starts
      let back := follow old.reverse new.reverse (afterEdit backward)
      let point :=
        if delta % 2 = 1 then
          (meeting? old.length delta ahead backward).map fun i =>
            let x := starts.getD i 0
            (x, newItems starts i x)
        else
          (meeting? old.length delta back ahead).map fun i =>
            let x := back.getD i 0
            (old.length - x, new.length - newItems back i x)
      match point with
      | some point => some point
      | none => meetWithin old new rounds ahead back

/-- A point at which a shortest script between two lists can be split. -/
def splitPoint? (old new : List α) : Option (Nat × Nat) :=
  meetWithin old new ((old.length + new.length + 1) / 2 + 1) [] []

end EditScript
end DesiredState
