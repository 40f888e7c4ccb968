import DesiredState.Json.Basic

/-!
# TOML tables

**Types.** A table remembers how it came to be, since that decides what may still
be added to it: by a header of its own, on the way to another header, by dotted
keys, or between braces. An array of tables, as headers build it, is told apart
from an array that is written as a value.

**Rules.** A key is set once. A table has at most one header, and none when dotted
keys made it. Dotted keys extend tables that dotted keys made, and tables between
braces and written arrays are closed. On the way through an array of tables its
last table counts.
-/

namespace DesiredState
namespace Toml

/-- How a table came to be. -/
inductive Origin where
  /-- By a header of its own, or as the whole document. -/
  | header
  /-- On the way to the table of another header. -/
  | onTheWay
  /-- By dotted keys. -/
  | dotted
  /-- Between braces. -/
  | braces
deriving DecidableEq, Repr

/-- What stands under a key. -/
inductive Item where
  | scalar (value : Json)
  | array (items : List Item)
  | table (origin : Origin) (entries : List (String × Item))
  /-- An array of tables, the last one first. -/
  | tables (latest : List (String × Item)) (earlier : List (List (String × Item)))
deriving Repr, Inhabited

/-- The entries of a table, in the order in which they were made. -/
abbrev Entries := List (String × Item)

/-- The item under a key. -/
def Entries.get? (entries : Entries) (key : String) : Option Item :=
  (entries.find? fun entry => entry.1 = key).map Prod.snd

/-- Put an item under a key, over an older one. -/
def Entries.set (entries : Entries) (key : String) (item : Item) : Entries :=
  if (entries.get? key).isSome then
    entries.map fun entry => if entry.1 = key then (key, item) else entry
  else entries ++ [(key, item)]

/-- Set a key that is not set. -/
def Entries.setNew? (entries : Entries) (key : String) (item : Item) :
    Option Entries :=
  if (entries.get? key).isSome then none else some (entries.set key item)

/-- Change the table at the end of a path by a function that also takes the
table's origin. Tables that are missing on the way are made by dotted keys or on
the way to a header; dotted keys do not pass through a table with a header. -/
def Entries.updateAt? (dotted : Bool) (change : Origin → Entries → Option Entries) :
    List String → Origin → Entries → Option Entries
  | [], origin, entries => change origin entries
  | key :: path, _, entries =>
      let made : Origin := if dotted then .dotted else .onTheWay
      match entries.get? key with
      | none =>
          (updateAt? dotted change path made []).map fun inner =>
            entries.set key (.table made inner)
      | some (.table .braces _) => none
      | some (.table origin inner) =>
          if dotted && origin = .header then none
          else
            (updateAt? dotted change path origin inner).map fun inner =>
              entries.set key (.table origin inner)
      | some (.tables latest earlier) =>
          (updateAt? dotted change path .header latest).map fun latest =>
            entries.set key (.tables latest earlier)
      | some _ => none

/-- Set a dotted key in a table. The last but one part of it has to name a table
that dotted keys made. -/
def Entries.assign? (entries : Entries) (path : List String) (key : String)
    (item : Item) : Option Entries :=
  entries.updateAt? true
    (fun origin inner =>
      if path.isEmpty || origin = .dotted then inner.setNew? key item else none)
    path .header

/-- Open a table by its header. -/
def Entries.openTable? (entries : Entries) (path : List String) (key : String) :
    Option Entries :=
  entries.updateAt? false
    (fun _ inner =>
      match inner.get? key with
      | none => some (inner.set key (.table .header []))
      | some (.table .onTheWay own) => some (inner.set key (.table .header own))
      | some _ => none)
    path .header

/-- Open the next table of an array of tables by its header. -/
def Entries.openNext? (entries : Entries) (path : List String) (key : String) :
    Option Entries :=
  entries.updateAt? false
    (fun _ inner =>
      match inner.get? key with
      | none => some (inner.set key (.tables [] []))
      | some (.tables latest earlier) =>
          some (inner.set key (.tables [] (latest :: earlier)))
      | some _ => none)
    path .header

/-- Set a dotted key in the table that a header opened. -/
def Entries.assignIn? (entries : Entries) (table path : List String)
    (key : String) (item : Item) : Option Entries :=
  entries.updateAt? false (fun _ inner => inner.assign? path key item) table .header

mutual

/-- The JSON value of an item. -/
def Item.toJson : Item → Json
  | .scalar value => value
  | .array items => .array (itemsToJson items)
  | .table _ entries => .object (entriesToJson entries)
  | .tables latest earlier =>
      .array ((tablesToJson earlier).reverse ++ [.object (entriesToJson latest)])

/-- The JSON values of some items. -/
def itemsToJson : List Item → List Json
  | [] => []
  | item :: rest => item.toJson :: itemsToJson rest

/-- The JSON fields of some entries. -/
def entriesToJson : List (String × Item) → List (String × Json)
  | [] => []
  | (key, item) :: rest => (key, item.toJson) :: entriesToJson rest

/-- The JSON objects of some tables. -/
def tablesToJson : List (List (String × Item)) → List Json
  | [] => []
  | entries :: rest => .object (entriesToJson entries) :: tablesToJson rest

end

end Toml
end DesiredState
