import PointTable.Cell

/-!
# Change log

A snapshot is stored only when it differs from the last one stored. Two snapshots are alike when
they have the same names and equal values under each; a list, a tuple and a string of octets are
alike when their items are, whichever of the three they are.
-/

namespace PointTable

/-- Values by name. -/
abbrev Snapshot := List (String × Cell)

namespace Snapshot

/-- Two values of a name differ. -/
def differs (old new : Cell) : Bool :=
  match new.items? with
  | some items =>
    match old.items? with
    | some oldItems => !Cell.sameItems oldItems items
    | none => true
  | none => !old.same new

/-- The snapshots have the same names. -/
def sameNames (previous current : Snapshot) : Bool :=
  previous.all (fun entry => (current.lookup entry.1).isSome)
    && current.all (fun entry => (previous.lookup entry.1).isSome)

/-- A snapshot has to be stored: there is none before it, or it differs from the one before. -/
def hasChanged (previous : Option Snapshot) (current : Snapshot) : Bool :=
  match previous with
  | none => true
  | some previous =>
    !sameNames previous current ||
      current.any fun (name, value) =>
        match previous.lookup name with
        | some old => differs old value
        | none => true

end Snapshot

end PointTable
