import Mathlib.Algebra.GroupWithZero.Nat
import PointTable.Proofs.Ordered
import PointTable.Proofs.Outcome
import PointTable.Workbook.Load

/-!
# Rows of a JSON workbook

The tables of a workbook are filed under their trimmed names, the device table like any other. Names
that differ only in blanks around them become one, and then the last table takes the place of the
earlier ones. So the rows of a file are all loaded exactly when only tables without rows are
followed by a table of the same trimmed name.
-/

namespace PointTable

/-- The rows filed under a name; the device table has a place of its own. -/
def Tables.rowsUnder (tables : Tables) (name : String) : Option (List Row) :=
  if name = deviceTableName then tables.devices else tables.sheets.lookup name

/-- All rows, those of the device table first. -/
def Tables.allRows (tables : Tables) : List Row :=
  tables.devices.getD [] ++ tables.sheets.flatMap Prod.snd

namespace Workbook

open Text

/-! ## Filing tables by name -/

/-- Tables under their trimmed names. -/
def trimmed (tables : List (String × List Row)) : List (String × List Row) :=
  tables.map fun table => (trim table.1, table.2)

/-- The device table is told apart from what is a mapping of all tables otherwise. -/
theorem splitTables_eq (tables : List (String × List Row)) :
    splitTables tables =
      ⟨(Ordered.ofPairs (trimmed tables)).lookup deviceTableName,
        (Ordered.ofPairs (trimmed tables)).filter fun table => table.1 ≠ deviceTableName⟩ := by
  induction tables using List.reverseRecOn with
  | nil => rfl
  | append_singleton tables table ih =>
      have filed : Ordered.ofPairs (trimmed (tables ++ [table])) =
          Ordered.put (trim table.1) table.2 (Ordered.ofPairs (trimmed tables)) := by
        simp [trimmed, Ordered.ofPairs]
      have split : splitTables (tables ++ [table]) = addTable (splitTables tables) table := by
        simp [splitTables]
      rw [split, filed, ih, addTable, Ordered.lookup_put,
        Ordered.put_filter fun name => decide (name ≠ deviceTableName)]
      by_cases device : trim table.1 = deviceTableName
      · simp [device]
      · simp [device, Ne.symm device]

@[simp] theorem splitTables_rowsUnder (tables : List (String × List Row)) (name : String) :
    (splitTables tables).rowsUnder name = (trimmed tables).reverse.lookup name := by
  rw [← Ordered.lookup_ofPairs, splitTables_eq, Tables.rowsUnder]
  by_cases device : name = deviceTableName
  · rw [if_pos device, device]
  · rw [if_neg device]
    have kept : decide (name ≠ deviceTableName) = true := decide_eq_true device
    exact Ordered.lookup_filter (fun name => decide (name ≠ deviceTableName)) kept _

theorem splitTables_allRows_perm (tables : List (String × List Row)) :
    (splitTables tables).allRows.Perm ((Ordered.ofPairs (trimmed tables)).flatMap Prod.snd) := by
  rw [splitTables_eq, Tables.allRows,
    ← Ordered.flatMap_filter_eq_lookup (Ordered.ofPairs_keys_nodup _), ← List.flatMap_append]
  apply List.Perm.flatMap_right
  simpa using List.filter_append_perm
    (fun table : String × List Row => decide (table.1 = deviceTableName)) _

/-- Filing loses no row exactly when only tables without rows are overwritten. -/
theorem splitTables_length_eq_iff (tables : List (String × List Row)) :
    (splitTables tables).allRows.length = (tables.flatMap Prod.snd).length ↔
      (trimmed tables).Pairwise fun table later => table.1 = later.1 → table.2 = [] := by
  have rows : (trimmed tables).flatMap Prod.snd = tables.flatMap Prod.snd := by
    rw [trimmed, List.flatMap_map]
  rw [(splitTables_allRows_perm tables).length_eq, ← rows]
  exact Ordered.ofPairs_flatMap_length_eq_iff _

/-! ## Members of an object -/

/-- The rows among the items of a list. -/
def rowsOf : Cell → List Row
  | .list items => items.filterMap rowOf?
  | _ => []

/-- The item of a list is a row object. -/
def isRowObject : Cell → Bool
  | .record _ => true
  | _ => false

/-- How many row objects a list has. -/
def rowObjects : Cell → Nat
  | .list items => items.countP isRowObject
  | _ => 0

@[simp] theorem length_rowsOf (cell : Cell) : (rowsOf cell).length = rowObjects cell := by
  cases cell with
  | list items =>
      rw [rowsOf, rowObjects, List.length_filterMap_eq_countP]
      congr 1
      funext item
      cases item <;> rfl
  | _ => rfl

theorem tablesOfMembers_ok {members : List (String × Cell)}
    (lists : ∀ member ∈ members, ∃ items, member.2 = .list items) :
    tablesOfMembers members = .ok (members.map fun member => (member.1, rowsOf member.2)) := by
  induction members with
  | nil => rfl
  | cons member rest ih =>
      rw [List.forall_mem_cons] at lists
      obtain ⟨name, cell⟩ := member
      obtain ⟨items, rfl⟩ := lists.1
      rw [tablesOfMembers, ih lists.2]
      rfl

/-! ## Files -/

/-- A file holds a JSON object with some members. -/
def HoldsObject (file : File) (members : List (String × Cell)) : Prop :=
  ∃ text, ofUtf8 (octetsOf file) = .ok text ∧
    Json.parse (normalizeLines text) = .ok (.record members)

/-- The tables of a file under their trimmed names, in order. -/
def fileTables (members : List (String × Cell)) : List (String × List Row) :=
  members.map fun member => (trim member.1, rowsOf member.2)

/-- Loading loses no row: all row objects of the file are counted, and the rows of every table are
found in order under its trimmed name. -/
structure KeepsRows (members : List (String × Cell)) (tables : Tables) : Prop where
  count : tables.allRows.length = (members.map fun member => rowObjects member.2).sum
  found : ∀ table ∈ fileTables members, ∃ rows,
    tables.rowsUnder table.1 = some rows ∧ table.2.Sublist rows

/-- If only tables without rows are overwritten, the rows of every table are found. -/
theorem exists_lookup_of_mem {tables : List (String × List Row)}
    (overwritten : tables.Pairwise fun table later => table.1 = later.1 → table.2 = [])
    {table : String × List Row} (member : table ∈ tables) :
    ∃ rows, tables.reverse.lookup table.1 = some rows ∧ table.2.Sublist rows := by
  induction tables with
  | nil => cases member
  | cons first rest ih =>
      rw [List.pairwise_cons] at overwritten
      rw [Ordered.lookup_reverse_cons]
      rcases List.mem_cons.mp member with rfl | later
      · cases found : rest.reverse.lookup table.1 with
        | none => exact ⟨table.2, by simp, List.Sublist.refl _⟩
        | some rows =>
            obtain ⟨other, otherMember, same⟩ : ∃ other ∈ rest, other.1 = table.1 := by
              rw [← List.mem_map, ← Ordered.lookup_reverse_isSome, found]
              rfl
            rw [overwritten.1 other otherMember same.symm]
            exact ⟨rows, rfl, List.nil_sublist _⟩
      · obtain ⟨rows, found, kept⟩ := ih overwritten.2 later
        exact ⟨rows, by rw [found, Option.some_or], kept⟩

theorem loadObject_ok (path : String) {file : File} {members : List (String × Cell)}
    (holds : HoldsObject file members)
    (lists : ∀ member ∈ members, ∃ items, member.2 = .list items) :
    loadObject path file =
      .ok (splitTables (members.map fun member => (member.1, rowsOf member.2))) := by
  obtain ⟨text, decoded, parsed⟩ := holds
  simp only [loadObject, Outcome.bind_eq_ok, Outcome.mapError_eq_ok]
  refine ⟨text, decoded, .record members, parsed, ?_⟩
  rw [ofObject, tablesOfMembers_ok lists]
  rfl

/-- The tables of a JSON workbook are those that come last under their trimmed names. All rows are
kept exactly when every table that is followed by one of its name is without rows. -/
theorem loadObject_keepsRows_iff (path : String) {file : File} {members : List (String × Cell)}
    (holds : HoldsObject file members)
    (lists : ∀ member ∈ members, ∃ items, member.2 = .list items) :
    ∃ tables, loadObject path file = .ok tables ∧
      (∀ name, tables.rowsUnder name = (fileTables members).reverse.lookup name) ∧
      (KeepsRows members tables ↔
        (fileTables members).Pairwise fun table later => table.1 = later.1 → table.2 = []) := by
  have names : trimmed (members.map fun member => (member.1, rowsOf member.2)) =
      fileTables members := by
    simp [trimmed, fileTables]
  have total : ((members.map fun member => (member.1, rowsOf member.2)).flatMap Prod.snd).length =
      (members.map fun member => rowObjects member.2).sum := by
    simp [List.length_flatMap, Function.comp_def]
  refine ⟨_, loadObject_ok path holds lists, ?_, ?_⟩
  · intro name
    rw [splitTables_rowsUnder, names]
  · have counted := splitTables_length_eq_iff
      (members.map fun member => (member.1, rowsOf member.2))
    rw [total, names] at counted
    constructor
    · intro keeps
      exact counted.mp keeps.count
    · intro overwritten
      refine ⟨counted.mpr overwritten, ?_⟩
      intro table member
      rw [splitTables_rowsUnder, names]
      exact exists_lookup_of_mem overwritten member

/-! ## Two files

In the first an empty table is overwritten and an item that is no row is dropped; in the second a
table with rows is overwritten. -/

/-- The file of a text in ASCII. -/
def asciiFile (text : String) : File :=
  .plain (text.toList.map fun c => c.toNat.toUInt8)

theorem holdsObject_asciiFile {text : String} (chars : List Char)
    {members : List (String × Cell)} (spelled : text.toList = chars)
    (decoded : utf8Chars 0 0 (chars.map fun c => c.toNat.toUInt8) = .ok chars)
    (parsed : Json.document (Xml.normalizeLines chars) = .ok (.record members)) :
    HoldsObject (asciiFile text) members := by
  refine ⟨String.ofList chars, ?_, ?_⟩
  · rw [asciiFile, octetsOf, ofUtf8, spelled, decoded]
    rfl
  · rw [normalizeLines, Json.parse, String.toList_ofList, String.toList_ofList, parsed]

/-- A device table, an empty table and a sheet of the same trimmed name. -/
def keptObject : String :=
  "\x7b\"IP_Port\":[\x7b\"b\":2\x7d],\"L \":[],\"L\":[3,\x7b\" a\":1\x7d]\x7d"

def keptMembers : List (String × Cell) := [
  ("IP_Port", .list [.record [("b", .int 2)]]), ("L ", .list []),
  ("L", .list [.int 3, .record [(" a", .int 1)]])]

theorem keptObject_holds : HoldsObject (asciiFile keptObject) keptMembers :=
  holdsObject_asciiFile
    ['\x7b', '\x22', 'I', 'P', '_', 'P', 'o', 'r', 't', '\x22', ':', '[', '\x7b', '\x22', 'b',
      '\x22', ':', '2', '\x7d', ']', ',', '\x22', 'L', ' ', '\x22', ':', '[', ']', ',', '\x22', 'L',
      '\x22', ':', '[', '3', ',', '\x7b', '\x22', ' ', 'a', '\x22', ':', '1', '\x7d', ']', '\x7d']
    (by decide +kernel) rfl rfl

theorem keptObject_keepsRows :
    HoldsObject (asciiFile keptObject) keptMembers ∧
      (∀ member ∈ keptMembers, ∃ items, member.2 = .list items) ∧
      ∃ tables, loadObject "points.json" (asciiFile keptObject) = .ok tables ∧
        KeepsRows keptMembers tables := by
  have lists : ∀ member ∈ keptMembers, ∃ items, member.2 = .list items := by
    simp [keptMembers]
  obtain ⟨tables, loaded, _, keeps⟩ :=
    loadObject_keepsRows_iff "points.json" keptObject_holds lists
  refine ⟨keptObject_holds, lists, tables, loaded, keeps.mpr ?_⟩
  have names : trim "IP_Port" = "IP_Port" ∧ trim "L " = "L" ∧ trim "L" = "L" := by
    decide +kernel
  simp [fileTables, keptMembers, rowsOf, names]

/-- Two sheets whose names differ in a blank. -/
def lostObject : String :=
  "\x7b\"L\":[\x7b\"a\":1\x7d],\" L\":[\x7b\"b\":2\x7d]\x7d"

def lostMembers : List (String × Cell) := [
  ("L", .list [.record [("a", .int 1)]]), (" L", .list [.record [("b", .int 2)]])]

theorem lostObject_holds : HoldsObject (asciiFile lostObject) lostMembers :=
  holdsObject_asciiFile
    ['\x7b', '\x22', 'L', '\x22', ':', '[', '\x7b', '\x22', 'a', '\x22', ':', '1', '\x7d', ']', ',',
      '\x22', ' ', 'L', '\x22', ':', '[', '\x7b', '\x22', 'b', '\x22', ':', '2', '\x7d', ']',
      '\x7d']
    (by decide +kernel) rfl rfl

/-- Of two sheets with rows under one trimmed name the first is lost. -/
theorem lostObject_loses :
    HoldsObject (asciiFile lostObject) lostMembers ∧ (lostMembers.map Prod.fst).Nodup ∧
      (∀ member ∈ lostMembers, ∃ items, member.2 = .list items) ∧
      loadObject "points.json" (asciiFile lostObject) =
        .ok ⟨none, [("L", [[("b", .int 2)]])]⟩ ∧
      ¬KeepsRows lostMembers ⟨none, [("L", [[("b", .int 2)]])]⟩ := by
  have lists : ∀ member ∈ lostMembers, ∃ items, member.2 = .list items := by
    simp [lostMembers]
  refine ⟨lostObject_holds, by decide, lists, ?_, ?_⟩
  · have names : trim "L" = "L" ∧ trim " L" = "L" ∧ trim "a" = "a" ∧ trim "b" = "b" := by
      decide +kernel
    rw [loadObject_ok _ lostObject_holds lists]
    simp [lostMembers, rowsOf, rowOf?, cleanRow, splitTables, addTable, names, Ordered.ofPairs,
      Ordered.put, deviceTableName]
  · intro keeps
    exact absurd keeps.count (by decide)

end Workbook

end PointTable
