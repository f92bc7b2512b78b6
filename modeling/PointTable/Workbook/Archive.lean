import PointTable.Event
import PointTable.Workbook.Sheet
import PointTable.Xml.Reader

/-!
# Workbooks as archives of XML parts

One part lists the sheets, another says which part holds each sheet, and a third holds the shared
strings. A sheet whose part is missing is left out with a warning.
-/

namespace PointTable.Workbook.Archive

open Xml

/-- Why an archive is no workbook. -/
inductive Fault where
  | partMissing (part : String)
  | xml (fault : Xml.Fault)
  deriving DecidableEq, Repr

def Fault.message (path : String) : Fault → String
  | .partMissing part =>
    path ++ ": workbook part missing ("
      ++ Text.quoted ("There is no item named " ++ Text.quoted part ++ " in the archive") ++ ")"
  | .xml fault => fault.message

def relationsPart : String := "xl/_rels/workbook.xml.rels"

def sheetsPart : String := "xl/workbook.xml"

def stringsPart : String := "xl/sharedStrings.xml"

def worksheets : String := "xl/worksheets/"

/-- The namespaces in which a sheet may name its relation. -/
def relationSpaces : List String :=
  ["http://schemas.openxmlformats.org/officeDocument/2006/relationships",
    "http://purl.oclc.org/ooxml/officeDocument/relationships"]

/-- The text of a part; of parts of one name the last counts. -/
def part? (parts : List (String × String)) (name : String) : Option String :=
  parts.reverse.lookup name

def root (text : String) : Except Fault Element :=
  (Xml.parse text).mapError .xml

/-- The root of a part that must be there. -/
def rootOf (parts : List (String × String)) (name : String) : Except Fault Element :=
  match part? parts name with
  | some text => root text
  | none => .error (.partMissing name)

/-- The shared strings; without their part there are none. -/
def stringsOf (parts : List (String × String)) : Except Fault (List String) :=
  match part? parts stringsPart with
  | some text => (root text).map Sheet.sharedStrings
  | none => .ok []

/-- The text occurs in a list of characters. -/
def occursIn (text : List Char) : List Char → Bool
  | [] => text.isEmpty
  | c :: rest => text.isPrefixOf (c :: rest) || occursIn text rest

/-- The characters behind the last slash. -/
def lastPart (target : String) : String :=
  String.ofList (target.toList.reverse.takeWhile (· ≠ '/')).reverse

/-- The part of each worksheet by the name of its relation. -/
def targets (relations : Element) : List (String × String) :=
  Ordered.ofPairs ((relations.named "Relationship").filterMap fun relation =>
    let target := (relation.attribute? "Target").getD ""
    if occursIn "worksheets/".toList target.toList then
      some ((relation.attribute? "Id").getD "", worksheets ++ lastPart target)
    else none)

/-- The name of a sheet's relation. -/
def relationOf? (sheet : Element) : Option String :=
  relationSpaces.findSome? fun space =>
    match sheet.attributeIn? space "id" with
    | some name => if name.isEmpty then none else some name
    | none => none

/-- The sheets of a workbook that have a name and a part, in order. -/
def listed (targets : List (String × String)) (book : Element) : List (String × String) :=
  (book.named "sheet").filterMap fun sheet => do
    let name ← sheet.attribute? "name"
    if name.isEmpty then none
    let relation ← relationOf? sheet
    let part ← targets.lookup relation
    return (name, part)

/-- Read listed sheets one after the other; one whose part is missing is left out. -/
def readSheets (parts : List (String × String)) (strings : List String) :
    List (String × String) → Except Fault (List (String × List Row))
  | [] => .ok []
  | (name, part) :: rest =>
    match part? parts part with
    | none => readSheets parts strings rest
    | some text => do
      let sheet ← root text
      let tables ← readSheets parts strings rest
      return (name, (Sheet.rows strings sheet).map cleanRow) :: tables

/-- The tables of an archive. -/
def tables (parts : List (String × String)) : Except Fault Tables := do
  let relations ← rootOf parts relationsPart
  let book ← rootOf parts sheetsPart
  let strings ← stringsOf parts
  let read ← readSheets parts strings (listed (targets relations) book)
  return splitTables (Ordered.ofPairs read)

/-- A warning for every listed sheet whose part is missing, up to the first that cannot be read. -/
def missingEvents (path : String) (parts : List (String × String)) :
    List (String × String) → List Event
  | [] => []
  | (name, part) :: rest =>
    match part? parts part with
    | none => .worksheetMissing path part name :: missingEvents path parts rest
    | some text =>
      match root text with
      | .ok _ => missingEvents path parts rest
      | .error _ => []

/-- The events of reading an archive. -/
def events (path : String) (parts : List (String × String)) : List Event :=
  match rootOf parts relationsPart, rootOf parts sheetsPart, stringsOf parts with
  | .ok relations, .ok book, .ok _ =>
    missingEvents path parts (listed (targets relations) book)
  | _, _, _ => []

end PointTable.Workbook.Archive
