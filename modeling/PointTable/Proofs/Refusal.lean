import PointTable.Proofs.Devices
import PointTable.Proofs.Units

/-!
# Which violation is reported

Validation checks one rule after another and stops at the first that is broken. Every rule is a
property of lists, such as the property names of all rows or the instances of all sheets, and it is
broken at the item with which it ceases to hold. Tables are refused exactly when some rule is the
first to be broken, and the fault names the item at which it is.
-/

namespace PointTable.Validation

open Text Number SheetUnit

/-! ## Where a rule breaks -/

section BreaksAt

variable {α β : Type} {rule : List α → Prop} {items : List α} {item : α}

/-- A rule on lists breaks at an item: it holds of the items before, and not with the item. -/
def BreaksAt (rule : List α → Prop) (items : List α) (item : α) : Prop :=
  ∃ before after, items = before ++ item :: after ∧ rule before ∧ ¬rule (before ++ [item])

theorem BreaksAt.not_rule (inherited : ∀ before after, rule (before ++ after) → rule before)
    (broken : BreaksAt rule items item) : ¬rule items := by
  obtain ⟨before, after, rfl, _, breaks⟩ := broken
  intro holds
  apply breaks
  apply inherited _ after
  simpa using holds

/-- A rule that lists inherit from longer ones breaks at one item only. -/
theorem BreaksAt.unique (inherited : ∀ before after, rule (before ++ after) → rule before)
    {other : α} (broken : BreaksAt rule items item) (otherBroken : BreaksAt rule items other) :
    item = other := by
  -- Where the rule holds it has not broken yet, so neither break comes before the other.
  have not_before : ∀ {before after before' after' : List α} {item other : α},
      before ++ item :: after = before' ++ other :: after' → ¬rule (before ++ [item]) →
        rule before' → before'.length ≤ before.length := by
    intro before after before' after' item other same breaks holds
    by_contra longer
    have upToItem : before ++ [item] <+: before ++ item :: after := ⟨after, by simp⟩
    have upToOther : before' <+: before ++ item :: after := ⟨other :: after', same.symm⟩
    have lengths : (before ++ [item]).length ≤ before'.length := by
      simp only [List.length_append, List.length_singleton]
      omega
    obtain ⟨rest, rfl⟩ := List.prefix_of_prefix_length_le upToItem upToOther lengths
    exact breaks (inherited _ rest holds)
  obtain ⟨before, after, rfl, holds, breaks⟩ := broken
  obtain ⟨before', after', same, holds', breaks'⟩ := otherBroken
  have lengths : before.length = before'.length :=
    Nat.le_antisymm (not_before same.symm breaks' holds) (not_before same breaks holds')
  exact (List.cons.inj (List.append_inj same lengths).2).1

theorem BreaksAt.head (empty : rule []) (breaks : ¬rule [item]) :
    BreaksAt rule (item :: items) item :=
  ⟨[], items, rfl, empty, breaks⟩

theorem BreaksAt.cons {later : List α → Prop} {first : α}
    (shift : ∀ items, rule (first :: items) ↔ later items) (broken : BreaksAt later items item) :
    BreaksAt rule (first :: items) item := by
  obtain ⟨before, after, rfl, holds, breaks⟩ := broken
  exact ⟨first :: before, after, rfl, (shift _).mpr holds, fun kept => breaks ((shift _).mp kept)⟩

theorem BreaksAt.congr {rule' : List α → Prop} (same : ∀ items, rule items ↔ rule' items)
    (broken : BreaksAt rule items item) : BreaksAt rule' items item := by
  obtain ⟨before, after, split, holds, breaks⟩ := broken
  exact ⟨before, after, split, (same _).mp holds, fun kept => breaks ((same _).mpr kept)⟩

theorem BreaksAt.map {f : β → α} {sources : List β} {source : β}
    (broken : BreaksAt (fun sources => rule (sources.map f)) sources source) :
    BreaksAt rule (sources.map f) (f source) := by
  obtain ⟨before, after, rfl, holds, breaks⟩ := broken
  exact ⟨before.map f, after.map f, by simp, holds, by simpa using breaks⟩

theorem BreaksAt.mem (broken : BreaksAt rule items item) : item ∈ items := by
  obtain ⟨before, after, rfl, _⟩ := broken
  simp

/-- A rule on single items breaks at the first item that does not keep it. -/
theorem breaksAt_forall {good : α → Prop} {before after : List α}
    (earlier : ∀ other ∈ before, good other) (bad : ¬good item) :
    BreaksAt (fun items => ∀ other ∈ items, good other) (before ++ item :: after) item :=
  ⟨before, after, rfl, earlier, fun every => bad (every item (by simp))⟩

end BreaksAt

/-! ## Repeated keys -/

/-- The scan for a repeated key stops where the keys cease to be distinct, and tells what is wrong
with the key there. -/
theorem refuseRepeats_eq_error {α : Type} {key : α → Except WriteFault String}
    {fault : α → String → Fault} {seen : List String} {items : List α} {shown : Fault}
    (failed : refuseRepeats key fault seen items = .error shown) :
    ∃ item, BreaksAt (fun items => refuseRepeats key fault seen items = .ok ()) items item ∧
      ((∃ name, key item = .ok name ∧ shown = fault item name) ∨
        ∃ cause, key item = .error cause ∧ shown = .digits cause) := by
  induction items generalizing seen with
  | nil => cases failed
  | cons first rest ih =>
      cases named : key first with
      | error cause =>
          simp only [refuseRepeats, named, Outcome.mapError_error, Outcome.error_bind,
            Except.error.injEq] at failed
          exact ⟨first, .head rfl (by simp [refuseRepeats, named]),
            .inr ⟨cause, named, failed.symm⟩⟩
      | ok name =>
          by_cases known : name ∈ seen
          · simp only [refuseRepeats, named, known, Outcome.mapError_ok, Outcome.ok_bind,
              ↓reduceIte, Except.error.injEq] at failed
            exact ⟨first, .head rfl (by simp [refuseRepeats, named, known]),
              .inl ⟨name, named, failed.symm⟩⟩
          · have step : ∀ items, refuseRepeats key fault seen (first :: items) =
                refuseRepeats key fault (name :: seen) items := by
              simp [refuseRepeats, named, known]
            rw [step] at failed
            obtain ⟨item, broken, cause⟩ := ih failed
            refine ⟨item, BreaksAt.cons (fun items => ?_) broken, cause⟩
            rw [step]

/-! ## Rows of points -/

/-- The rows that describe a point, in order, each with the name of its sheet. -/
def pointEntries (tables : List (String × List Row)) : List (String × Row) :=
  tables.flatMap fun table => (pointRows table.2).map fun row => (trim table.1, row)

/-- The columns of a point row that are taken by their texts. -/
def writtenColumns : List String :=
  ["PropertyName", "Length", "Period", "ValueAddress", "KeyName", "TriggerAddress", "ReturnAddress"]

/-- The cells that a point is read off can be written. -/
def WrittenPoint (row : Row) : Prop :=
  ∀ column ∈ writtenColumns, (row.get column).isWritable = true

instance (row : Row) : Decidable (WrittenPoint row) :=
  inferInstanceAs (Decidable (∀ column ∈ writtenColumns, (row.get column).isWritable = true))

/-- What a row needs to be a point: cells that can be written, a known type, a length and a period
that are finite numbers if they are given, of which the length is not negative, and an address that
names a register. -/
structure UsableRow (row : Row) : Prop where
  written : WrittenPoint row
  type : ∃ pointType, PointType.parse (row.get "Type") = .ok pointType
  length : (row.get "Length").isBlank = true ∨ ∃ number whole,
    (row.get "Length").toDouble = .ok number ∧ number.truncate = .ok whole ∧ 0 ≤ whole
  period : (row.get "Period").isBlank = true ∨ ∃ number,
    (row.get "Period").toDouble = .ok number ∧ number.isFinite = true
  address : ∃ register,
    Address.register (.text (row.get "ValueAddress").trimmedSpelling) = .ok register

theorem exists_finiteNumber_iff {cell : Cell} :
    (∃ number, finiteNumber cell = .ok number) ↔
      cell.isBlank = true ∨ ∃ number, cell.toDouble = .ok number ∧ number.isFinite = true := by
  by_cases blank : cell.isBlank = true
  · simp [finiteNumber, blank]
  · cases value : cell.toDouble with
    | error fault => simp [finiteNumber, blank, value]
    | ok number => cases finite : number.isFinite <;> simp [finiteNumber, blank, value, finite]

theorem exists_readLength_iff {cell : Cell} :
    (∃ number, finiteNumber cell = .ok number ∧ ∃ kept, readLength number = .ok kept) ↔
      cell.isBlank = true ∨ ∃ number whole,
        cell.toDouble = .ok number ∧ number.truncate = .ok whole ∧ 0 ≤ whole := by
  by_cases blank : cell.isBlank = true
  · simp [finiteNumber, blank, readLength]
  · cases value : cell.toDouble with
    | error fault => simp [finiteNumber, blank, value]
    | ok number =>
        cases truncated : number.truncate with
        | error fault =>
            cases finite : number.isFinite <;>
              simp [finiteNumber, blank, value, finite, readLength, truncated]
        | ok whole =>
            have finite : number.isFinite = true := by
              cases number <;> simp_all [Double.truncate, Double.isFinite]
            by_cases negative : whole < 0
            · simp [finiteNumber, blank, value, finite, readLength, truncated, negative]
            · simp [finiteNumber, blank, value, finite, readLength, truncated, negative]
              omega

/-- A row whose cells can be written is read by what they spell. -/
theorem readPoint_of_written {row : Row} (written : WrittenPoint row) :
    readPoint row = (do
      let pointType ← (PointType.parse (row.get "Type")).mapError .type
      let length ← finiteNumber (row.get "Length")
      let period ← finiteNumber (row.get "Period")
      let length ← readLength length
      let _ ← (Address.register (.text (row.get "ValueAddress").trimmedSpelling)).mapError .address
      return {
        propertyName := propertySpelling row
        displayName := (row.get "KeyName").trimmedSpelling
        address := (row.get "ValueAddress").trimmedSpelling
        pointType, length
        triggerAddress := filledText (row.get "TriggerAddress").trimmedSpelling
        returnAddress := filledText (row.get "ReturnAddress").trimmedSpelling
        period := period.getD (Double.zero false) }) := by
  simp only [WrittenPoint, writtenColumns, List.forall_mem_cons] at written
  obtain ⟨name, length, period, address, key, trigger, back, _⟩ := written
  simp only [readPoint, columnText_of_written name, writableCell_of_written length,
    writableCell_of_written period, columnText_of_written address, columnText_of_written key,
    columnText_of_written trigger, columnText_of_written back, Outcome.ok_bind, propertySpelling]

theorem written_of_readPoint {row : Row} {point : Point} (read : readPoint row = .ok point) :
    WrittenPoint row := by
  simp only [readPoint, columnText, writableCell, Outcome.bind_eq_ok, Outcome.mapError_eq_ok,
    Cell.trimmedText_eq_ok, ifWritable_eq_ok] at read
  obtain ⟨_, ⟨name, _⟩, _, _, _, ⟨length, _⟩, _, ⟨period, _⟩, _, _, _, _, _, _, _, ⟨address, _⟩, _,
    _, _, ⟨key, _⟩, _, ⟨trigger, _⟩, _, ⟨back, _⟩, _⟩ := read
  simp [WrittenPoint, writtenColumns, name, length, period, address, key, trigger, back]

theorem readPoint_ne_digits {row : Row} (written : WrittenPoint row) (fault : WriteFault) :
    readPoint row ≠ .error (.digits fault) := by
  have numbers : ∀ cell, finiteNumber cell ≠ .error (.digits fault) := fun cell failed =>
    nomatch finiteNumber_eq_error failed
  have lengths : ∀ number, readLength number ≠ .error (.digits fault) := fun number failed =>
    nomatch readLength_eq_error failed
  simp [readPoint_of_written written, numbers, lengths]

/-- A row gives a point exactly when it is usable. -/
theorem exists_readPoint_iff {row : Row} :
    (∃ point, readPoint row = .ok point) ↔ UsableRow row := by
  constructor
  · rintro ⟨point, read⟩
    have written := written_of_readPoint read
    simp only [readPoint_of_written written, Outcome.bind_eq_ok, Outcome.mapError_eq_ok] at read
    obtain ⟨pointType, typeRead, lengthNumber, lengthRead, periodNumber, periodRead, length,
      lengthKept, register, registerRead, _⟩ := read
    exact ⟨written, ⟨pointType, typeRead⟩,
      exists_readLength_iff.mp ⟨lengthNumber, lengthRead, length, lengthKept⟩,
      exists_finiteNumber_iff.mp ⟨periodNumber, periodRead⟩, ⟨register, registerRead⟩⟩
  · rintro ⟨written, ⟨pointType, typeRead⟩, lengthUsable, periodUsable, register, registerRead⟩
    obtain ⟨lengthNumber, lengthRead, length, lengthKept⟩ := exists_readLength_iff.mpr lengthUsable
    obtain ⟨periodNumber, periodRead⟩ := exists_finiteNumber_iff.mpr periodUsable
    simp only [readPoint_of_written written, Outcome.bind_eq_ok, Outcome.mapError_eq_ok]
    exact ⟨_, pointType, typeRead, lengthNumber, lengthRead, periodNumber, periodRead, length,
      lengthKept, register, registerRead, rfl⟩

/-- The sheet of a table, with the points that can be read. -/
def sheetOf (table : String × List Row) : Sheet :=
  ⟨trim table.1, (pointRows table.2).filterMap fun row => (readPoint row).toOption⟩

/-- Every row that describes a point can be used. -/
def RowsUsable (entries : List (String × Row)) : Prop :=
  ∀ entry ∈ entries, UsableRow entry.2

theorem readSheet_eq_sheetOf {table : String × List Row} {sheet : Sheet}
    (read : readSheet table = .ok sheet) : sheet = sheetOf table := by
  obtain ⟨named, rowsRead⟩ := readSheet_eq_ok.mp read
  rw [sheetOf, Outcome.filterMap_toOption rowsRead, ← named]

theorem readSheets_eq_ok {tables : List (String × List Row)} {sheets : List Sheet}
    (read : readSheets tables = .ok sheets) :
    sheets = tables.map sheetOf ∧ RowsUsable (pointEntries tables) := by
  rw [readSheets_eq_mapM, Outcome.mapM_eq_ok] at read
  constructor
  · have mapped : tables.map sheetOf = sheets.map id :=
      Outcome.map_eq_map read fun table sheet tableRead => (readSheet_eq_sheetOf tableRead).symm
    rw [mapped, List.map_id]
  · rintro ⟨name, row⟩ member
    obtain ⟨table, tableMember, rowMember⟩ := List.mem_flatMap.mp member
    obtain ⟨_, describes, equal⟩ := List.mem_map.mp rowMember
    cases equal
    obtain ⟨sheet, _, tableRead⟩ := Outcome.exists_of_mem_left read tableMember
    obtain ⟨point, _, rowRead⟩ :=
      Outcome.exists_of_mem_left (readSheet_eq_ok.mp tableRead).2 describes
    exact exists_readPoint_iff.mp ⟨point, rowRead⟩

/-- Sheets fail to be read at the first row that cannot be used. -/
theorem readSheets_eq_error {tables : List (String × List Row)} {fault : Fault}
    (failed : readSheets tables = .error fault) :
    ∃ sheet row cause, BreaksAt RowsUsable (pointEntries tables) (sheet, row) ∧
      readPoint row = .error cause ∧ fault = .ofPoint (propertySpelling row) sheet cause := by
  rw [readSheets_eq_mapM] at failed
  obtain ⟨before, table, after, rfl, tablesRead, tableFailed⟩ := Outcome.mapM_eq_error.mp failed
  simp only [readSheet, readPoints_eq_mapM, Outcome.bind_eq_error, Outcome.pure_eq_ok, reduceCtorEq,
    and_false, exists_const, or_false] at tableFailed
  obtain ⟨rowsBefore, row, rowsAfter, split, rowsRead, rowFailed⟩ :=
    Outcome.mapM_eq_error.mp tableFailed
  obtain ⟨cause, pointFailed, rfl⟩ := Outcome.mapError_eq_error.mp rowFailed
  refine ⟨trim table.1, row, cause, ?_, pointFailed, rfl⟩
  obtain ⟨sheets, sheetsRead⟩ := Outcome.mapM_ok_of_forall tablesRead
  rw [← readSheets_eq_mapM] at sheetsRead
  have entries : pointEntries (before ++ table :: after) =
      (pointEntries before ++ rowsBefore.map fun row => (trim table.1, row)) ++
        (trim table.1, row) ::
          ((rowsAfter.map fun row => (trim table.1, row)) ++ pointEntries after) := by
    simp [pointEntries, split]
  rw [entries]
  apply breaksAt_forall
  · intro entry member
    rcases List.mem_append.mp member with earlier | here
    · exact (readSheets_eq_ok sheetsRead).2 entry earlier
    · obtain ⟨other, otherMember, rfl⟩ := List.mem_map.mp here
      obtain ⟨point, otherRead⟩ := rowsRead other otherMember
      exact exists_readPoint_iff.mp ⟨point, Outcome.mapError_eq_ok.mp otherRead⟩
  · intro usable
    obtain ⟨point, read⟩ := exists_readPoint_iff.mpr usable
    simp [pointFailed] at read

/-! ## Triggers -/

/-- Within every sheet, points of one trigger share a period. -/
def SheetsAgree (sheets : List Sheet) : Prop :=
  ∀ sheet ∈ sheets, sheet.points.Pairwise TriggersAgree

theorem conflictingTrigger_breaksAt {periods : List (String × Double)} {points : List Point}
    {trigger : String} (found : conflictingTrigger periods points = some trigger) :
    ∃ point, BreaksAt (fun points => conflictingTrigger periods points = none) points point ∧
      point.triggerAddress = some trigger := by
  induction points generalizing periods with
  | nil => simp [conflictingTrigger] at found
  | cons point rest ih =>
      have later : ∀ recorded : List (String × Double),
          (∀ rest, conflictingTrigger periods (point :: rest) = conflictingTrigger recorded rest) →
          ∃ other, BreaksAt (fun points => conflictingTrigger periods points = none)
            (point :: rest) other ∧ other.triggerAddress = some trigger := by
        intro recorded step
        rw [step] at found
        obtain ⟨other, broken, written⟩ := ih found
        refine ⟨other, BreaksAt.cons ?_ broken, written⟩
        intro points
        rw [step]
      cases key : point.triggerKey? with
      | none => exact later periods fun rest => by simp [conflictingTrigger, key]
      | some key' =>
          cases recorded : periods.lookup key' with
          | none =>
              exact later ((key', point.period) :: periods) fun rest => by
                simp [conflictingTrigger, key, recorded]
          | some period =>
              cases same : period.sameValue point.period with
              | true =>
                  exact later periods fun rest => by
                    simp [conflictingTrigger, key, recorded, same]
              | false =>
                  have stops : ∀ rest,
                      conflictingTrigger periods (point :: rest) = point.triggerAddress := by
                    intro rest
                    simp [conflictingTrigger, key, recorded, same]
                  rw [stops] at found
                  refine ⟨point, BreaksAt.head rfl ?_, found⟩
                  simp [stops, found]

theorem triggerConflict_breaksAt {sheets : List Sheet} {trigger name : String}
    (found : triggerConflict sheets = some (trigger, name)) :
    ∃ sheet point, BreaksAt SheetsAgree sheets sheet ∧
      BreaksAt (List.Pairwise TriggersAgree) sheet.points point ∧
      point.triggerAddress = some trigger ∧ sheet.name = name := by
  induction sheets with
  | nil => simp [triggerConflict] at found
  | cons sheet rest ih =>
      have agrees := conflictingTrigger_nil_eq_none_iff sheet.points
      cases conflict : conflictingTrigger [] sheet.points with
      | none =>
          simp only [triggerConflict, conflict] at found
          obtain ⟨other, point, broken, pointBroken, written, named⟩ := ih found
          refine ⟨other, point, BreaksAt.cons ?_ broken, pointBroken, written, named⟩
          intro sheets
          simp [SheetsAgree, agrees.mp conflict]
      | some written =>
          simp only [triggerConflict, conflict, Option.some.injEq, Prod.mk.injEq] at found
          obtain ⟨rfl, rfl⟩ := found
          obtain ⟨point, broken, pointWritten⟩ := conflictingTrigger_breaksAt conflict
          refine ⟨sheet, point, BreaksAt.head (by simp [SheetsAgree]) ?_,
            broken.congr conflictingTrigger_nil_eq_none_iff, pointWritten, rfl⟩
          simp [SheetsAgree, ← agrees, conflict]

/-! ## Instances -/

theorem checkInstance_eq_error {names : List String} {pair : Int × Sheet} {fault : Fault}
    (failed : checkInstance names pair = .error fault) :
    (∃ device, deviceNameFor pair.2.name pair.1 = .ok device ∧
        fault = .missingDevice device pair.2.name pair.1) ∨
      ∃ cause, deviceNameFor pair.2.name pair.1 = .error cause ∧ fault = .digits cause := by
  cases named : deviceNameFor pair.2.name pair.1 with
  | error cause =>
      simp only [checkInstance, named, Outcome.mapError_error, Outcome.error_bind,
        Except.error.injEq] at failed
      exact .inr ⟨cause, rfl, failed.symm⟩
  | ok device =>
      by_cases member : device ∈ names
      · simp [checkInstance, named, member] at failed
      · simp only [checkInstance, named, member, Outcome.mapError_ok, Outcome.ok_bind, ↓reduceIte,
          Except.error.injEq] at failed
        exact .inl ⟨device, rfl, failed.symm⟩

/-- Instances are refused at the first that is not served. -/
theorem checkInstances_eq_error {names : List String} {sheets : List Sheet} {module : Int}
    {count : Nat} {fault : Fault}
    (failed : checkInstances names sheets module count = .error fault) :
    ∃ pair, BreaksAt (InstancesServed names) (pairsFrom sheets module count) pair ∧
      checkInstance names pair = .error fault := by
  rw [checkInstances_eq_forM] at failed
  obtain ⟨before, pair, after, split, served, unserved⟩ := Outcome.forM_eq_error.mp failed
  refine ⟨pair, ?_, unserved⟩
  rw [split]
  apply breaksAt_forall
  · exact fun earlier member => checkInstance_eq_ok.mp (served earlier member)
  · intro here
    rw [checkInstance_eq_ok.mpr here] at unserved
    cases unserved

/-! ## The rules in order -/

/-- The rules of validation, in the order in which they are checked. -/
inductive Rule where
  | deviceTable
  | devices
  | ips
  | properties
  | points
  | triggers
  | instances

/-- The place of a rule in the order. -/
def Rule.place : Rule → Nat
  | .deviceTable => 0
  | .devices => 1
  | .ips => 2
  | .properties => 3
  | .points => 4
  | .triggers => 5
  | .instances => 6

/-- The rows that name a device; a missing table has none. -/
def namedRows (tables : Tables) : List Row :=
  deviceRows (tables.devices.getD [])

/-- Every row of the device table that names a device can be read. -/
def RowsReadable (rows : List Row) : Prop :=
  ∀ row ∈ rows, ReadableRow row

/-- The instances of all sheets: modules in order, and for each of them the sheets in order. -/
def instances (tables : Tables) (maxModules : Int) : List (Int × Sheet) :=
  pairsFrom (tables.sheets.map sheetOf) 1 maxModules.toNat

/-- The tables as a whole keep a rule. -/
def Keeps (tables : Tables) (maxModules : Int) : Rule → Prop
  | .deviceTable => tables.devices ≠ none
  | .devices => RowsReadable (namedRows tables)
  | .ips => ((namedRows tables).map deviceIp).Nodup
  | .properties => PropertiesDistinct (propertyRows tables.sheets)
  | .points => RowsUsable (pointEntries tables.sheets)
  | .triggers => SheetsAgree (tables.sheets.map sheetOf)
  | .instances =>
    InstancesServed ((namedRows tables).map deviceName) (instances tables maxModules)

/-- The tables break a rule, and a fault names where they first do. -/
inductive Breaks (tables : Tables) (maxModules : Int) : Rule → Fault → Prop
  | deviceTable (absent : tables.devices = none) :
      Breaks tables maxModules .deviceTable .missingDeviceTable
  | devices {row : Row} {fault : Fault} (broken : BreaksAt RowsReadable (namedRows tables) row)
      (failed : deviceOf row = .error fault) : Breaks tables maxModules .devices fault
  | ips {ip : String} (broken : BreaksAt List.Nodup ((namedRows tables).map deviceIp) ip) :
      Breaks tables maxModules .ips (.duplicateIp ip)
  | properties {sheet name : String} {row : Row}
      (broken : BreaksAt PropertiesDistinct (propertyRows tables.sheets) (sheet, row))
      (named : propertyName row = .ok name) :
      Breaks tables maxModules .properties (.duplicateProperty name sheet)
  | unwrittenProperty {sheet : String} {row : Row} {cause : WriteFault}
      (broken : BreaksAt PropertiesDistinct (propertyRows tables.sheets) (sheet, row))
      (unwritten : propertyName row = .error cause) :
      Breaks tables maxModules .properties (.digits cause)
  | points {sheet : String} {row : Row} {cause : PointFault}
      (broken : BreaksAt RowsUsable (pointEntries tables.sheets) (sheet, row))
      (failed : readPoint row = .error cause) :
      Breaks tables maxModules .points (.ofPoint (propertySpelling row) sheet cause)
  | triggers {sheet : Sheet} {point : Point} {trigger : String}
      (broken : BreaksAt SheetsAgree (tables.sheets.map sheetOf) sheet)
      (disagrees : BreaksAt (List.Pairwise TriggersAgree) sheet.points point)
      (written : point.triggerAddress = some trigger) :
      Breaks tables maxModules .triggers (.triggerPeriods trigger sheet.name)
  | instances {module : Int} {sheet : Sheet} {device : String}
      (broken : BreaksAt (InstancesServed ((namedRows tables).map deviceName))
        (instances tables maxModules) (module, sheet))
      (named : deviceNameFor sheet.name module = .ok device) :
      Breaks tables maxModules .instances (.missingDevice device sheet.name module)
  | unwrittenInstance {module : Int} {sheet : Sheet} {cause : WriteFault}
      (broken : BreaksAt (InstancesServed ((namedRows tables).map deviceName))
        (instances tables maxModules) (module, sheet))
      (unwritten : deviceNameFor sheet.name module = .error cause) :
      Breaks tables maxModules .instances (.digits cause)

/-- The tables keep all rules before one. -/
def KeepsBefore (tables : Tables) (maxModules : Int) (rule : Rule) : Prop :=
  ∀ earlier : Rule, earlier.place < rule.place → Keeps tables maxModules earlier

/-- A fault names where a rule breaks, and all rules before it are kept. -/
def FirstViolation (tables : Tables) (maxModules : Int) (fault : Fault) : Prop :=
  ∃ rule : Rule, KeepsBefore tables maxModules rule ∧ Breaks tables maxModules rule fault

section Rules

variable {tables : Tables} {maxModules : Int}

theorem Rule.eq_of_place_eq {rule other : Rule} (same : rule.place = other.place) :
    rule = other := by
  cases rule <;> cases other <;> first | rfl | cases same

theorem KeepsBefore.next {rule : Rule} (before : KeepsBefore tables maxModules rule)
    (kept : Keeps tables maxModules rule) (next : Rule) (order : next.place = rule.place + 1) :
    KeepsBefore tables maxModules next := by
  intro earlier less
  rcases Nat.lt_or_eq_of_le (Nat.le_of_lt_succ (order ▸ less)) with sooner | here
  · exact before earlier sooner
  · rw [Rule.eq_of_place_eq here]
    exact kept

theorem propertiesDistinct_inherited (before after : List (String × Row))
    (distinct : PropertiesDistinct (before ++ after)) : PropertiesDistinct before := by
  rw [PropertiesDistinct, List.map_append] at distinct
  exact ⟨(List.forall_mem_append.mp distinct.1).1, distinct.2.of_append_left⟩

theorem pairwise_inherited {α : Type} {relation : α → α → Prop} (before after : List α)
    (pairwise : (before ++ after).Pairwise relation) : before.Pairwise relation :=
  (List.pairwise_append.mp pairwise).1

theorem forall_inherited {α : Type} {good : α → Prop} (before after : List α)
    (every : ∀ item ∈ before ++ after, good item) : ∀ item ∈ before, good item :=
  (List.forall_mem_append.mp every).1

theorem Breaks.not_keeps {rule : Rule} {fault : Fault}
    (breaks : Breaks tables maxModules rule fault) : ¬Keeps tables maxModules rule := by
  cases breaks with
  | deviceTable absent => exact fun present => present absent
  | devices broken _ => exact broken.not_rule forall_inherited
  | ips broken => exact broken.not_rule pairwise_inherited
  | properties broken _ | unwrittenProperty broken _ =>
      intro distinct
      exact broken.not_rule propertiesDistinct_inherited distinct
  | points broken _ => exact broken.not_rule forall_inherited
  | triggers broken _ _ => exact broken.not_rule forall_inherited
  | instances broken _ | unwrittenInstance broken _ => exact broken.not_rule forall_inherited

/-- The property names break at one row, and what its name comes to settles the fault. -/
theorem Breaks.exists_property {fault : Fault}
    (breaks : Breaks tables maxModules .properties fault) :
    ∃ entry, BreaksAt PropertiesDistinct (propertyRows tables.sheets) entry ∧
      (∀ name, propertyName entry.2 = .ok name → fault = .duplicateProperty name entry.1) ∧
        ∀ cause, propertyName entry.2 = .error cause → fault = .digits cause := by
  cases breaks with
  | properties broken named => exact ⟨_, broken, by simp [named], by simp [named]⟩
  | unwrittenProperty broken unwritten =>
      exact ⟨_, broken, by simp [unwritten], by simp [unwritten]⟩

/-- The instances break at one pair, and what the name of its device comes to settles the fault. -/
theorem Breaks.exists_instance {fault : Fault}
    (breaks : Breaks tables maxModules .instances fault) :
    ∃ pair, BreaksAt (InstancesServed ((namedRows tables).map deviceName))
        (Validation.instances tables maxModules) pair ∧
      (∀ device, deviceNameFor pair.2.name pair.1 = .ok device →
        fault = .missingDevice device pair.2.name pair.1) ∧
        ∀ cause, deviceNameFor pair.2.name pair.1 = .error cause → fault = .digits cause := by
  cases breaks with
  | instances broken named => exact ⟨_, broken, by simp [named], by simp [named]⟩
  | unwrittenInstance broken unwritten =>
      exact ⟨_, broken, by simp [unwritten], by simp [unwritten]⟩

/-- A rule is broken with one fault only. -/
theorem Breaks.unique {rule : Rule} {fault other : Fault}
    (breaks : Breaks tables maxModules rule fault)
    (otherBreaks : Breaks tables maxModules rule other) : fault = other := by
  cases rule with
  | deviceTable =>
      cases breaks
      cases otherBreaks
      rfl
  | devices =>
      cases breaks with
      | devices broken failed =>
          cases otherBreaks with
          | devices otherBroken otherFailed =>
              cases broken.unique forall_inherited otherBroken
              exact Except.error.inj (failed.symm.trans otherFailed)
  | ips =>
      cases breaks with
      | ips broken =>
          cases otherBreaks with
          | ips otherBroken => rw [broken.unique pairwise_inherited otherBroken]
  | properties =>
      obtain ⟨entry, broken, named, unwritten⟩ := breaks.exists_property
      obtain ⟨other, otherBroken, otherNamed, otherUnwritten⟩ := otherBreaks.exists_property
      cases broken.unique propertiesDistinct_inherited otherBroken
      cases spelled : propertyName entry.2 with
      | ok name => rw [named name spelled, otherNamed name spelled]
      | error cause => rw [unwritten cause spelled, otherUnwritten cause spelled]
  | points =>
      cases breaks with
      | points broken failed =>
          cases otherBreaks with
          | points otherBroken otherFailed =>
              cases broken.unique forall_inherited otherBroken
              cases failed.symm.trans otherFailed
              rfl
  | triggers =>
      cases breaks with
      | triggers broken disagrees written =>
          cases otherBreaks with
          | triggers otherBroken otherDisagrees otherWritten =>
              cases broken.unique forall_inherited otherBroken
              cases disagrees.unique pairwise_inherited otherDisagrees
              cases written.symm.trans otherWritten
              rfl
  | instances =>
      obtain ⟨pair, broken, named, unwritten⟩ := breaks.exists_instance
      obtain ⟨other, otherBroken, otherNamed, otherUnwritten⟩ := otherBreaks.exists_instance
      cases broken.unique forall_inherited otherBroken
      cases spelled : deviceNameFor pair.2.name pair.1 with
      | ok device => rw [named device spelled, otherNamed device spelled]
      | error cause => rw [unwritten cause spelled, otherUnwritten cause spelled]

theorem FirstViolation.unique {fault other : Fault}
    (violation : FirstViolation tables maxModules fault)
    (otherViolation : FirstViolation tables maxModules other) : fault = other := by
  obtain ⟨rule, kept, breaks⟩ := violation
  obtain ⟨rule', kept', breaks'⟩ := otherViolation
  rcases Nat.lt_trichotomy rule.place rule'.place with less | same | greater
  · exact absurd (kept' rule less) breaks.not_keeps
  · cases Rule.eq_of_place_eq same
    exact breaks.unique breaks'
  · exact absurd (kept rule' greater) breaks'.not_keeps

/-! ## The stages -/

theorem namedRows_eq {rows : List Row} (present : tables.devices = some rows) :
    namedRows tables = deviceRows rows := by
  simp [namedRows, present]

theorem keepsBefore_deviceTable : KeepsBefore tables maxModules .deviceTable := by
  intro earlier before
  cases before

theorem keeps_deviceTable {rows : List Row} (present : tables.devices = some rows) :
    Keeps tables maxModules .deviceTable := by
  simp [Keeps, present]

/-- A device table that can be read keeps the rules on its presence and its rows. -/
theorem keepsBefore_ips {rows : List Row} {devices : List Device}
    (present : tables.devices = some rows) (read : readDevices rows = .ok devices) :
    KeepsBefore tables maxModules .ips := by
  have readable : Keeps tables maxModules .devices := by
    intro row member
    rw [namedRows_eq present] at member
    rw [readDevices_eq_mapM, Outcome.mapM_eq_ok] at read
    obtain ⟨device, _, given⟩ := Outcome.exists_of_mem_left read member
    exact exists_deviceOf_iff.mp ⟨device, given⟩
  have keepsTable : KeepsBefore tables maxModules .devices :=
    keepsBefore_deviceTable.next (keeps_deviceTable present) .devices rfl
  exact keepsTable.next readable .ips rfl

theorem readDevices_eq_error {rows : List Row} {fault : Fault}
    (failed : readDevices rows = .error fault) :
    ∃ row, BreaksAt RowsReadable (deviceRows rows) row ∧ deviceOf row = .error fault := by
  rw [readDevices_eq_mapM] at failed
  obtain ⟨before, row, after, split, read, unread⟩ := Outcome.mapM_eq_error.mp failed
  refine ⟨row, ?_, unread⟩
  rw [split]
  apply breaksAt_forall
  · exact fun earlier member => exists_deviceOf_iff.mp (read earlier member)
  · intro readable
    obtain ⟨device, given⟩ := exists_deviceOf_iff.mpr readable
    simp [unread] at given

theorem checkIps_eq_error {devices : List Device} {fault : Fault}
    (failed : checkIps devices = .error fault) :
    ∃ ip, BreaksAt List.Nodup (devices.map Device.ip) ip ∧ fault = .duplicateIp ip := by
  obtain ⟨device, broken, ⟨ip, named, rfl⟩ | ⟨cause, impossible, _⟩⟩ :=
    refuseRepeats_eq_error failed
  · cases named
    exact ⟨device.ip, (broken.congr fun _ => checkIps_eq_ok).map, rfl⟩
  · cases impossible

/-- The device stage fails with the first violation of its rules. -/
theorem checkedDevices_eq_error {fault : Fault}
    (failed : checkedDevices tables.devices = .error fault) :
    FirstViolation tables maxModules fault := by
  cases present : tables.devices with
  | none =>
      simp only [checkedDevices, present, Except.error.injEq] at failed
      subst fault
      exact ⟨.deviceTable, keepsBefore_deviceTable, .deviceTable present⟩
  | some rows =>
      simp only [checkedDevices, present, Outcome.bind_eq_error, Outcome.pure_eq_ok, reduceCtorEq,
        and_false, exists_const, or_false] at failed
      rcases failed with unread | ⟨devices, read, repeated⟩
      · obtain ⟨row, broken, rowFailed⟩ := readDevices_eq_error unread
        rw [← namedRows_eq present] at broken
        exact ⟨.devices, keepsBefore_deviceTable.next (keeps_deviceTable present) .devices rfl,
          .devices broken rowFailed⟩
      · obtain ⟨ip, broken, rfl⟩ := checkIps_eq_error repeated
        refine ⟨.ips, keepsBefore_ips present read, .ips ?_⟩
        rw [namedRows_eq present, ← ips_of_readDevices read]
        exact broken

/-- Devices that pass keep all rules of the device table, and have the names of its rows. -/
theorem checkedDevices_eq_ok {devices : List Device}
    (checked : checkedDevices tables.devices = .ok devices) :
    KeepsBefore tables maxModules .properties ∧
      devices.map Device.name = (namedRows tables).map deviceName := by
  cases present : tables.devices with
  | none => simp [checkedDevices, present] at checked
  | some rows =>
      simp only [checkedDevices, present, Outcome.bind_eq_ok, Outcome.pure_eq_ok,
        Except.ok.injEq] at checked
      obtain ⟨_, read, _, distinct, rfl⟩ := checked
      have ips : Keeps tables maxModules .ips := by
        rw [Keeps, namedRows_eq present, ← ips_of_readDevices read]
        exact checkIps_eq_ok.mp distinct
      rw [namedRows_eq present, names_of_readDevices read]
      exact ⟨(keepsBefore_ips present read).next ips .properties rfl, rfl⟩

theorem keeps_of_ok {config : Config} (validated : validate tables maxModules = .ok config)
    (rule : Rule) : Keeps tables maxModules rule := by
  have many : ¬maxModules < 1 := Int.not_lt.mpr (validate_eq_ok validated).modules_pos
  simp only [validate, many, ↓reduceIte, Outcome.bind_eq_ok, refuse_eq_ok] at validated
  obtain ⟨devices, checked, _, distinct, sheets, read, _, agree, _, served, _⟩ := validated
  obtain ⟨before, names⟩ := checkedDevices_eq_ok checked
  obtain ⟨rfl, usable⟩ := readSheets_eq_ok read
  rw [names] at served
  cases rule with
  | properties => exact checkProperties_eq_ok.mp distinct
  | points => exact usable
  | triggers => exact (triggerConflict_eq_none_iff _).mp agree
  | instances => exact checkInstances_eq_ok.mp served
  | deviceTable => exact before _ (by decide)
  | devices => exact before _ (by decide)
  | ips => exact before _ (by decide)

theorem checkProperties_eq_error {fault : Fault}
    (failed : checkProperties tables.sheets = .error fault) :
    Breaks tables maxModules .properties fault := by
  obtain ⟨⟨sheet, row⟩, broken, cause⟩ := refuseRepeats_eq_error failed
  have distinct : BreaksAt PropertiesDistinct (propertyRows tables.sheets) (sheet, row) :=
    broken.congr fun _ => refuseProperties_eq_ok
  rcases cause with ⟨name, named, rfl⟩ | ⟨cause, unwritten, rfl⟩
  · exact .properties distinct named
  · exact .unwrittenProperty distinct unwritten

theorem breaks_instances {fault : Fault}
    (failed : checkInstances ((namedRows tables).map deviceName) (tables.sheets.map sheetOf) 1
      maxModules.toNat = .error fault) :
    Breaks tables maxModules .instances fault := by
  obtain ⟨⟨module, sheet⟩, broken, unserved⟩ := checkInstances_eq_error failed
  rcases checkInstance_eq_error unserved with ⟨device, named, rfl⟩ | ⟨cause, unwritten, rfl⟩
  · exact .instances broken named
  · exact .unwrittenInstance broken unwritten

/-- Tables that fail have a first violation, and fail with it. -/
theorem firstViolation_of_error (positive : 1 ≤ maxModules) {fault : Fault}
    (failed : validate tables maxModules = .error fault) :
    FirstViolation tables maxModules fault := by
  have many : ¬maxModules < 1 := by omega
  simp only [validate, many, ↓reduceIte, Outcome.bind_eq_error, refuse_eq_error, refuse_eq_ok,
    Outcome.pure_eq_ok, reduceCtorEq, and_false, exists_const, or_false] at failed
  rcases failed with devicesFailed | ⟨devices, checked, failed⟩
  · exact checkedDevices_eq_error devicesFailed
  obtain ⟨before, names⟩ := checkedDevices_eq_ok checked
  rcases failed with repeated | ⟨_, distinct, failed⟩
  · exact ⟨.properties, before, checkProperties_eq_error repeated⟩
  replace before := before.next (checkProperties_eq_ok.mp distinct) .points rfl
  rcases failed with unread | ⟨sheets, read, failed⟩
  · obtain ⟨sheet, row, cause, broken, rowFailed, rfl⟩ := readSheets_eq_error unread
    exact ⟨.points, before, .points broken rowFailed⟩
  obtain ⟨rfl, usable⟩ := readSheets_eq_ok read
  replace before := before.next usable .triggers rfl
  rcases failed with ⟨⟨trigger, name⟩, conflict, rfl⟩ | ⟨agree, unserved⟩
  · obtain ⟨sheet, point, broken, disagrees, written, rfl⟩ := triggerConflict_breaksAt conflict
    exact ⟨.triggers, before, .triggers broken disagrees written⟩
  replace before := before.next ((triggerConflict_eq_none_iff _).mp agree) .instances rfl
  rw [names] at unserved
  exact ⟨.instances, before, breaks_instances unserved⟩

/-- Tables are refused with the first violation, and whenever there is one. -/
theorem validate_eq_error_iff (positive : 1 ≤ maxModules) {fault : Fault} :
    validate tables maxModules = .error fault ↔ FirstViolation tables maxModules fault := by
  constructor
  · exact firstViolation_of_error positive
  · intro violation
    cases outcome : validate tables maxModules with
    | error other => rw [violation.unique (firstViolation_of_error positive outcome)]
    | ok config =>
        obtain ⟨rule, _, breaks⟩ := violation
        exact absurd (keeps_of_ok outcome rule) breaks.not_keeps

/-! ## Tables that break several rules at once

The device table has a row without name that repeats an IP address and spells an infinite port. Two
triggers of the second sheet go with two periods each, one of them in two spellings, and the second
module has no devices. -/

def crowdedTables : Tables where
  devices := some [
    [("Device", .text "Line_M1"), ("IP", .text "10.0.0.1"), ("Port", .text "nan")],
    [("Device", .text " "), ("IP", .text "10.0.0.1"), ("Port", .text "inf")],
    [("Device", .text "Pump_M1"), ("IP", .text "10.0.0.2")]]
  sheets := [
    ("Line", [
      [("PropertyName", .text "Speed"), ("Type", .text "Int[]"), ("ValueAddress", .text "d100"),
        ("TriggerAddress", .text "D7"), ("Period", .int (-5))]]),
    (" Pump", [
      [("PropertyName", .text "Run"), ("Type", .text "bool"), ("ValueAddress", .text "M3"),
        ("TriggerAddress", .text "D8"), ("Period", .int (-1))],
      [("PropertyName", .text "Flow"), ("Type", .text "float"), ("ValueAddress", .text "D40"),
        ("TriggerAddress", .text "D7"), ("Period", .int (-1))],
      [("PropertyName", .text "Heat"), ("Type", .text "float"), ("ValueAddress", .text "D50"),
        ("TriggerAddress", .text " x7"), ("Period", .int (-2))],
      [("PropertyName", .text "Tilt"), ("Type", .text "float"), ("ValueAddress", .text "D60"),
        ("TriggerAddress", .text "D8"), ("Period", .int (-3))]])]

/-- The fault names the first point that disagrees with an earlier one. -/
theorem crowdedTables_refused :
    ∃ fault, fault.message = "Trigger 'x7' in sheet 'Pump' is used with more than one period" ∧
      validate crowdedTables 2 = .error fault ∧ FirstViolation crowdedTables 2 fault := by
  have message : (Outcome.fault? (validate crowdedTables 2)).map Fault.message =
      some "Trigger 'x7' in sheet 'Pump' is used with more than one period" := by
    decide +kernel
  obtain ⟨fault, failed, worded⟩ := Outcome.exists_error_of_fault? message
  exact ⟨fault, worded, failed, (validate_eq_error_iff (by decide)).mp failed⟩

/-! ## Faults of the tables and faults of numbers -/

/-- A fault reports a violated rule of the tables, and not a number that cannot be used. -/
def Fault.isViolation : Fault → Bool
  | .moduleCount _ => false
  | .digits _ => false
  | .port _ => false
  | _ => true

/-- Tables give a configuration or a violated rule. -/
def Contained (tables : Tables) (maxModules : Int) : Prop :=
  (∃ config, validate tables maxModules = .ok config) ∨
    ∃ fault, validate tables maxModules = .error fault ∧ fault.isViolation = true

/-- Everything that validation takes by its text can be written: the cells of devices and points,
and the numbers of the modules if there is a sheet to instantiate. -/
structure Written (tables : Tables) (maxModules : Int) : Prop where
  devices : ∀ row ∈ namedRows tables, WrittenRow row
  points : ∀ entry ∈ propertyRows tables.sheets, WrittenPoint entry.2
  modules : tables.sheets ≠ [] → isWritable maxModules = true

instance (tables : Tables) (maxModules : Int) : Decidable (Written tables maxModules) :=
  decidable_of_iff
    ((∀ row ∈ namedRows tables, WrittenRow row) ∧
      (∀ entry ∈ propertyRows tables.sheets, WrittenPoint entry.2) ∧
      (tables.sheets ≠ [] → isWritable maxModules = true))
    ⟨fun ⟨devices, points, modules⟩ => ⟨devices, points, modules⟩,
      fun written => ⟨written.devices, written.points, written.modules⟩⟩

theorem Written.point (written : Written tables maxModules) {sheet : String} {row : Row}
    (member : (sheet, row) ∈ pointEntries tables.sheets) : WrittenPoint row := by
  obtain ⟨table, tableMember, rowMember⟩ := List.mem_flatMap.mp member
  obtain ⟨_, describes, equal⟩ := List.mem_map.mp rowMember
  cases equal
  exact written.points (table.1, row)
    (List.mem_flatMap.mpr ⟨table, tableMember, List.mem_map.mpr ⟨row, describes, rfl⟩⟩)

theorem Written.instance (written : Written tables maxModules) {module : Int} {sheet : Sheet}
    (member : (module, sheet) ∈ instances tables maxModules) : isWritable module = true := by
  obtain ⟨bounds, sheetMember⟩ := mem_pairsFrom.mp member
  obtain ⟨table, tableMember, _⟩ := List.mem_map.mp sheetMember
  exact isWritable_of_natAbs_le (by omega) (written.modules (List.ne_nil_of_mem tableMember))

/-- A rule is broken with a fault of a number only by an infinite port or by something that cannot
be written. -/
theorem Breaks.of_number {rule : Rule} {fault : Fault}
    (breaks : Breaks tables maxModules rule fault) (number : fault.isViolation = false) :
    (fault = .port .infinity ∧ rule = .devices ∧
        ∃ row ∈ namedRows tables, SpellsInfinity (portCell row)) ∨
      (fault = .digits .tooManyDigits ∧ ¬Written tables maxModules) := by
  cases breaks with
  | devices broken failed =>
      rcases deviceOf_eq_error_iff.mp failed with ⟨rfl, unwritten⟩ | ⟨rfl, _, infinite⟩
      · exact .inr ⟨rfl, fun written => unwritten (written.devices _ broken.mem)⟩
      · exact .inl ⟨rfl, rfl, _, broken.mem, infinite⟩
  | unwrittenProperty broken unwritten =>
      obtain ⟨unwritable, rfl⟩ := Cell.trimmedText_eq_error.mp unwritten
      refine .inr ⟨rfl, fun written => ?_⟩
      rw [written.points _ broken.mem "PropertyName" (by decide)] at unwritable
      cases unwritable
  | @points sheet row cause broken failed =>
      cases cause with
      | digits cause =>
          cases cause
          exact .inr ⟨rfl, fun written => readPoint_ne_digits (written.point broken.mem) _ failed⟩
      | type _ | notFinite | negativeLength _ | address _ => cases number
  | unwrittenInstance broken unwritten =>
      obtain ⟨unwritable, rfl⟩ := ifWritable_eq_error.mp unwritten
      refine .inr ⟨rfl, fun written => ?_⟩
      rw [written.instance broken.mem] at unwritable
      cases unwritable
  | deviceTable _ | ips _ | properties _ _ | triggers _ _ _ | instances _ _ => cases number

/-- Where tables give a configuration or a violated rule, all rows of the device table are read. -/
theorem Contained.rowsReadable (positive : 1 ≤ maxModules)
    (contained : Contained tables maxModules) : RowsReadable (namedRows tables) := by
  rcases contained with ⟨config, validated⟩ | ⟨fault, failed, violation⟩
  · exact keeps_of_ok validated .devices
  obtain ⟨rule, before, breaks⟩ := firstViolation_of_error positive failed
  cases breaks with
  | deviceTable absent => simp [RowsReadable, namedRows, absent, deviceRows]
  | devices broken rowFailed =>
      rcases deviceOf_eq_error_iff.mp rowFailed with ⟨rfl, _⟩ | ⟨rfl, _⟩ <;> cases violation
  | ips _ | properties _ _ | unwrittenProperty _ _ | points _ _ | triggers _ _ _ | instances _ _
  | unwrittenInstance _ _ => exact before .devices (by decide)

theorem contained_iff (positive : 1 ≤ maxModules) :
    Contained tables maxModules ↔
      (∀ row ∈ namedRows tables, ReadableRow row) ∧
        ¬FirstViolation tables maxModules (.digits .tooManyDigits) := by
  constructor
  · intro contained
    refine ⟨contained.rowsReadable positive, fun unwritten => ?_⟩
    have failed := (validate_eq_error_iff positive).mpr unwritten
    rcases contained with ⟨config, validated⟩ | ⟨fault, otherFailed, violation⟩
    · cases validated.symm.trans failed
    · cases otherFailed.symm.trans failed
      cases violation
  · rintro ⟨readable, written⟩
    cases outcome : validate tables maxModules with
    | ok config => exact .inl ⟨config, outcome⟩
    | error fault =>
        refine .inr ⟨fault, outcome, ?_⟩
        obtain ⟨rule, before, breaks⟩ := firstViolation_of_error positive outcome
        by_contra number
        rcases breaks.of_number (Bool.eq_false_iff.mpr number) with
          ⟨_, _, row, member, infinite⟩ | ⟨rfl, _⟩
        · exact (readable row member).finite infinite
        · exact written ⟨rule, before, breaks⟩

/-- Which tables give a configuration or a violated rule: those whose device rows can all be read,
and whose first violation is no integer that cannot be written. If everything can be written, the
infinite ports are all that is in the way. No other fault comes of the tables, and a configuration
has the ports that the rows spell, and the default where they spell none. -/
theorem validate_contained (positive : 1 ≤ maxModules) :
    (Contained tables maxModules ↔
      (∀ row ∈ namedRows tables, ReadableRow row) ∧
        ¬FirstViolation tables maxModules (.digits .tooManyDigits)) ∧
    (Written tables maxModules →
      (Contained tables maxModules ↔
        ∀ row ∈ namedRows tables, ¬SpellsInfinity (portCell row))) ∧
    (∀ fault, validate tables maxModules = .error fault → fault.isViolation = false →
      (fault = .port .infinity ∧ ∃ row ∈ namedRows tables, SpellsInfinity (portCell row)) ∨
        (fault = .digits .tooManyDigits ∧ ¬Written tables maxModules)) ∧
    (∀ config, validate tables maxModules = .ok config →
      List.Forall₂ (fun row device => PortOf (portCell row) device.port) (namedRows tables)
        config.devices) := by
  refine ⟨contained_iff positive, fun written => ?_, ?_, ?_⟩
  · rw [contained_iff positive]
    constructor
    · rintro ⟨readable, _⟩ row member
      exact (readable row member).finite
    · intro finite
      refine ⟨fun row member => ⟨written.devices row member, finite row member⟩, ?_⟩
      rintro ⟨rule, _, breaks⟩
      rcases breaks.of_number rfl with ⟨impossible, _⟩ | ⟨_, unwritten⟩
      · cases impossible
      · exact unwritten written
  · intro fault failed number
    obtain ⟨rule, _, breaks⟩ := firstViolation_of_error positive failed
    rcases breaks.of_number number with ⟨isPort, _, row⟩ | unwritten
    · exact .inl ⟨isPort, row⟩
    · exact .inr unwritten
  · intro config validated
    obtain ⟨rows, present, read⟩ := (validate_eq_ok validated).devices
    rw [namedRows_eq present]
    exact (forall₂_of_readDevices read).imp fun row device given => given.2.2

end Rules

/-- Ports in the odd spellings that give one; the infinity stands in a row without device. -/
def portTables : Tables where
  devices := some [
    [("Device", .text "Line_M1"), ("IP", .text "10.0.0.1"), ("Port", .text " 1_503.9 ")],
    [("Device", .text "Spare"), ("IP", .text "10.0.0.2"), ("Port", .text "nan")],
    [("Device", .text ""), ("IP", .text "10.0.0.2"), ("Port", .text "-inf")],
    [("Device", .text "Other"), ("IP", .null), ("Port", .text "0.5")],
    [("Device", .int 7), ("IP", .text "10.0.0.3"), ("Port", .null), ("PORT", .text "0x1F6")]]
  sheets := [("Line", [
    [("PropertyName", .int 12), ("Type", .text "bool"), ("ValueAddress", .text "M3")]])]

def portConfig : Config where
  devices := [⟨"Line_M1", "10.0.0.1", 1503⟩, ⟨"Spare", "10.0.0.2", 502⟩, ⟨"Other", "", 502⟩,
    ⟨"7", "10.0.0.3", 502⟩]
  sheets := [⟨"Line",
    [⟨"12", "", "M3", ⟨.bool, false⟩, none, none, none, Double.zero false⟩]⟩]
  maxModules := 1

theorem portTables_contained :
    validate portTables 1 = .ok portConfig ∧ Written portTables 1 ∧
      (∀ row ∈ namedRows portTables, ¬SpellsInfinity (portCell row)) ∧
      List.Forall₂ (fun row device => PortOf (portCell row) device.port) (namedRows portTables)
        portConfig.devices := by
  have validated : validate portTables 1 = .ok portConfig :=
    Outcome.eq_ok_of_toOption (by decide +kernel)
  have written : Written portTables 1 := by decide +kernel
  obtain ⟨_, contained, _, ports⟩ := @validate_contained portTables 1 (Int.le_refl 1)
  exact ⟨validated, written, (contained written).mp (.inl ⟨_, validated⟩), ports _ validated⟩

/-- One device with an infinite port. -/
def infiniteTables : Tables where
  devices := some [[("Device", .text "S_M1"), ("IP", .text "1.1.1.1"), ("Port", .text "inf")]]
  sheets := [("S", [])]

/-- The port is neither replaced by the default nor reported as a violated rule. -/
theorem infiniteTables_escape :
    ∃ fault, validate infiniteTables 1 = .error fault ∧ fault.isViolation = false ∧
      fault.message = "cannot convert float infinity to integer" := by
  have view : (Outcome.fault? (validate infiniteTables 1)).map
      (fun fault => (fault.isViolation, fault.message)) =
        some (false, "cannot convert float infinity to integer") := by
    decide +kernel
  obtain ⟨fault, failed, viewed⟩ := Outcome.exists_error_of_fault? view
  exact ⟨fault, failed, congrArg Prod.fst viewed, congrArg Prod.snd viewed⟩

end PointTable.Validation
