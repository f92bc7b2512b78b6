import PointTable.Proofs.Coverage
import PointTable.Proofs.Number.Value
import PointTable.Proofs.PeriodText
import PointTable.Proofs.Program

/-!
# Storage tables of periods

The schema is laid out sheet by sheet and period by period, and a table is dropped when its name is
taken. The name tells the sheet and the magnitude of the period, so what remains is one table for
every sheet and magnitude, with the columns of the period that came first. The tasks are grouped
apart from it, by unit and trigger as well; each of them finds the one table of its sheet and
magnitude, which has the columns of its tags if it was laid out for the same sign.
-/

namespace PointTable

open Text

/-! ## Magnitudes of periods -/

namespace Double

theorem toRat_eq_of_sameValue {x y : Double} (equal : x.sameValue y = true) :
    x.toRat = y.toRat := by
  cases x <;> cases y <;> simp_all [sameValue, toRat, signed]
  rcases equal with ⟨rfl, rfl⟩ | ⟨⟨rfl, rfl⟩, rfl⟩
  · simp
  · rfl

end Double

namespace StorageTable

/-! ## Names that are taken -/

theorem keepFirst_append_taken (more taken : List String) (tables : List StorageTable) :
    keepFirst (more ++ taken) tables =
      keepFirst more (tables.filter fun table => table.name ∉ taken) := by
  induction tables generalizing more with
  | nil => rfl
  | cons table rest ih =>
      by_cases before : table.name ∈ taken
      · simp [keepFirst, before, ih]
      · by_cases named : table.name ∈ more
        · simp [keepFirst, before, named, ih]
        · simp only [keepFirst, List.mem_append, named, before, or_self, ↓reduceIte,
            List.filter_cons, not_false_eq_true, decide_true]
          rw [← ih]
          rfl

theorem keepFirst_eq_filter (taken : List String) (tables : List StorageTable) :
    keepFirst taken tables = keepFirst [] (tables.filter fun table => table.name ∉ taken) :=
  keepFirst_append_taken [] taken tables

/-- The first table stays, and no later one of its name does. -/
theorem keepFirst_cons (table : StorageTable) (rest : List StorageTable) :
    keepFirst [] (table :: rest) =
      table :: keepFirst [] (rest.filter fun other => other.name ≠ table.name) := by
  rw [keepFirst, if_neg List.not_mem_nil, keepFirst_eq_filter]
  simp

/-- Tables with other names are kept as if they stood alone. -/
theorem keepFirst_append {taken : List String} {tables others : List StorageTable}
    (untaken : ∀ other ∈ others, other.name ∉ taken)
    (apart : ∀ table ∈ tables, ∀ other ∈ others, other.name ≠ table.name) :
    keepFirst taken (tables ++ others) = keepFirst taken tables ++ keepFirst [] others := by
  induction tables generalizing taken with
  | nil =>
      have all : others.filter (fun other => other.name ∉ taken) = others := by
        simpa using untaken
      rw [List.nil_append, keepFirst_eq_filter, all]
      rfl
  | cons table rest ih =>
      rw [List.forall_mem_cons] at apart
      rw [List.cons_append, keepFirst, keepFirst]
      split
      · exact ih untaken apart.2
      · rw [ih _ apart.2, List.cons_append]
        intro other member
        rw [List.mem_cons, not_or]
        exact ⟨apart.1 other member, untaken other member⟩

/-- No two tables that are kept share a name, and none has one that is taken. -/
theorem keepFirst_names (taken : List String) (tables : List StorageTable) :
    ((keepFirst taken tables).map StorageTable.name).Nodup ∧
      ∀ table ∈ keepFirst taken tables, table.name ∉ taken := by
  induction tables generalizing taken with
  | nil => simp [keepFirst]
  | cons table rest ih =>
      rw [keepFirst]
      split
      · exact ih taken
      · next fresh =>
          obtain ⟨nodup, apart⟩ := ih (table.name :: taken)
          rw [List.map_cons, List.nodup_cons, List.forall_mem_cons]
          refine ⟨⟨?_, nodup⟩, fresh, fun other member => ?_⟩
          · intro again
            obtain ⟨other, member, same⟩ := List.mem_map.mp again
            exact apart other member (same ▸ List.mem_cons_self)
          · exact fun before => apart other member (List.mem_cons_of_mem _ before)

/-! ## The tables of one sheet -/

theorem eraseDups_map_cons {α β : Type} [DecidableEq β] (image : α → β) (item : α)
    (rest : List α) :
    ((item :: rest).map image).eraseDups =
      image item :: (((item :: rest).filter fun other => image other ≠ image item).map
        image).eraseDups := by
  rw [List.map_cons, List.eraseDups_cons, List.filter_cons_of_neg (by simp), List.filter_map]
  congr 3
  apply List.filter_congr
  intro other _
  rw [Bool.eq_iff_iff]
  simp

/-- The magnitudes of points' periods without zero, each once, in the order they are first seen. -/
def magnitudes (points : List Point) : List ℚ :=
  ((points.map fun point => |point.period.toRat|).filter fun magnitude => 0 < magnitude).eraseDups

/-- What the table of a sheet for a magnitude is: it is laid out for the period of the first point
of that magnitude, and its columns are those of the points of that period, in order. -/
structure TableFor (sheet : String) (points : List Point) (magnitude : ℚ) (table : StorageTable) :
    Prop where
  sheet_eq : table.sheet = sheet
  name_eq : table.name = Period.storageName sheet table.period
  first : ∃ point, points.find? (fun point => |point.period.toRat| = magnitude) = some point ∧
    table.period = point.period
  columns : table.columns =
    (points.filter fun point => point.period.toRat = table.period.toRat).map columnOf

/-- A table for some of the points is one for all of them, if the points are picked by
magnitude. -/
theorem TableFor.of_filter {sheet : String} {points : List Point} (keep : ℚ → Bool)
    {magnitude : ℚ} {table : StorageTable}
    (laid : TableFor sheet (points.filter fun point => keep |point.period.toRat|) magnitude table) :
    TableFor sheet points magnitude table := by
  obtain ⟨point, found, period⟩ := laid.first
  have inside := List.mem_of_find?_eq_some found
  have kept : keep |point.period.toRat| = true := by simpa using (List.mem_filter.mp inside).2
  have matched : |point.period.toRat| = magnitude := by simpa using List.find?_some found
  refine ⟨laid.sheet_eq, laid.name_eq, ⟨point, ?_, period⟩, ?_⟩
  · rw [← found, List.find?_filter]
    congr 1
    funext other
    by_cases same : |other.period.toRat| = magnitude
    · simp [same, ← matched, kept]
    · simp [same]
  · rw [laid.columns, List.filter_filter, period]
    congr 2
    funext other
    by_cases same : other.period.toRat = point.period.toRat
    · simp [same, kept]
    · simp [same]

/-- The table of points that share a period. -/
def ofGroup (sheet : String) (group : Double × List Point) : StorageTable :=
  ⟨Period.storageName sheet group.1, sheet, group.1, group.2.map columnOf⟩

/-- The tables of a sheet's points that remain when each name is used once. -/
def ofPoints (sheet : String) (points : List Point) : List StorageTable :=
  keepFirst [] ((Ordered.groupBy Double.sameValue Point.period points).map (ofGroup sheet))

theorem groupBy_period_groups {points : List Point}
    (numbers : ∀ point ∈ points, point.period.isFinite = true) :
    Ordered.Groups Double.sameValue Point.period points
      (Ordered.groupBy Double.sameValue Point.period points) :=
  Ordered.groupBy_groups fun point member => Double.sameValue_refl (numbers point member)

/-- Dropping the tables of a name is dropping the groups of a magnitude. -/
theorem filter_ofGroup {sheet : String} {period : Double} (number : period.isFinite = true)
    {points : List Point} (numbers : ∀ point ∈ points, point.period.isFinite = true) :
    ((Ordered.groupBy Double.sameValue Point.period points).map (ofGroup sheet)).filter
        (fun table => table.name ≠ Period.storageName sheet period) =
      (Ordered.groupBy Double.sameValue Point.period
        (points.filter fun point => |point.period.toRat| ≠ |period.toRat|)).map
          (ofGroup sheet) := by
  have respects : ∀ left right : Double, left.sameValue right = true →
      decide (|left.toRat| ≠ |period.toRat|) = decide (|right.toRat| ≠ |period.toRat|) := by
    intro left right equal
    rw [Double.toRat_eq_of_sameValue equal]
  rw [List.filter_map, ← Ordered.groupBy_filter respects]
  congr 1
  apply List.filter_congr
  intro group member
  have grouped := groupBy_period_groups numbers
  obtain ⟨item, inside, keyed⟩ := grouped.opened group member
  have groupNumber : group.1.isFinite = true :=
    keyed ▸ numbers item (grouped.members group member item inside).1
  apply decide_eq_decide.mpr
  rw [ne_comm, Ne, ofGroup, Period.storageName_eq_iff number groupNumber, ne_comm]
  simp

/-- The first point opens a table, and all points of its magnitude are done with. -/
theorem ofPoints_cons {sheet : String} {point : Point} {rest : List Point}
    (numbers : ∀ other ∈ point :: rest, other.period.isFinite = true) :
    ofPoints sheet (point :: rest) =
      ofGroup sheet (point.period,
          point :: rest.filter fun other => point.period.sameValue other.period) ::
        ofPoints sheet ((point :: rest).filter fun other =>
          |other.period.toRat| ≠ |point.period.toRat|) := by
  rw [List.forall_mem_cons] at numbers
  have remaining : (rest.filter fun other => !point.period.sameValue other.period).filter
        (fun other => |other.period.toRat| ≠ |point.period.toRat|) =
      (point :: rest).filter fun other => |other.period.toRat| ≠ |point.period.toRat| := by
    rw [List.filter_filter, List.filter_cons_of_neg (by simp)]
    congr 1
    funext other
    cases equal : point.period.sameValue other.period with
    | true => simp [Double.toRat_eq_of_sameValue equal]
    | false => simp
  rw [ofPoints, Ordered.groupBy_cons, List.map_cons, keepFirst_cons, ofPoints, ← remaining,
    ← filter_ofGroup numbers.1]
  · rfl
  · intro other member
    exact numbers.2 other (List.mem_of_mem_filter member)

theorem tableFor_ofGroup (sheet : String) {point : Point} {rest : List Point}
    (numbers : ∀ other ∈ point :: rest, other.period.isFinite = true) :
    TableFor sheet (point :: rest) |point.period.toRat|
      (ofGroup sheet (point.period,
        point :: rest.filter fun other => point.period.sameValue other.period)) := by
  rw [List.forall_mem_cons] at numbers
  refine ⟨rfl, rfl, ⟨point, by simp, rfl⟩, ?_⟩
  have same : (rest.filter fun other => point.period.sameValue other.period) =
      rest.filter fun other => other.period.toRat = point.period.toRat := by
    apply List.filter_congr
    intro other member
    rw [Bool.eq_iff_iff, Double.sameValue_iff numbers.1 (numbers.2 other member),
      decide_eq_true_eq, eq_comm]
  rw [List.filter_cons_of_pos (by simp [ofGroup]), ofGroup, same]

/-- The tables of points are one for every magnitude of their periods. -/
theorem ofPoints_forall₂ (sheet : String) {points : List Point}
    (numbers : ∀ point ∈ points, point.period.isFinite = true) :
    List.Forall₂ (TableFor sheet points)
      (points.map fun point => |point.period.toRat|).eraseDups (ofPoints sheet points) := by
  -- The points that the first table leaves are fewer, so the induction is on their number.
  induction length : points.length using Nat.strong_induction_on generalizing points with
  | _ count ih =>
      cases points with
      | nil => exact .nil
      | cons point rest =>
          have fewer : ((point :: rest).filter fun other =>
              |other.period.toRat| ≠ |point.period.toRat|).length < count := by
            rw [List.filter_cons_of_neg (by simp), ← length]
            exact Nat.lt_succ_of_le (List.length_filter_le _ _)
          have others := ih _ fewer
            (fun other member => numbers other (List.mem_of_mem_filter member)) rfl
          rw [eraseDups_map_cons, ofPoints_cons numbers]
          refine .cons (tableFor_ofGroup sheet numbers) (others.imp fun _ _ laid => ?_)
          exact TableFor.of_filter (fun magnitude => magnitude ≠ |point.period.toRat|) laid

theorem not_isZero_eq {period : Double} (number : period.isFinite = true) :
    (!period.isZero) = decide (0 < |period.toRat|) := by
  rw [Bool.eq_iff_iff, decide_eq_true_eq, abs_pos, Ne, ← Double.isZero_iff number]
  simp

/-- A sheet keeps one table for every magnitude. -/
theorem candidatesOf_forall₂ {sheet : Sheet}
    (numbers : ∀ point ∈ sheet.points, point.period.isFinite = true) :
    List.Forall₂ (TableFor sheet.name sheet.points) (magnitudes sheet.points)
      (keepFirst [] (candidatesOf sheet)) := by
  have captured : (sheet.points.filter fun point => !point.period.isZero) =
      sheet.points.filter fun point => 0 < |point.period.toRat| := by
    apply List.filter_congr
    intro point member
    exact not_isZero_eq (numbers point member)
  have tables : keepFirst [] (candidatesOf sheet) =
      ofPoints sheet.name (sheet.points.filter fun point => 0 < |point.period.toRat|) := by
    rw [← captured]
    rfl
  rw [tables, magnitudes, List.filter_map]
  refine (ofPoints_forall₂ sheet.name fun point member => ?_).imp fun _ _ =>
    TableFor.of_filter fun magnitude => 0 < magnitude
  exact numbers point (List.mem_of_mem_filter member)

/-! ## The tables of all sheets -/

theorem captured_of_mem_candidatesOf {sheet : Sheet} {table : StorageTable}
    (numbers : ∀ point ∈ sheet.points, point.period.isFinite = true)
    (member : table ∈ candidatesOf sheet) :
    ∃ period, SheetUnit.Captured sheet period ∧
      table.name = Period.storageName sheet.name period := by
  obtain ⟨group, groupMember, rfl⟩ := List.mem_map.mp member
  have grouped := groupBy_period_groups fun point member =>
    numbers point (List.mem_of_mem_filter (p := fun point => !point.period.isZero) member)
  obtain ⟨point, inside, keyed⟩ := grouped.opened group groupMember
  obtain ⟨pointMember, nonzero⟩ :=
    List.mem_filter.mp (grouped.members group groupMember point inside).1
  refine ⟨group.1, ⟨point, pointMember, keyed, ?_⟩, rfl⟩
  rw [← keyed]
  simpa using nonzero

theorem number_of_captured {sheet : Sheet} {period : Double}
    (numbers : ∀ point ∈ sheet.points, point.period.isFinite = true)
    (captured : SheetUnit.Captured sheet period) :
    period.isFinite = true ∧ period.isZero = false := by
  obtain ⟨point, member, rfl, nonzero⟩ := captured
  exact ⟨numbers point member, nonzero⟩

/-- Sheets of different names share no table, so each keeps its own. -/
theorem keepFirst_candidates {sheets : List Sheet}
    (numbers : ∀ sheet ∈ sheets, ∀ point ∈ sheet.points, point.period.isFinite = true)
    (distinct : (sheets.map Sheet.name).Nodup) :
    keepFirst [] (sheets.flatMap candidatesOf) =
      sheets.flatMap fun sheet => keepFirst [] (candidatesOf sheet) := by
  induction sheets with
  | nil => rfl
  | cons sheet rest ih =>
      rw [List.forall_mem_cons] at numbers
      rw [List.map_cons, List.nodup_cons] at distinct
      rw [List.flatMap_cons, List.flatMap_cons, ← ih numbers.2 distinct.2]
      apply keepFirst_append (fun _ _ => List.not_mem_nil)
      intro table member other otherMember same
      obtain ⟨sheet', sheetMember', candidate⟩ := List.mem_flatMap.mp otherMember
      obtain ⟨period, captured, named⟩ := captured_of_mem_candidatesOf numbers.1 member
      obtain ⟨period', captured', named'⟩ :=
        captured_of_mem_candidatesOf (numbers.2 sheet' sheetMember') candidate
      obtain ⟨number, _⟩ := number_of_captured numbers.1 captured
      obtain ⟨number', _⟩ := number_of_captured (numbers.2 sheet' sheetMember') captured'
      rw [named, named', eq_comm, Period.storageName_eq_iff number number'] at same
      exact distinct.1 (same.1 ▸ List.mem_map_of_mem sheetMember')

/-- The schema has one table for every sheet and every magnitude of its periods, in order. -/
theorem ofConfig_forall₂ {config : Config}
    (numbers : ∀ sheet ∈ config.sheets, ∀ point ∈ sheet.points, point.period.isFinite = true)
    (distinct : (config.sheets.map Sheet.name).Nodup) :
    List.Forall₂ (fun pair table => TableFor pair.1.name pair.1.points pair.2 table)
      (config.sheets.flatMap fun sheet =>
        (magnitudes sheet.points).map fun magnitude => (sheet, magnitude))
      (ofConfig config) := by
  rw [ofConfig, candidates, keepFirst_candidates numbers distinct, List.flatMap_def,
    List.flatMap_def]
  apply List.rel_flatten
  rw [List.forall₂_map_left_iff, List.forall₂_map_right_iff, List.forall₂_same]
  intro sheet member
  rw [List.forall₂_map_left_iff]
  exact candidatesOf_forall₂ (numbers sheet member)

/-! ## The tables of tasks -/

/-- A capture that is stored in a table: it is the only table of the name that the capture asks
for, it is laid out for the sheet of the capture and the magnitude of its period, and it has the
columns of the captured tags exactly if it is laid out for their very period. -/
structure Stores (config : Config) (group : PeriodGroup) (task : Task) (table : StorageTable) :
    Prop where
  only : ((ofConfig config).filter fun other => task.duty.storage? = some other.name) = [table]
  sheet_eq : table.sheet = task.sheet
  laid : ∃ sheet ∈ config.sheets, sheet.name = task.sheet ∧
    TableFor sheet.name sheet.points |group.period.toRat| table
  filled : task.tags ≠ []
  columns : ∀ tag ∈ task.tags,
    (tag.property ∈ table.columns.map StorageColumn.propertyName ↔
      group.period.toRat = table.period.toRat)

section

variable {tables : Tables} {maxModules : Int} {config : Config} {units : List SheetUnit}

/-- A property of a sheet is a column of a table of the sheet exactly if its point has the period
of the table. -/
theorem TableFor.mem_columns_iff (accepted : Validation.Accepted tables maxModules config)
    {sheet : Sheet} (sheetMember : sheet ∈ config.sheets) {magnitude : ℚ} {table : StorageTable}
    (laid : TableFor sheet.name sheet.points magnitude table) {point : Point}
    (member : point ∈ sheet.points) :
    point.propertyName ∈ table.columns.map StorageColumn.propertyName ↔
      point.period.toRat = table.period.toRat := by
  rw [laid.columns, List.map_map, List.mem_map]
  constructor
  · rintro ⟨other, otherMember, named⟩
    obtain ⟨known, same⟩ := List.mem_filter.mp otherMember
    obtain ⟨_, rfl⟩ :=
      accepted.eq_of_propertyName_eq sheetMember sheetMember known member named
    exact of_decide_eq_true same
  · intro same
    exact ⟨point, List.mem_filter.mpr ⟨member, decide_eq_true same⟩, rfl⟩

/-- Every capture of a group is stored in a table of the schema. -/
theorem exists_stores (accepted : Validation.Accepted tables maxModules config)
    (built : SheetUnit.ofConfig config = .ok units)
    (distinct : (config.sheets.map Sheet.name).Nodup) {group : PeriodGroup}
    (groupMember : group ∈ Task.allGroups units) {options : Options} {task : Task}
    (capture : Task.CaptureOf options group task) : ∃ table, Stores config group task table := by
  have numbers : ∀ sheet ∈ config.sheets, ∀ point ∈ sheet.points,
      point.period.isFinite = true := fun sheet sheetMember point member =>
    (accepted.usable sheetMember member).period_finite
  obtain ⟨unit, unitMember, groupMember⟩ := List.mem_flatMap.mp groupMember
  obtain ⟨module, sheet, sheetMember, instantiated, grouped⟩ :=
    SheetUnit.groupOf_of_mem_groups accepted built unitMember groupMember
  obtain ⟨number, nonzero⟩ := number_of_captured (numbers sheet sheetMember) grouped.captured
  have seen : |group.period.toRat| ∈ magnitudes sheet.points := by
    obtain ⟨point, member, same, _⟩ := grouped.captured
    have positive := not_isZero_eq number
    rw [nonzero, eq_comm] at positive
    rw [magnitudes, List.mem_eraseDups, List.mem_filter]
    exact ⟨List.mem_map.mpr ⟨point, member, by rw [same]⟩, positive⟩
  obtain ⟨table, tableMember, laid⟩ := Outcome.exists_of_mem_left
    (ofConfig_forall₂ numbers distinct)
    (List.mem_flatMap.mpr ⟨sheet, sheetMember, List.mem_map_of_mem seen⟩)
  obtain ⟨first, found, period⟩ := laid.first
  have named : Period.storageName group.sheet group.period = table.name := by
    have firstMember := List.mem_of_find?_eq_some found
    have matched : |first.period.toRat| = |group.period.toRat| := by
      simpa using List.find?_some found
    rw [laid.name_eq, period, grouped.sheet_eq, Period.storageName_eq_iff number
      (numbers sheet sheetMember first firstMember)]
    exact ⟨rfl, matched.symm⟩
  refine ⟨table, ?_, ?_, ⟨sheet, sheetMember, ?_, laid⟩, ?_, ?_⟩
  · rw [capture.storage?_eq, named]
    simp only [Option.some.injEq, eq_comm (a := table.name)]
    exact Ordered.filter_eq_singleton (keepFirst_names [] _).1 tableMember
  · rw [laid.sheet_eq, capture.sheet_eq, grouped.sheet_eq]
  · rw [capture.sheet_eq, grouped.sheet_eq]
  · obtain ⟨tag, inside⟩ := grouped.filled
    rw [capture.tags_eq]
    exact List.ne_nil_of_mem inside
  · intro tag inside
    rw [capture.tags_eq] at inside
    obtain ⟨point, itemMember, same, _⟩ := grouped.members tag inside
    have tagged := SheetUnit.tagOf_eq_ok (instantiated.tagOf_of_mem_zip itemMember)
    rw [tagged.property, ← same]
    exact laid.mem_columns_iff accepted sheetMember (List.of_mem_zip itemMember).1

end

/-- The storage schema of a configuration and its tasks agree. -/
structure Agrees (config : Config) : Prop where
  /-- There is one table for every sheet and every magnitude of its periods, in order. -/
  tables : List.Forall₂ (fun pair table => TableFor pair.1.name pair.1.points pair.2 table)
    (config.sheets.flatMap fun sheet =>
      (magnitudes sheet.points).map fun magnitude => (sheet, magnitude))
    (ofConfig config)
  /-- The units are built, and if their tasks can be made, every one that captures a group is stored
  in exactly one table. -/
  captures : ∃ units, SheetUnit.ofConfig config = .ok units ∧
    ∀ options tasks, Task.ofUnits options units = .ok tasks →
      ∃ captures, tasks = Task.allMonitors options units ++ captures ∧
        List.Forall₂ (fun group task => Task.CaptureOf options group task ∧
          ∃ table, Stores config group task table) (Task.allGroups units) captures

/-- The schema of a validated configuration with distinct sheet names agrees with its tasks. -/
theorem ofConfig_agrees {tables : Tables} {maxModules : Int} {config : Config}
    (validated : Validation.validate tables maxModules = .ok config)
    (distinct : (config.sheets.map Sheet.name).Nodup) : Agrees config := by
  have accepted := Validation.validate_eq_ok validated
  obtain ⟨units, built⟩ := SheetUnit.ofConfig_ok_of_accepted accepted
  refine ⟨ofConfig_forall₂ (fun sheet sheetMember point member =>
    (accepted.usable sheetMember member).period_finite) distinct, units, built, ?_⟩
  intro options tasks made
  obtain ⟨captures, captured, rfl⟩ := Task.ofUnits_eq_ok.mp made
  refine ⟨captures, rfl, ?_⟩
  refine ((List.forall₂_and_left _ _).mpr
    ⟨fun group member => member, Task.captures_of_ofGroups captured⟩).imp ?_
  rintro group task ⟨member, capture⟩
  exact ⟨capture, exists_stores accepted built distinct member capture⟩

/-! ## A workbook with periods of either sign

Two handshakes of one period share a table with a period of the other sign, which finds none of its
columns there, and the name of one sheet begins like the tables of the other. -/

def signTables : Tables where
  devices := some [
    [("Device", .text "Line_M1"), ("IP", .text "10.0.0.1")],
    [("Device", .text "Line_PeriodAbs_5_M1"), ("IP", .text "10.0.0.2")]]
  sheets := [
    ("Line", [
      [("PropertyName", .text "Fill"), ("Type", .text "short"), ("ValueAddress", .text "D1"),
        ("TriggerAddress", .text "D7"), ("Period", .int (-5))],
      [("PropertyName", .text "Level"), ("Type", .text "float"), ("ValueAddress", .text "D2"),
        ("Period", .text "5.0")],
      [("PropertyName", .text "Idle"), ("Type", .text "bool"), ("ValueAddress", .text "M1")],
      [("PropertyName", .text "Rate"), ("Type", .text "int[]"), ("ValueAddress", .text "D4"),
        ("TriggerAddress", .text "D8"), ("Period", .int (-5))]]),
    ("Line_PeriodAbs_5", [
      [("PropertyName", .text "Run"), ("Type", .text "bool"), ("ValueAddress", .text "M3"),
        ("Period", .text "0.5")]])]

theorem signTables_agree :
    ∃ program, Program.build signTables Options.standard = .ok program ∧
      program.storage.map (fun table => (table.name, table.columns.map
          StorageColumn.propertyName)) =
        [("Line_PeriodAbs_5", ["Fill", "Rate"]), ("Line_PeriodAbs_5_PeriodAbs_0_5", ["Run"])] ∧
      program.tasks.filterMap (fun task => task.duty.storage?) =
        ["Line_PeriodAbs_5", "Line_PeriodAbs_5", "Line_PeriodAbs_5",
          "Line_PeriodAbs_5_PeriodAbs_0_5"] ∧
      Agrees program.config := by
  have computed : ∃ program ∈ (Program.build signTables Options.standard).toOption,
      program.storage.map (fun table => (table.name, table.columns.map
          StorageColumn.propertyName)) =
        [("Line_PeriodAbs_5", ["Fill", "Rate"]), ("Line_PeriodAbs_5_PeriodAbs_0_5", ["Run"])] ∧
      program.tasks.filterMap (fun task => task.duty.storage?) =
        ["Line_PeriodAbs_5", "Line_PeriodAbs_5", "Line_PeriodAbs_5",
          "Line_PeriodAbs_5_PeriodAbs_0_5"] := by
    decide +kernel
  obtain ⟨program, built, schema, stored⟩ := computed
  have stages := Program.build_eq_ok.mp (Outcome.eq_ok_of_toOption built)
  have distinct : (program.config.sheets.map Sheet.name).Nodup := by
    rw [(Validation.validate_eq_ok stages.validated).sheetNames_eq]
    decide +kernel
  exact ⟨program, Outcome.eq_ok_of_toOption built, schema, stored,
    ofConfig_agrees stages.validated distinct⟩

end StorageTable

end PointTable
