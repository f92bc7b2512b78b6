import PointTable.Proofs.Number.Double
import PointTable.Proofs.Outcome
import PointTable.Proofs.Text.Blank
import PointTable.Validation

/-!
# What a validated configuration guarantees

Each stage of validation is a scan with an accumulator of its own. The lemmas here read the good
outcome of every scan as the rule it decides, over the whole input; `Accepted` collects what the
stages have settled, and `Sound` says it again without the stages.
-/

namespace PointTable

/-- What later stages rely on in a point. -/
structure Point.Usable (point : Point) : Prop where
  register : ∃ register, Address.register (.text point.address) = .ok register
  length_pos : ∀ length, point.length = some length → 1 ≤ length
  period_finite : point.period.isFinite = true

/-! ## Instances of sheets -/

namespace SheetUnit

/-- The pairs of a module and a sheet for `count` modules from `module` on: modules in order, and
for each of them the sheets in order. -/
def pairsFrom (sheets : List Sheet) (module : Int) (count : Nat) : List (Int × Sheet) :=
  (List.range count).flatMap fun index : Nat => sheets.map fun sheet => (module + index, sheet)

@[simp] theorem pairsFrom_succ (sheets : List Sheet) (module : Int) (count : Nat) :
    pairsFrom sheets module (count + 1) =
      (sheets.map fun sheet => (module, sheet)) ++ pairsFrom sheets (module + 1) count := by
  have shift : ∀ index : Nat, module + ((index + 1 : Nat) : Int) = module + 1 + index := by
    intro index
    omega
  simp only [pairsFrom, List.range_succ_eq_map, List.flatMap_cons, List.flatMap_map,
    Nat.succ_eq_add_one, shift, Int.natCast_zero, Int.add_zero]

@[simp] theorem mem_pairsFrom {sheets : List Sheet} {module : Int} {count : Nat} {index : Int}
    {sheet : Sheet} :
    (index, sheet) ∈ pairsFrom sheets module count ↔
      (module ≤ index ∧ index < module + count) ∧ sheet ∈ sheets := by
  simp only [pairsFrom, List.mem_flatMap, List.mem_range, List.mem_map, Prod.mk.injEq]
  constructor
  · rintro ⟨offset, bound, other, member, rfl, rfl⟩
    exact ⟨by omega, member⟩
  · rintro ⟨⟨lower, upper⟩, member⟩
    exact ⟨(index - module).toNat, by omega, sheet, member, by omega, rfl⟩

end SheetUnit

namespace Validation

open Text Number SheetUnit

/-! ## Scans for a repeated key -/

/-- The scan passes exactly when all keys can be written and are distinct, and none of them was seen
before. -/
theorem refuseRepeats_eq_ok {α : Type} (writable : α → Bool) (spelling : α → String)
    (fault : α → String → Fault) (seen : List String) (items : List α) :
    refuseRepeats (fun item => ifWritable (writable item) (spelling item)) fault seen items =
        .ok () ↔
      (∀ item ∈ items, writable item = true) ∧ (items.map spelling).Nodup ∧
        ∀ item ∈ items, spelling item ∉ seen := by
  induction items generalizing seen with
  | nil => simp [refuseRepeats]
  | cons item rest ih =>
      cases written : writable item with
      | false => simp [refuseRepeats, written]
      | true =>
          by_cases known : spelling item ∈ seen
          · simp [refuseRepeats, written, known]
          · simp only [refuseRepeats, written, ifWritable_true, Outcome.mapError_ok,
              Outcome.ok_bind, known, ↓reduceIte, ih, List.map_cons, List.nodup_cons,
              List.mem_map, List.mem_cons, not_or, forall_eq_or_imp, not_false_eq_true, true_and]
            constructor
            · rintro ⟨allWritten, distinct, fresh⟩
              refine ⟨allWritten, ⟨?_, distinct⟩, fun other member => (fresh other member).2⟩
              rintro ⟨other, member, equal⟩
              exact (fresh other member).1 equal
            · rintro ⟨allWritten, ⟨absent, distinct⟩, fresh⟩
              refine ⟨allWritten, distinct, fun other member => ⟨?_, fresh other member⟩⟩
              intro equal
              exact absent ⟨other, member, equal⟩

@[simp] theorem checkIps_eq_ok {devices : List Device} :
    checkIps devices = .ok () ↔ (devices.map Device.ip).Nodup := by
  have scan :=
    refuseRepeats_eq_ok (fun _ => true) Device.ip (fun _ ip => .duplicateIp ip) [] devices
  simpa [checkIps] using scan

/-- How the property name of a row is spelled. -/
def propertySpelling (row : Row) : String :=
  (row.get "PropertyName").trimmedSpelling

/-- Property names can be written and are distinct, whatever sheets they stand in. -/
def PropertiesDistinct (entries : List (String × Row)) : Prop :=
  (∀ entry ∈ entries, (entry.2.get "PropertyName").isWritable = true) ∧
    (entries.map fun entry => propertySpelling entry.2).Nodup

theorem refuseProperties_eq_ok {entries : List (String × Row)} :
    refuseRepeats (fun entry => propertyName entry.2)
        (fun entry name => .duplicateProperty name entry.1) [] entries = .ok () ↔
      PropertiesDistinct entries := by
  have scan := refuseRepeats_eq_ok
    (fun entry : String × Row => (entry.2.get "PropertyName").isWritable)
    (fun entry => propertySpelling entry.2) (fun entry name => .duplicateProperty name entry.1) []
    entries
  simp only [List.not_mem_nil, not_false_eq_true, implies_true, and_true] at scan
  exact scan

@[simp] theorem checkProperties_eq_ok {sheets : List (String × List Row)} :
    checkProperties sheets = .ok () ↔ PropertiesDistinct (propertyRows sheets) :=
  refuseProperties_eq_ok

/-! ## Points -/

/-- A row describes a point: every field of the point is what the row's cells say. -/
structure Describes (row : Row) (point : Point) : Prop where
  propertyName : (row.get "PropertyName").trimmedText = .ok point.propertyName
  displayName : (row.get "KeyName").trimmedText = .ok point.displayName
  address : (row.get "ValueAddress").trimmedText = .ok point.address
  pointType : PointType.parse (row.get "Type") = .ok point.pointType
  length : ∃ number, finiteNumber (row.get "Length") = .ok number ∧
    readLength number = .ok point.length
  triggerAddress : (row.get "TriggerAddress").trimmedText.map filledText = .ok point.triggerAddress
  returnAddress : (row.get "ReturnAddress").trimmedText.map filledText = .ok point.returnAddress
  period : ∃ number, finiteNumber (row.get "Period") = .ok number ∧
    point.period = number.getD (Double.zero false)

theorem readLength_pos {number : Option Double} {kept : Option Int}
    (read : readLength number = .ok kept) : ∀ length, kept = some length → 1 ≤ length := by
  intro length equal
  subst equal
  cases number with
  | none => simp [readLength] at read
  | some number =>
      cases truncated : number.truncate with
      | error fault => simp [readLength, truncated] at read
      | ok whole =>
          by_cases negative : whole < 0
          · simp [readLength, truncated, negative] at read
          · by_cases zero : whole = 0
            · simp [readLength, truncated, zero] at read
            · simp only [readLength, truncated, negative, zero, ↓reduceIte, Except.ok.injEq,
                Option.some.injEq] at read
              omega

theorem finiteNumber_eq_error {cell : Cell} {fault : PointFault}
    (failed : finiteNumber cell = .error fault) : fault = .notFinite := by
  unfold finiteNumber at failed
  split at failed
  · cases failed
  · split at failed
    · split at failed <;> cases failed
      rfl
    · cases failed
      rfl

theorem readLength_eq_error {number : Option Double} {fault : PointFault}
    (failed : readLength number = .error fault) :
    fault = .notFinite ∨ ∃ length, fault = .negativeLength length := by
  unfold readLength at failed
  split at failed
  · cases failed
  · split at failed
    · cases failed
      exact .inl rfl
    · split at failed <;> cases failed
      exact .inr ⟨_, rfl⟩

/-- A number that is read is finite, and so is the zero that stands for a blank cell. -/
theorem finiteNumber_getD_isFinite {cell : Cell} {number : Option Double}
    (read : finiteNumber cell = .ok number) :
    (number.getD (Double.zero false)).isFinite = true := by
  by_cases blank : cell.isBlank = true
  · simp only [finiteNumber, blank, ↓reduceIte, Except.ok.injEq] at read
    subst number
    rfl
  · cases value : cell.toDouble with
    | error fault => simp [finiteNumber, blank, value] at read
    | ok x =>
        by_cases finite : x.isFinite = true
        · simp only [finiteNumber, blank, value, finite, Bool.false_eq_true, ↓reduceIte,
            Except.ok.injEq] at read
          subst number
          exact finite
        · simp [finiteNumber, blank, value, finite] at read

/-- Reading a row succeeds only with the point it describes, and only if that point is usable. -/
theorem readPoint_eq_ok {row : Row} {point : Point} (read : readPoint row = .ok point) :
    Describes row point ∧ point.Usable := by
  simp only [readPoint, columnText, writableCell, Outcome.bind_eq_ok, Outcome.mapError_eq_ok,
    Outcome.pure_eq_ok, Except.ok.injEq, ifWritable_eq_ok] at read
  obtain ⟨_, name, pointType, typeRead, _, ⟨_, rfl⟩, _, ⟨_, rfl⟩, lengthNumber, lengthRead,
    periodNumber, periodRead, length, lengthEq, _, address, register, registerRead, _, display, _,
    trigger, _, return', rfl⟩ := read
  refine ⟨⟨name, display, address, typeRead, ⟨lengthNumber, lengthRead, lengthEq⟩, ?_, ?_,
    ⟨periodNumber, periodRead, rfl⟩⟩, ⟨register, registerRead⟩, ?_, ?_⟩
  · simp only [trigger, Outcome.map_ok]
  · simp only [return', Outcome.map_ok]
  · exact readLength_pos lengthEq
  · exact finiteNumber_getD_isFinite periodRead

/-- A point that cannot be read is reported under the name its row spells. -/
@[simp] theorem readPoints_eq_mapM (sheet : String) (rows : List Row) :
    readPoints sheet rows = rows.mapM fun row =>
      (readPoint row).mapError (.ofPoint (propertySpelling row) sheet) := by
  induction rows with
  | nil => rfl
  | cons row rest ih =>
      rw [readPoints, List.mapM_cons, ih]
      cases written : (row.get "PropertyName").isWritable with
      | true => simp [propertyName, Cell.trimmedText, written, propertySpelling]
      | false =>
          simp [propertyName, Cell.trimmedText, written, readPoint, columnText, Fault.ofPoint]

/-- A sheet is read from a table: its name is the trimmed one, and its points are read, in order,
from the rows that name a property. -/
@[simp] theorem readSheet_eq_ok {table : String × List Row} {sheet : Sheet} :
    readSheet table = .ok sheet ↔
      sheet.name = trim table.1 ∧
        List.Forall₂ (fun row point => readPoint row = .ok point) (pointRows table.2)
          sheet.points := by
  simp only [readSheet, readPoints_eq_mapM, Outcome.bind_eq_ok, Outcome.mapM_eq_ok,
    Outcome.mapError_eq_ok, Outcome.pure_eq_ok, Except.ok.injEq]
  constructor
  · rintro ⟨points, read, rfl⟩
    exact ⟨rfl, read⟩
  · rintro ⟨nameEq, read⟩
    exact ⟨sheet.points, read, by rw [← nameEq]⟩

/-! ## Triggers -/

/-- Two points of one trigger share a period. -/
def TriggersAgree (left right : Point) : Prop :=
  ∀ key, left.triggerKey? = some key → right.triggerKey? = some key →
    left.period.sameValue right.period = true

theorem TriggersAgree.symm {left right : Point} (agree : TriggersAgree left right) :
    TriggersAgree right left := fun key rightTrigger leftTrigger =>
  Double.sameValue_symm (agree key leftTrigger rightTrigger)

/-- A point has the period that is recorded for its trigger, if one is. -/
def AgreesWith (periods : List (String × Double)) (point : Point) : Prop :=
  ∀ key period, point.triggerKey? = some key → periods.lookup key = some period →
    period.sameValue point.period = true

theorem agreesWith_iff {periods : List (String × Double)} {key : String} {point : Point}
    (trigger : point.triggerKey? = some key) :
    AgreesWith periods point ↔
      ∀ period, periods.lookup key = some period → period.sameValue point.period = true := by
  simp only [AgreesWith, trigger, Option.some.injEq]
  constructor
  · intro agrees period recorded
    exact agrees key period rfl recorded
  · rintro agrees _ period rfl recorded
    exact agrees period recorded

/-- Recording the period of a new trigger asks of other points that they agree with its point. -/
theorem agreesWith_cons_iff {periods : List (String × Double)} {key : String} {point : Point}
    (trigger : point.triggerKey? = some key) (fresh : periods.lookup key = none) (other : Point) :
    AgreesWith ((key, point.period) :: periods) other ↔
      AgreesWith periods other ∧ TriggersAgree point other := by
  cases otherTrigger : other.triggerKey? with
  | none => simp [AgreesWith, TriggersAgree, otherTrigger]
  | some otherKey =>
      rw [agreesWith_iff otherTrigger, agreesWith_iff otherTrigger]
      by_cases same : otherKey = key
      · subst otherKey
        simp [fresh, TriggersAgree, trigger, otherTrigger]
      · have different : (otherKey == key) = false := beq_eq_false_iff_ne.mpr same
        simp [List.lookup_cons, different, TriggersAgree, trigger, otherTrigger, same]

theorem AgreesWith.triggersAgree {periods : List (String × Double)} {key : String}
    {period : Double} {point other : Point} (trigger : point.triggerKey? = some key)
    (recorded : periods.lookup key = some period)
    (same : period.sameValue point.period = true) (agrees : AgreesWith periods other) :
    TriggersAgree point other := by
  intro shared ownTrigger otherTrigger
  rw [trigger] at ownTrigger
  cases ownTrigger
  exact Double.sameValue_trans (Double.sameValue_symm same)
    (agrees key period otherTrigger recorded)

/-- The scan finds nothing exactly when all points agree with what is recorded and with each
other. -/
theorem conflictingTrigger_eq_none_iff (periods : List (String × Double)) (points : List Point) :
    conflictingTrigger periods points = none ↔
      (∀ point ∈ points, AgreesWith periods point) ∧ points.Pairwise TriggersAgree := by
  induction points generalizing periods with
  | nil => simp [conflictingTrigger]
  | cons point rest ih =>
      rw [List.forall_mem_cons, List.pairwise_cons]
      cases trigger : point.triggerKey? with
      | none =>
          simp [conflictingTrigger, trigger, ih, AgreesWith, TriggersAgree]
      | some key =>
          cases recorded : periods.lookup key with
          | none =>
              have own : AgreesWith periods point := by
                simp [agreesWith_iff trigger, recorded]
              simp only [conflictingTrigger, trigger, recorded, ih,
                agreesWith_cons_iff trigger recorded, forall_and, own, true_and, and_assoc]
          | some period =>
              cases same : period.sameValue point.period with
              | false =>
                  have own : ¬AgreesWith periods point := by
                    simp [agreesWith_iff trigger, recorded, same]
                  have written : point.triggerAddress ≠ none := by
                    intro absent
                    simp [Point.triggerKey?, absent] at trigger
                  simp [conflictingTrigger, trigger, recorded, same, own, written]
              | true =>
                  have own : AgreesWith periods point := by
                    simp [agreesWith_iff trigger, recorded, same]
                  have later : (∀ other ∈ rest, AgreesWith periods other) →
                      ∀ other ∈ rest, TriggersAgree point other := fun agree other member =>
                    (agree other member).triggersAgree trigger recorded same
                  simp only [conflictingTrigger, trigger, recorded, same, ↓reduceIte, ih, own,
                    true_and]
                  exact ⟨fun ⟨agree, pairwise⟩ => ⟨agree, later agree, pairwise⟩,
                    fun ⟨agree, _, pairwise⟩ => ⟨agree, pairwise⟩⟩

@[simp] theorem conflictingTrigger_nil_eq_none_iff (points : List Point) :
    conflictingTrigger [] points = none ↔ points.Pairwise TriggersAgree := by
  have vacuous : ∀ point, AgreesWith [] point := by simp [AgreesWith]
  simp only [conflictingTrigger_eq_none_iff, vacuous, implies_true, true_and]

/-- No sheet has a conflict exactly when within every sheet the points agree pairwise. -/
theorem triggerConflict_eq_none_iff (sheets : List Sheet) :
    triggerConflict sheets = none ↔
      ∀ sheet ∈ sheets, sheet.points.Pairwise TriggersAgree := by
  induction sheets with
  | nil => simp [triggerConflict]
  | cons sheet rest ih =>
      rw [List.forall_mem_cons, ← ih, ← conflictingTrigger_nil_eq_none_iff]
      cases conflict : conflictingTrigger [] sheet.points <;> simp [triggerConflict, conflict]

/-! ## Devices -/

/-- Every instance has a device of its name. -/
def InstancesServed (names : List String) (pairs : List (Int × Sheet)) : Prop :=
  ∀ pair ∈ pairs, ∃ device ∈ names, deviceNameFor pair.2.name pair.1 = .ok device

/-- The check of one instance. -/
def checkInstance (names : List String) (pair : Int × Sheet) : Except Fault Unit := do
  let device ← (deviceNameFor pair.2.name pair.1).mapError .digits
  if device ∈ names then .ok () else .error (.missingDevice device pair.2.name pair.1)

@[simp] theorem checkInstance_eq_ok {names : List String} {pair : Int × Sheet} :
    checkInstance names pair = .ok () ↔
      ∃ device ∈ names, deviceNameFor pair.2.name pair.1 = .ok device := by
  cases named : deviceNameFor pair.2.name pair.1 with
  | error fault => simp [checkInstance, named]
  | ok device => by_cases member : device ∈ names <;> simp [checkInstance, named, member]

theorem checkModule_eq_forM (names : List String) (module : Int) (sheets : List Sheet) :
    checkModule names module sheets =
      forM (sheets.map fun sheet => (module, sheet)) (checkInstance names) := by
  induction sheets with
  | nil => rfl
  | cons sheet rest ih =>
      rw [checkModule, ih, List.map_cons, List.forM_cons, checkInstance]
      cases deviceNameFor sheet.name module with
      | error fault => rfl
      | ok device => by_cases member : device ∈ names <;> simp [member]

/-- The instances are checked one by one, modules in order and the sheets of a module in order. -/
theorem checkInstances_eq_forM (names : List String) (sheets : List Sheet) (module : Int)
    (count : Nat) :
    checkInstances names sheets module count =
      forM (pairsFrom sheets module count) (checkInstance names) := by
  induction count generalizing module with
  | zero => rfl
  | succ count ih =>
      rw [checkInstances, pairsFrom_succ, List.forM_append, ih, checkModule_eq_forM]

@[simp] theorem checkInstances_eq_ok {names : List String} {sheets : List Sheet} {module : Int}
    {count : Nat} :
    checkInstances names sheets module count = .ok () ↔
      InstancesServed names (pairsFrom sheets module count) := by
  simp only [checkInstances_eq_forM, Outcome.forM_eq_ok, checkInstance_eq_ok, InstancesServed]

/-! ## All stages -/

/-- What the stages have settled about accepted tables, stage by stage. -/
structure Accepted (tables : Tables) (maxModules : Int) (config : Config) : Prop where
  modules_pos : 1 ≤ maxModules
  modules : config.maxModules = maxModules.toNat
  devices : ∃ rows, tables.devices = some rows ∧ readDevices rows = .ok config.devices
  ips_nodup : (config.devices.map Device.ip).Nodup
  properties : PropertiesDistinct (propertyRows tables.sheets)
  sheets : readSheets tables.sheets = .ok config.sheets
  triggers : ∀ sheet ∈ config.sheets, sheet.points.Pairwise TriggersAgree
  served : InstancesServed (config.devices.map Device.name)
    (pairsFrom config.sheets 1 config.maxModules)

theorem validate_eq_ok {tables : Tables} {maxModules : Int} {config : Config}
    (accepted : validate tables maxModules = .ok config) : Accepted tables maxModules config := by
  by_cases few : maxModules < 1
  · simp [validate, few, throw, throwThe, MonadExceptOf.throw, bind, Except.bind] at accepted
  · cases present : tables.devices with
    | none => simp [validate, few, checkedDevices, present] at accepted
    | some rows =>
        simp only [validate, few, checkedDevices, present, ↓reduceIte, Outcome.bind_eq_ok,
          refuse_eq_ok, Outcome.pure_eq_ok, Except.ok.injEq] at accepted
        obtain ⟨_, ⟨devices, read, _, ips, rfl⟩, _, properties, sheets, sheetsRead, _, triggers, _,
          served, rfl⟩ := accepted
        exact ⟨by omega, rfl, ⟨rows, present, read⟩, checkIps_eq_ok.mp ips,
          checkProperties_eq_ok.mp properties, sheetsRead,
          (triggerConflict_eq_none_iff _).mp triggers, checkInstances_eq_ok.mp served⟩

namespace Accepted

variable {tables : Tables} {maxModules : Int} {config : Config}

/-- The sheets follow the tables in order, and so do the points of a sheet its rows. -/
theorem sheets_forall₂ (accepted : Accepted tables maxModules config) :
    List.Forall₂ (fun table sheet => sheet.name = trim table.1 ∧
      List.Forall₂ (fun row point => readPoint row = .ok point) (pointRows table.2) sheet.points)
      tables.sheets config.sheets := by
  have read := accepted.sheets
  rw [readSheets_eq_mapM, Outcome.mapM_eq_ok] at read
  exact read.imp fun table sheet sheetRead => readSheet_eq_ok.mp sheetRead

theorem sheetNames_eq (accepted : Accepted tables maxModules config) :
    config.sheets.map Sheet.name = tables.sheets.map fun table => trim table.1 := by
  symm
  apply Outcome.map_eq_map accepted.sheets_forall₂
  rintro table sheet ⟨named, _⟩
  exact named.symm

/-- Every point is read from some row that names a property. -/
theorem exists_row (accepted : Accepted tables maxModules config) {sheet : Sheet}
    (sheetMember : sheet ∈ config.sheets) {point : Point} (member : point ∈ sheet.points) :
    ∃ row, (row.get "PropertyName").isBlank = false ∧ readPoint row = .ok point := by
  obtain ⟨table, _, _, rowsRead⟩ :=
    Outcome.exists_of_mem_right accepted.sheets_forall₂ sheetMember
  obtain ⟨row, rowMember, read⟩ := Outcome.exists_of_mem_right rowsRead member
  refine ⟨row, ?_, read⟩
  simpa [pointRows] using (List.mem_filter.mp rowMember).2

theorem usable (accepted : Accepted tables maxModules config) {sheet : Sheet}
    (sheetMember : sheet ∈ config.sheets) {point : Point} (member : point ∈ sheet.points) :
    point.Usable := by
  obtain ⟨row, _, read⟩ := accepted.exists_row sheetMember member
  exact (readPoint_eq_ok read).2

theorem propertyName_ne_empty (accepted : Accepted tables maxModules config) {sheet : Sheet}
    (sheetMember : sheet ∈ config.sheets) {point : Point} (member : point ∈ sheet.points) :
    point.propertyName ≠ "" := by
  obtain ⟨row, filled, read⟩ := accepted.exists_row sheetMember member
  obtain ⟨_, spelled⟩ := Cell.trimmedText_eq_ok.mp (readPoint_eq_ok read).1.propertyName
  rw [← Cell.trimmedSpelling_isEmpty, spelled] at filled
  rintro empty
  simp [empty] at filled

/-- A trigger address that a point keeps is not empty, so the point has a trigger. -/
theorem triggerKey?_eq (accepted : Accepted tables maxModules config) {sheet : Sheet}
    (sheetMember : sheet ∈ config.sheets) {point : Point} (member : point ∈ sheet.points)
    {trigger : String} (written : point.triggerAddress = some trigger) :
    point.triggerKey? = some (Address.normalizeText trigger) := by
  obtain ⟨row, _, read⟩ := accepted.exists_row sheetMember member
  obtain ⟨text, _, kept⟩ := Outcome.map_eq_ok.mp (readPoint_eq_ok read).1.triggerAddress
  rw [written, filledText] at kept
  split at kept
  · cases kept
  · next filled =>
      cases kept
      simp [Point.triggerKey?, written, filled]

/-- The names that are scanned on the raw rows are the names of the points. -/
theorem propertyNames_eq (accepted : Accepted tables maxModules config) :
    ((propertyRows tables.sheets).map fun entry => propertySpelling entry.2) =
      config.sheets.flatMap fun sheet => sheet.points.map Point.propertyName := by
  have perSheet : (tables.sheets.map fun table => (pointRows table.2).map propertySpelling) =
      config.sheets.map fun sheet => sheet.points.map Point.propertyName := by
    apply Outcome.map_eq_map accepted.sheets_forall₂
    rintro table sheet ⟨_, rowsRead⟩
    apply Outcome.map_eq_map rowsRead
    intro row point read
    exact (Cell.trimmedText_eq_ok.mp (readPoint_eq_ok read).1.propertyName).2
  rw [List.flatMap_def, ← perSheet, propertyRows, List.map_flatMap, List.flatMap_def]
  congr 2
  funext table
  simp

theorem propertyNames_nodup (accepted : Accepted tables maxModules config) :
    (config.sheets.flatMap fun sheet => sheet.points.map Point.propertyName).Nodup := by
  rw [← accepted.propertyNames_eq]
  exact accepted.properties.2

theorem exists_device (accepted : Accepted tables maxModules config) {sheet : Sheet}
    (sheetMember : sheet ∈ config.sheets) {module : Int} (lower : 1 ≤ module)
    (upper : module ≤ maxModules) :
    ∃ device ∈ config.devices, deviceNameFor sheet.name module = .ok device.name := by
  have count := accepted.modules
  obtain ⟨name, member, named⟩ := accepted.served (module, sheet)
    (mem_pairsFrom.mpr ⟨by omega, sheetMember⟩)
  obtain ⟨device, deviceMember, rfl⟩ := List.mem_map.mp member
  exact ⟨device, deviceMember, named⟩

theorem triggers_agree (accepted : Accepted tables maxModules config) {sheet : Sheet}
    (sheetMember : sheet ∈ config.sheets) {left right : Point} (leftMember : left ∈ sheet.points)
    (rightMember : right ∈ sheet.points) : TriggersAgree left right := by
  have pairwise := accepted.triggers sheet sheetMember
  apply List.Pairwise.forall_of_forall_of_flip _ pairwise (pairwise.imp TriggersAgree.symm)
    leftMember rightMember
  intro point member key _ _
  exact Double.sameValue_refl (accepted.usable sheetMember member).period_finite

end Accepted

/-- What holds of a configuration that is read from tables for some number of modules. -/
structure Sound (tables : Tables) (maxModules : Int) (config : Config) : Prop where
  /-- No two devices share an IP address. -/
  ips_nodup : (config.devices.map Device.ip).Nodup
  /-- No two points of any sheets share a property name. -/
  properties_nodup :
    (config.sheets.flatMap fun sheet => sheet.points.map Point.propertyName).Nodup
  properties_filled : ∀ sheet ∈ config.sheets, ∀ point ∈ sheet.points, point.propertyName ≠ ""
  /-- Every instance of every sheet has a device of its name. -/
  served : ∀ sheet ∈ config.sheets, ∀ module : Int, 1 ≤ module → module ≤ maxModules →
    ∃ device ∈ config.devices, deviceNameFor sheet.name module = .ok device.name
  /-- Trigger addresses of one normal form go with one period. -/
  triggers_agree : ∀ sheet ∈ config.sheets, ∀ left ∈ sheet.points, ∀ right ∈ sheet.points,
    ∀ leftTrigger rightTrigger, left.triggerAddress = some leftTrigger →
      right.triggerAddress = some rightTrigger →
      Address.normalizeText leftTrigger = Address.normalizeText rightTrigger →
      left.period.sameValue right.period = true
  usable : ∀ sheet ∈ config.sheets, ∀ point ∈ sheet.points, point.Usable
  modules : (config.maxModules : Int) = maxModules
  /-- Sheets follow their tables in order, and points the rows whose property is not blank. -/
  sheets : List.Forall₂ (fun table sheet => sheet.name = trim table.1 ∧
    List.Forall₂ Describes (table.2.filter fun row => !(row.get "PropertyName").isBlank)
      sheet.points) tables.sheets config.sheets

/-- Tables that pass validation give a sound configuration. -/
theorem validate_sound {tables : Tables} {maxModules : Int} {config : Config}
    (validated : validate tables maxModules = .ok config) : Sound tables maxModules config := by
  have accepted := validate_eq_ok validated
  refine ⟨accepted.ips_nodup, accepted.propertyNames_nodup, ?_, ?_, ?_, ?_, ?_, ?_⟩
  · intro sheet sheetMember point member
    exact accepted.propertyName_ne_empty sheetMember member
  · intro sheet sheetMember module lower upper
    exact accepted.exists_device sheetMember lower upper
  · intro sheet sheetMember left leftMember right rightMember leftTrigger rightTrigger
      leftWritten rightWritten same
    apply accepted.triggers_agree sheetMember leftMember rightMember
      (Address.normalizeText leftTrigger)
    · exact accepted.triggerKey?_eq sheetMember leftMember leftWritten
    · rw [same]
      exact accepted.triggerKey?_eq sheetMember rightMember rightWritten
  · intro sheet sheetMember point member
    exact accepted.usable sheetMember member
  · have positive := accepted.modules_pos
    have count := accepted.modules
    omega
  · apply accepted.sheets_forall₂.imp
    rintro table sheet ⟨nameEq, rowsRead⟩
    exact ⟨nameEq, rowsRead.imp fun row point read => (readPoint_eq_ok read).1⟩

/-! ## A workbook with the odd corners

A sheet whose name needs trimming, one whose name looks like an instance of the other, a row
without property, a numeric property name, one trigger in two spellings, and a device row without
name that repeats an IP address. -/

/-- The raw tables of the workbook. -/
def sampleTables : Tables where
  devices := some [
    [("Device", .text "Line_M1"), ("IP", .text "10.0.0.1"), ("Port", .text "503")],
    [("Device", .text " Line_M2"), ("IP", .text "10.0.0.2")],
    [("Device", .null), ("IP", .text "10.0.0.1")],
    [("DeviceName", .text "Line_M1_M1"), ("IP", .text "10.0.0.3"), ("PORT", .int 0)],
    [("Device", .text "Line_M1_M2"), ("IP", .text "10.0.0.4")]]
  sheets := [
    (" Line ", [
      [("PropertyName", .text "Speed"), ("Type", .text "Int[]"), ("ValueAddress", .text "d100"),
        ("TriggerAddress", .text "D7"), ("Period", .int (-5))],
      [("PropertyName", .text "  "), ("Type", .text "nothing")],
      [("PropertyName", .int 12), ("Type", .text "string"), ("Length", .int 4),
        ("ValueAddress", .int 90), ("TriggerAddress", .text " x7"), ("Period", .int (-5))]]),
    ("Line_M1", [
      [("PropertyName", .text "Run"), ("Type", .text "bool"), ("ValueAddress", .text "M3")]])]

def fiveSeconds : Double :=
  .finite true 5629499534213120 (-50) (by decide)

/-- The configuration of the workbook for two modules. -/
def sampleConfig : Config where
  devices := [⟨"Line_M1", "10.0.0.1", 503⟩, ⟨"Line_M2", "10.0.0.2", 502⟩,
    ⟨"Line_M1_M1", "10.0.0.3", 502⟩, ⟨"Line_M1_M2", "10.0.0.4", 502⟩]
  sheets := [
    ⟨"Line", [
      ⟨"Speed", "", "d100", ⟨.int, true⟩, none, some "D7", none, fiveSeconds⟩,
      ⟨"12", "", "90", ⟨.string, false⟩, some 4, some "x7", none, fiveSeconds⟩]⟩,
    ⟨"Line_M1", [⟨"Run", "", "M3", ⟨.bool, false⟩, none, none, none, Double.zero false⟩]⟩]
  maxModules := 2

theorem validate_sampleTables : validate sampleTables 2 = .ok sampleConfig :=
  Outcome.eq_ok_of_toOption (by decide +kernel)

theorem sampleConfig_sound :
    validate sampleTables 2 = .ok sampleConfig ∧ Sound sampleTables 2 sampleConfig :=
  ⟨validate_sampleTables, validate_sound validate_sampleTables⟩

end Validation

end PointTable
