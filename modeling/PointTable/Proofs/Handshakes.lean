import PointTable.Proofs.Address
import PointTable.Proofs.Groups
import PointTable.Proofs.Text.Digit

/-!
# Handshake registers

Triggers are compared by their normal forms, while a handshake waits on the register that a normal
form spells. One register can be spelled in several ways, with leading zeros or with the digits of
another script, and only then do two normal forms name it. So points of one register spelled alike
share a period, and the handshake groups of a unit that wait on one register spell it differently.
-/

namespace PointTable

open Text Number

namespace Address

/-- How an address spells its register: the scripts of the digits in order, and thereby how many
they are. -/
def spelling (text : String) : List (Option Nat) :=
  (normalizeText text).toList.map script?

/-- The normal form of an address that names a register is made of the register's digits. -/
theorem digitsOf_register {text : String} {number : Nat}
    (named : register (.text text) = .ok number) :
    isNumeric (normalizeText text) = true ∧ DigitsOf (normalizeText text).toList number := by
  rw [register_text] at named
  have read := readInteger_of_registerOf named
  have numeric : isNumeric (normalizeText text) = true := by
    by_contra other
    simp [registerOf, other] at named
  have digits := isDigit_of_isNumeric numeric
  rw [readInteger, trimBy_of_digits digits isBlank_of_isNumberBlank] at read
  simp only [integerOf?, splitSign_of_digits digits] at read
  cases separated : separatedDigits 10 (normalizeText text).toList with
  | none => simp [separated] at read
  | some values =>
      refine ⟨numeric, values, forall₂_of_separatedDigits digits separated, ?_⟩
      simp only [Nat.reduceEqDiff, ↓reduceIte, separated] at read
      split at read
      · cases read
      · simpa using read

theorem register_normalizeText {text : String} {number : Nat}
    (named : register (.text text) = .ok number) :
    register (.text (normalizeText text)) = .ok number := by
  have numeric := (digitsOf_register named).1
  simp only [register_text, registerOf, numeric, ↓reduceIte] at named
  simp only [register_text, registerOf, normalizeText_of_isNumeric numeric, numeric, ↓reduceIte]
  exact named

theorem spelling_normalizeText {text : String} {number : Nat}
    (named : register (.text text) = .ok number) :
    spelling (normalizeText text) = spelling text := by
  rw [spelling, normalizeText_of_isNumeric (digitsOf_register named).1, spelling]

theorem normalizeText_eq_of_register {left right : String} {number : Nat}
    (leftNamed : register (.text left) = .ok number)
    (rightNamed : register (.text right) = .ok number) (alike : spelling left = spelling right) :
    normalizeText left = normalizeText right := by
  rw [← String.toList_inj]
  exact (digitsOf_register leftNamed).2.unique (digitsOf_register rightNamed).2 alike

end Address

namespace SheetUnit

/-- A point has a trigger that names a register. -/
def Triggered (point : Point) : Prop :=
  ∃ trigger number, point.triggerAddress = some trigger ∧
    Address.register (.text trigger) = .ok number

/-- All points of a group have triggers that name a register; the points of a group are those that
its tags stand beside. -/
def GroupTriggered (sheet : Sheet) (unit : SheetUnit) (group : PeriodGroup) : Prop :=
  ∀ item ∈ sheet.points.zip unit.tags, item.2 ∈ group.tags → Triggered item.1

/-- Two handshake groups have different triggers. Both name registers, and if these are one they
spell it differently. -/
def HandshakesApart (group other : PeriodGroup) : Prop :=
  ∀ trigger trigger', group.triggerAddress = some trigger → other.triggerAddress = some trigger' →
    trigger ≠ trigger' ∧ ∃ number number', Address.register (.text trigger) = .ok number ∧
      Address.register (.text trigger') = .ok number' ∧
      (number = number' → Address.spelling trigger ≠ Address.spelling trigger')

/-- What triggers guarantee in a configuration. -/
structure TriggersSettled (config : Config) : Prop where
  /-- Points of a sheet whose triggers name one register and spell it alike share a period. -/
  periods : ∀ sheet ∈ config.sheets, ∀ left ∈ sheet.points, ∀ right ∈ sheet.points,
    ∀ leftTrigger rightTrigger number, left.triggerAddress = some leftTrigger →
      right.triggerAddress = some rightTrigger →
      Address.register (.text leftTrigger) = .ok number →
      Address.register (.text rightTrigger) = .ok number →
      Address.spelling leftTrigger = Address.spelling rightTrigger →
      left.period.sameValue right.period = true
  /-- Different handshake groups of a unit are apart. -/
  groups : ∃ units, ofConfig config = .ok units ∧ ∀ unit ∈ units, ∃ module sheet,
    sheet ∈ config.sheets ∧ InstanceOf config module sheet unit ∧
      unit.groups.Pairwise fun group other => GroupTriggered sheet unit group →
        GroupTriggered sheet unit other → HandshakesApart group other

section

variable {tables : Tables} {maxModules : Int} {config : Config}

theorem trigger_of_group {sheet : Sheet} {module : Int} {unit : SheetUnit} {group : PeriodGroup}
    (grouped : GroupOf sheet module unit.tags group) (triggered : GroupTriggered sheet unit group)
    {trigger : String} (waits : group.triggerAddress = some trigger) :
    ∃ point ∈ sheet.points, point.period = group.period ∧ point.period.isZero = false ∧
      ∃ written number, point.triggerAddress = some written ∧
        Address.register (.text written) = .ok number ∧
        trigger = Address.normalizeText written := by
  obtain ⟨tag, tagMember⟩ := grouped.filled
  obtain ⟨point, itemMember, period, nonzero, normal⟩ := grouped.members tag tagMember
  obtain ⟨written, number, (writtenEq : point.triggerAddress = some written), named⟩ :=
    triggered _ itemMember tagMember
  refine ⟨point, (List.of_mem_zip itemMember).1, period, nonzero, written, number, writtenEq, named,
    ?_⟩
  rw [waits, groupTrigger?] at normal
  split at normal
  · cases normal
  · simp only [Address.normalizeOption, writtenEq, Option.some.injEq] at normal
    exact normal

/-- Groups of a validated sheet that differ in period or trigger differ in trigger. -/
theorem handshakesApart_of_ne (accepted : Validation.Accepted tables maxModules config)
    {sheet : Sheet} (sheetMember : sheet ∈ config.sheets) {module : Int} {unit : SheetUnit}
    {group other : PeriodGroup} (grouped : GroupOf sheet module unit.tags group)
    (otherGrouped : GroupOf sheet module unit.tags other)
    (different : group.period = other.period → group.triggerAddress ≠ other.triggerAddress)
    (triggered : GroupTriggered sheet unit group)
    (otherTriggered : GroupTriggered sheet unit other) : HandshakesApart group other := by
  intro trigger trigger' waits waits'
  obtain ⟨point, member, period, nonzero, written, number, writtenEq, named, rfl⟩ :=
    trigger_of_group grouped triggered waits
  obtain ⟨point', member', period', _, written', number', writtenEq', named', rfl⟩ :=
    trigger_of_group otherGrouped otherTriggered waits'
  have apart : Address.normalizeText written ≠ Address.normalizeText written' := by
    intro same
    have key := accepted.triggerKey?_eq sheetMember member writtenEq
    have key' := accepted.triggerKey?_eq sheetMember member' writtenEq'
    rw [← same] at key'
    have agree := accepted.triggers_agree sheetMember member member' _ key key'
    have periods : group.period = other.period := by
      rw [← period, ← period']
      exact Double.eq_of_sameValue nonzero agree
    apply different periods
    rw [waits, waits', same]
  refine ⟨apart, number, number', Address.register_normalizeText named,
    Address.register_normalizeText named', ?_⟩
  rintro rfl alike
  apply apart
  apply Address.normalizeText_eq_of_register named named'
  rw [← Address.spelling_normalizeText named, ← Address.spelling_normalizeText named', alike]

/-- In a validated configuration, registers spelled alike are waited on with one period. -/
theorem triggersSettled_of_validated
    (validated : Validation.validate tables maxModules = .ok config) : TriggersSettled config := by
  have accepted := Validation.validate_eq_ok validated
  constructor
  · intro sheet sheetMember left leftMember right rightMember leftTrigger rightTrigger number
      leftWritten rightWritten leftNamed rightNamed alike
    have same := Address.normalizeText_eq_of_register leftNamed rightNamed alike
    apply accepted.triggers_agree sheetMember leftMember rightMember
      (Address.normalizeText leftTrigger)
    · exact accepted.triggerKey?_eq sheetMember leftMember leftWritten
    · rw [same]
      exact accepted.triggerKey?_eq sheetMember rightMember rightWritten
  · obtain ⟨units, built⟩ := ofConfig_ok_of_accepted accepted
    refine ⟨units, built, ?_⟩
    intro unit unitMember
    obtain ⟨module, sheet, pairMember, instantiated⟩ := exists_instanceOf built unitMember
    have sheetMember := (mem_pairsFrom.mp pairMember).2
    have numbers : ∀ point ∈ sheet.points, point.period.isFinite = true := fun point member =>
      (accepted.usable sheetMember member).period_finite
    refine ⟨module, sheet, sheetMember, instantiated, ?_⟩
    rw [instantiated.groups]
    apply (groupsOf_pairwise numbers).imp_of_mem
    intro group other groupMember otherMember different
    exact handshakesApart_of_ne accepted sheetMember (groupOf_of_mem numbers groupMember)
      (groupOf_of_mem numbers otherMember) different

end

/-! ## One register in two spellings -/

/-- A sheet that spells register seven three times, once with a leading zero. -/
def spelledTables : Tables where
  devices := some [[("Device", .text "Line_M1"), ("IP", .text "10.0.0.1")]]
  sheets := [("Line", [
    [("PropertyName", .text "Fill"), ("Type", .text "short"), ("ValueAddress", .text "D1"),
      ("TriggerAddress", .text "D7"), ("Period", .int (-1))],
    [("PropertyName", .text "Drain"), ("Type", .text "short"), ("ValueAddress", .text "D2"),
      ("TriggerAddress", .text "D07"), ("Period", .int (-2))],
    [("PropertyName", .text "Flow"), ("Type", .text "short"), ("ValueAddress", .text "D3"),
      ("TriggerAddress", .text " x7"), ("Period", .int (-1))]])]

def oneSecond : Double :=
  .finite true 4503599627370496 (-52) (by decide)

def twoSeconds : Double :=
  .finite true 4503599627370496 (-51) (by decide)

def spelledConfig : Config where
  devices := [⟨"Line_M1", "10.0.0.1", 502⟩]
  sheets := [⟨"Line", [
    ⟨"Fill", "", "D1", ⟨.short, false⟩, none, some "D7", none, oneSecond⟩,
    ⟨"Drain", "", "D2", ⟨.short, false⟩, none, some "D07", none, twoSeconds⟩,
    ⟨"Flow", "", "D3", ⟨.short, false⟩, none, some "x7", none, oneSecond⟩]⟩]
  maxModules := 1

theorem validate_spelledTables : Validation.validate spelledTables 1 = .ok spelledConfig :=
  Outcome.eq_ok_of_toOption (by decide +kernel)

theorem spelledTables_settled :
    Validation.validate spelledTables 1 = .ok spelledConfig ∧ TriggersSettled spelledConfig :=
  ⟨validate_spelledTables, triggersSettled_of_validated validate_spelledTables⟩

/-- Two handshake groups of different periods wait on register seven. -/
theorem spelledTables_share_register :
    Validation.validate spelledTables 1 = .ok spelledConfig ∧
      (∃ units, ofConfig spelledConfig = .ok units ∧
        (units.flatMap SheetUnit.groups).map (fun group => (group.period, group.triggerAddress)) =
          [(oneSecond, some "7"), (twoSeconds, some "07")]) ∧
      oneSecond.sameValue twoSeconds = false ∧
      ∀ trigger ∈ ["D7", "D07", "7", "07"], Address.register (.text trigger) = .ok 7 := by
  refine ⟨validate_spelledTables, ?_, by decide, ?_⟩
  · have groups : (ofConfig spelledConfig).toOption.map (fun units =>
        (units.flatMap SheetUnit.groups).map fun group => (group.period, group.triggerAddress)) =
          some [(oneSecond, some "7"), (twoSeconds, some "07")] := by
      decide +kernel
    obtain ⟨units, built, listed⟩ := Option.map_eq_some_iff.mp groups
    exact ⟨units, Outcome.eq_ok_of_toOption built, listed⟩
  · have named : ∀ trigger ∈ ["D7", "D07", "7", "07"],
        (Address.register (.text trigger)).toOption = some 7 := by
      decide +kernel
    intro trigger member
    exact Outcome.eq_ok_of_toOption (named trigger member)

end SheetUnit

end PointTable
