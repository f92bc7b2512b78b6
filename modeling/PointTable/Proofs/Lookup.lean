import PointTable.Proofs.Devices
import PointTable.Proofs.Units

/-!
# Devices under their names

A device is looked up by its name, and the first row of that name answers. Validation keeps IP
addresses distinct but not names, so a row may be shadowed by an earlier one. Since the addresses
tell rows apart, a row is found under its name exactly when no earlier row has it, and a unit's
endpoint is the only one of its name exactly when one row gives that name.
-/

namespace PointTable

namespace Config

variable {config : Config} {device : Device}

/-- A device is found under its name exactly when none before it has that name. -/
theorem device?_eq_some_iff (distinct : config.devices.Nodup) {before after : List Device}
    (split : config.devices = before ++ device :: after) :
    config.device? device.name = some device ↔ device.name ∉ before.map Device.name := by
  rw [split, List.nodup_append] at distinct
  rw [Config.device?, split, List.find?_append, List.mem_map]
  cases found : before.find? (·.name = device.name) with
  | none =>
      rw [List.find?_eq_none] at found
      simp only [Option.none_or, List.find?_cons, decide_true, true_iff]
      rintro ⟨other, member, same⟩
      exact found other member (by simp [same])
  | some other =>
      have member := List.mem_of_find?_eq_some found
      have same : other.name = device.name := by simpa using List.find?_some found
      simp only [Option.some_or, Option.some.injEq]
      constructor
      · intro equal
        exact absurd equal (distinct.2.2 other member device List.mem_cons_self)
      · intro unnamed
        exact absurd ⟨other, member, same⟩ unnamed

/-- All devices are found under their names exactly when the names are distinct. -/
theorem forall_device?_eq_some_iff (distinct : config.devices.Nodup) :
    (∀ device ∈ config.devices, config.device? device.name = some device) ↔
      (config.devices.map Device.name).Nodup := by
  constructor
  · intro found
    apply List.Nodup.map_on _ distinct
    intro left leftMember right rightMember same
    apply Option.some.inj
    rw [← found left leftMember, same, found right rightMember]
  · intro named device member
    obtain ⟨other, found⟩ := exists_device?_eq_some member
    obtain ⟨otherMember, same⟩ := device?_eq_some found
    rw [found, List.inj_on_of_nodup_map named otherMember member same]

theorem forall_eq_iff_count_eq_one (distinct : config.devices.Nodup)
    (member : device ∈ config.devices) :
    (∀ other ∈ config.devices, other.name = device.name → other = device) ↔
      (config.devices.map Device.name).count device.name = 1 := by
  have around := List.perm_cons_erase member
  have absent : device ∉ config.devices.erase device :=
    (List.nodup_cons.mp (around.nodup_iff.mp distinct)).1
  rw [(around.map Device.name).count_eq, List.map_cons, List.count_cons_self, Nat.add_eq_right,
    List.count_eq_zero, List.mem_map]
  constructor
  · rintro only ⟨other, otherMember, same⟩
    have equal := only other (List.mem_of_mem_erase otherMember) same
    rw [equal] at otherMember
    exact absent otherMember
  · intro unnamed other otherMember same
    by_contra different
    exact unnamed ⟨other, (List.mem_erase_of_ne different).mpr otherMember, same⟩

end Config

namespace Validation

/-- Which devices of a configuration are found under their names, told by the rows that name
them. -/
structure DevicesFound (rows : List Row) (config : Config) : Prop where
  /-- The first device of a name is found and shadows the others. -/
  first : ∀ before device after, config.devices = before ++ device :: after →
    (config.device? device.name = some device ↔ device.name ∉ before.map Device.name)
  /-- No device is shadowed exactly when the rows give distinct names. -/
  all : (∀ device ∈ config.devices, config.device? device.name = some device) ↔
    ((deviceRows rows).map deviceName).Nodup
  /-- The endpoint of a unit is found under its name, and is the only device of that name exactly
  when one row gives the name. -/
  units : ∃ units, SheetUnit.ofConfig config = .ok units ∧ ∀ unit ∈ units,
    deviceNameFor unit.sheet unit.module = .ok unit.device.name ∧
      config.device? unit.device.name = some unit.device ∧
      ((∀ device ∈ config.devices, device.name = unit.device.name → device = unit.device) ↔
        ((deviceRows rows).map deviceName).count unit.device.name = 1)

/-- In a validated configuration devices are shadowed by earlier rows of their name only. -/
theorem devicesFound_of_validated {tables : Tables} {maxModules : Int} {config : Config}
    (validated : validate tables maxModules = .ok config) :
    ∃ rows, tables.devices = some rows ∧ DevicesFound rows config := by
  have accepted := validate_eq_ok validated
  obtain ⟨rows, present, read⟩ := accepted.devices
  have distinct : config.devices.Nodup := accepted.ips_nodup.of_map
  obtain ⟨units, built⟩ := SheetUnit.ofConfig_ok_of_accepted accepted
  refine ⟨rows, present, ?_, ?_, units, built, ?_⟩
  · intro before device after split
    exact Config.device?_eq_some_iff distinct split
  · rw [← names_of_readDevices read]
    exact Config.forall_device?_eq_some_iff distinct
  · intro unit member
    obtain ⟨module, sheet, _, instantiated⟩ := SheetUnit.exists_instanceOf built member
    refine ⟨?_, instantiated.device, ?_⟩
    · rw [instantiated.sheet_eq, instantiated.module_eq]
      exact instantiated.named
    · rw [← names_of_readDevices read]
      exact Config.forall_eq_iff_count_eq_one distinct instantiated.device_mem

/-! ## Two rows of one name -/

/-- A device table that names one device twice, once under the other heading and with a blank. -/
def homonymTables : Tables where
  devices := some [
    [("Device", .text "Line_M1"), ("IP", .text "10.0.0.1")],
    [("DeviceName", .text " Line_M1"), ("IP", .text "10.0.0.2"), ("Port", .int 503)]]
  sheets := [("Line", [])]

def homonymConfig : Config where
  devices := [⟨"Line_M1", "10.0.0.1", 502⟩, ⟨"Line_M1", "10.0.0.2", 503⟩]
  sheets := [⟨"Line", []⟩]
  maxModules := 1

theorem validate_homonymTables : validate homonymTables 1 = .ok homonymConfig :=
  Outcome.eq_ok_of_toOption (by decide +kernel)

theorem homonymTables_found :
    validate homonymTables 1 = .ok homonymConfig ∧
      ∃ rows, homonymTables.devices = some rows ∧ DevicesFound rows homonymConfig :=
  ⟨validate_homonymTables, devicesFound_of_validated validate_homonymTables⟩

/-- The second row is accepted but never found, and the unit bound to the first shares its name. -/
theorem homonymTables_shadowed :
    validate homonymTables 1 = .ok homonymConfig ∧
      (∃ device ∈ homonymConfig.devices, homonymConfig.device? device.name ≠ some device) ∧
      ∃ units, SheetUnit.ofConfig homonymConfig = .ok units ∧
        ∃ unit ∈ units, ∃ device ∈ homonymConfig.devices,
          device.name = unit.device.name ∧ device ≠ unit.device := by
  refine ⟨validate_homonymTables, by decide, ?_⟩
  have bound : ∃ units ∈ (SheetUnit.ofConfig homonymConfig).toOption, ∃ unit ∈ units,
      ∃ device ∈ homonymConfig.devices, device.name = unit.device.name ∧ device ≠ unit.device := by
    decide +kernel
  obtain ⟨units, built, shared⟩ := bound
  exact ⟨units, Outcome.eq_ok_of_toOption built, shared⟩

end Validation

end PointTable
