import Mathlib.Data.List.Nodup
import PointTable.Proofs.Address
import PointTable.Proofs.Footprint
import PointTable.Proofs.Naming
import PointTable.Proofs.Validation
import PointTable.SheetUnit

/-!
# Units of a configuration

Building units is one pass over the pairs of a module and a sheet. Each pair gives one unit, and
what that unit holds is said by `InstanceOf`. On a validated configuration the pass goes through,
and since a device name tells both the sheet and the module, no two units share an endpoint.
-/

namespace PointTable

theorem Config.device?_eq_some {config : Config} {name : String} {device : Device}
    (found : config.device? name = some device) :
    device ∈ config.devices ∧ device.name = name := by
  unfold Config.device? at found
  exact ⟨List.mem_of_find?_eq_some found, by simpa using List.find?_some found⟩

theorem Config.exists_device?_eq_some {config : Config} {device : Device}
    (member : device ∈ config.devices) : ∃ found, config.device? device.name = some found := by
  rw [← Option.isSome_iff_exists, Config.device?, List.find?_isSome]
  exact ⟨device, member, by simp⟩

namespace SheetUnit

open Text Number

/-! ## Tags -/

/-- A tag is a point's instance in a module: it has the point's name with the module's number, and
the stretch of addresses that the point's type and length ask for. -/
structure TagOf (module : Int) (point : Point) (tag : Tag) : Prop where
  name : tagName point.propertyName module = .ok tag.name
  property : tag.property = point.propertyName
  address : Address.register (.text point.address) = .ok tag.address
  pointType : tag.pointType = point.pointType
  registerLength : (tag.registerLength : Int) = point.pointType.registerLength point.length
  arrayLength : tag.arrayLength = point.pointType.arrayLength point.length

theorem tagOf_eq_ok {module : Int} {point : Point} {tag : Tag}
    (built : tagOf module point = .ok tag) : TagOf module point tag := by
  simp only [tagOf, Outcome.bind_eq_ok, Outcome.mapError_eq_ok] at built
  obtain ⟨name, nameMade, register, named, made⟩ := built
  unfold Tag.make at made
  split at made
  · cases made
  · split at made
    · next positive =>
        cases made
        refine ⟨nameMade, rfl, by simpa using named, rfl, ?_, rfl⟩
        exact Int.toNat_of_nonneg (by omega)
    · cases made

/-- A point whose address names a register, and whose length is not negative, has a tag in every
module whose number can be written. -/
theorem tagOf_ok {point : Point} {register : Nat}
    (named : Address.register (.text point.address) = .ok register)
    (lengthNonneg : ∀ given, point.length = some given → 0 ≤ given) {module : Int}
    (written : isWritable module = true) : ∃ tag, tagOf module point = .ok tag := by
  have positive : 1 ≤ point.pointType.registerLength point.length :=
    PointType.registerLength_pos lengthNonneg
  obtain ⟨tag, made⟩ := Tag.make_ok (Int.natCast_nonneg register) positive
  refine ⟨tag, ?_⟩
  simp only [tagOf, Outcome.bind_eq_ok, Outcome.mapError_eq_ok]
  exact ⟨_, tagName_eq_ok.mpr ⟨written, rfl⟩, register, named, made⟩

theorem tagOf_of_unwritable {module : Int} (unwritable : isWritable module = false)
    (point : Point) : tagOf module point = .error (.digits .tooManyDigits) := by
  simp [tagOf, tagName, instanceName, unwritable]

theorem tagOf_ok_of_usable {point : Point} (usable : point.Usable) {module : Int}
    (written : isWritable module = true) : ∃ tag, tagOf module point = .ok tag := by
  obtain ⟨register, named⟩ := usable.register
  refine tagOf_ok named (fun given present => ?_) written
  have positive := usable.length_pos given present
  omega

namespace TagOf

variable {module : Int} {point : Point} {tag : Tag}

theorem written (tagged : TagOf module point tag) : isWritable module = true :=
  (tagName_eq_ok.mp tagged.name).1

theorem name_eq (tagged : TagOf module point tag) :
    tag.name = instanceSpelling point.propertyName module :=
  (tagName_eq_ok.mp tagged.name).2.symm

/-- The address of a tag is the number that its point's normalized address spells. -/
theorem address_read (tagged : TagOf module point tag) :
    readInteger 10 (Address.normalizeText point.address) = .ok (tag.address : Int) := by
  rw [← Address.readInteger_of_registerOf (Address.register_text _ ▸ tagged.address)]

/-- An array occupies one width per element. -/
theorem registerLength_of_array (tagged : TagOf module point tag)
    (array : tag.pointType.isArray = true) :
    (tag.registerLength : Int) = tag.arrayLength * tag.pointType.elementWidth := by
  rw [tagged.registerLength, tagged.arrayLength, tagged.pointType, PointType.registerLength,
    if_pos (tagged.pointType ▸ array)]

/-- A tag occupies what decoding it reads. -/
theorem exact (tagged : TagOf module point tag) : tag.Exact := by
  apply Tag.exact_of_lengths
  · rw [tagged.registerLength, tagged.pointType]
  · rw [tagged.arrayLength, tagged.pointType]

end TagOf

/-! ## Units -/

/-- A unit is a sheet's instance for a module. -/
structure InstanceOf (config : Config) (module : Int) (sheet : Sheet) (unit : SheetUnit) :
    Prop where
  sheet_eq : unit.sheet = sheet.name
  module_eq : unit.module = module
  named : deviceNameFor sheet.name module = .ok unit.device.name
  device : config.device? unit.device.name = some unit.device
  tags : tagsOf module sheet.points = .ok unit.tags
  groups : unit.groups = groupsOf sheet module unit.tags

@[simp] theorem ofSheet_eq_ok {config : Config} {module : Int} {sheet : Sheet} {unit : SheetUnit} :
    ofSheet config module sheet = .ok unit ↔ InstanceOf config module sheet unit := by
  simp only [ofSheet, Outcome.bind_eq_ok, Outcome.mapError_eq_ok]
  constructor
  · rintro ⟨name, named, built⟩
    cases found : config.device? name with
    | none => simp [found] at built
    | some device =>
        simp only [found, Outcome.bind_eq_ok, Outcome.pure_eq_ok, Except.ok.injEq] at built
        obtain ⟨tags, tagged, rfl⟩ := built
        obtain ⟨_, rfl⟩ := Config.device?_eq_some found
        exact ⟨rfl, rfl, named, found, tagged, rfl⟩
  · intro built
    refine ⟨_, built.named, ?_⟩
    simp only [built.device, built.tags, Outcome.ok_bind, Outcome.pure_eq_ok, Except.ok.injEq]
    rw [← built.groups, ← built.sheet_eq, ← built.module_eq]

section

variable {config : Config} {module : Int} {sheet : Sheet} {unit : SheetUnit}

theorem InstanceOf.written (built : InstanceOf config module sheet unit) :
    isWritable module = true :=
  (deviceNameFor_eq_ok.mp built.named).1

theorem InstanceOf.deviceName_eq (built : InstanceOf config module sheet unit) :
    unit.device.name = instanceSpelling sheet.name module :=
  (deviceNameFor_eq_ok.mp built.named).2.symm

theorem InstanceOf.device_mem (built : InstanceOf config module sheet unit) :
    unit.device ∈ config.devices :=
  (Config.device?_eq_some built.device).1

theorem InstanceOf.tags_forall₂ (built : InstanceOf config module sheet unit) :
    List.Forall₂ (TagOf module) sheet.points unit.tags := by
  have tagged := built.tags
  rw [tagsOf_eq_mapM, Outcome.mapM_eq_ok] at tagged
  exact tagged.imp fun point tag => tagOf_eq_ok

end

/-! ## All units -/

/-- With distinct sheet names every pair has a name of its own. -/
theorem pairsFrom_names_nodup {sheets : List Sheet} (nodup : (sheets.map Sheet.name).Nodup)
    (module : Int) (count : Nat) :
    ((pairsFrom sheets module count).map fun pair => (pair.1, pair.2.name)).Nodup := by
  induction count generalizing module with
  | zero => simp [pairsFrom]
  | succ count ih =>
      rw [pairsFrom_succ, List.map_append, List.map_map, List.nodup_append]
      refine ⟨?_, ih (module + 1), ?_⟩
      · apply List.Nodup.of_map Prod.snd
        rw [List.map_map]
        exact nodup
      · rintro _ here _ later rfl
        obtain ⟨sheet, _, rfl⟩ := List.mem_map.mp here
        obtain ⟨⟨index, other⟩, member, equal⟩ := List.mem_map.mp later
        have bounds := (mem_pairsFrom.mp member).1
        have same : index = module := congrArg Prod.fst equal
        omega

/-- The units of some modules are one pass over the pairs of these modules with all sheets. -/
@[simp] theorem ofModules_eq_mapM (config : Config) (module : Int) (count : Nat) :
    ofModules config module count =
      (pairsFrom config.sheets module count).mapM fun pair => ofSheet config pair.1 pair.2 := by
  induction count generalizing module with
  | zero => rfl
  | succ count ih =>
      rw [ofModules, ih, ofSheets_eq_mapM, pairsFrom_succ, List.mapM_append, List.mapM_map]
      rfl

/-- Units are built of a configuration exactly when they follow its pairs one by one. -/
@[simp] theorem ofConfig_eq_ok {config : Config} {units : List SheetUnit} :
    ofConfig config = .ok units ↔
      List.Forall₂ (fun pair unit => InstanceOf config pair.1 pair.2 unit)
        (pairsFrom config.sheets 1 config.maxModules) units := by
  simp only [ofConfig, ofModules_eq_mapM, Outcome.mapM_eq_ok, ofSheet_eq_ok]

/-- A validated configuration has all its units. -/
theorem ofConfig_ok_of_accepted {tables : Tables} {maxModules : Int} {config : Config}
    (accepted : Validation.Accepted tables maxModules config) :
    ∃ units, ofConfig config = .ok units := by
  rw [ofConfig, ofModules_eq_mapM]
  apply Outcome.mapM_ok_of_forall
  rintro ⟨module, sheet⟩ member
  obtain ⟨⟨lower, upper⟩, sheetMember⟩ := mem_pairsFrom.mp member
  have positive := accepted.modules_pos
  have count := accepted.modules
  obtain ⟨device, deviceMember, named⟩ :=
    accepted.exists_device sheetMember lower (by omega)
  obtain ⟨found, foundEq⟩ := Config.exists_device?_eq_some deviceMember
  have sameName := (Config.device?_eq_some foundEq).2
  rw [← sameName] at named foundEq
  have written := (deviceNameFor_eq_ok.mp named).1
  obtain ⟨tags, tagged⟩ : ∃ tags, tagsOf module sheet.points = .ok tags := by
    rw [tagsOf_eq_mapM]
    apply Outcome.mapM_ok_of_forall
    intro point pointMember
    exact tagOf_ok_of_usable (accepted.usable sheetMember pointMember) written
  exact ⟨⟨sheet.name, module, found, tags, groupsOf sheet module tags⟩,
    ofSheet_eq_ok.mpr ⟨rfl, rfl, named, foundEq, tagged, rfl⟩⟩

section

variable {config : Config} {units : List SheetUnit}

/-- The units are named like the pairs they are built of. -/
theorem keys_eq (built : ofConfig config = .ok units) :
    (units.map fun unit => (unit.module, unit.sheet)) =
      (pairsFrom config.sheets 1 config.maxModules).map fun pair => (pair.1, pair.2.name) := by
  symm
  apply Outcome.map_eq_map (ofConfig_eq_ok.mp built)
  rintro ⟨module, sheet⟩ unit instantiated
  rw [instantiated.sheet_eq, instantiated.module_eq]

theorem keys_nodup (built : ofConfig config = .ok units)
    (distinct : (config.sheets.map Sheet.name).Nodup) :
    (units.map fun unit => (unit.module, unit.sheet)).Nodup := by
  rw [keys_eq built]
  exact pairsFrom_names_nodup distinct 1 config.maxModules

theorem exists_instanceOf (built : ofConfig config = .ok units) {unit : SheetUnit}
    (member : unit ∈ units) :
    ∃ module sheet, (module, sheet) ∈ pairsFrom config.sheets 1 config.maxModules ∧
      InstanceOf config module sheet unit := by
  obtain ⟨⟨module, sheet⟩, pairMember, instantiated⟩ :=
    Outcome.exists_of_mem_right (ofConfig_eq_ok.mp built) member
  exact ⟨module, sheet, pairMember, instantiated⟩

theorem tags_exact (built : ofConfig config = .ok units) {unit : SheetUnit}
    (member : unit ∈ units) : ∀ tag ∈ unit.tags, tag.Exact := by
  intro tag tagMember
  obtain ⟨module, sheet, _, instantiated⟩ := exists_instanceOf built member
  obtain ⟨point, _, tagged⟩ :=
    Outcome.exists_of_mem_right instantiated.tags_forall₂ tagMember
  exact tagged.exact

/-- Property names are distinct throughout a validated configuration, and so are tag names within
one of its units. -/
theorem tagNames_nodup {tables : Tables} {maxModules : Int}
    (accepted : Validation.Accepted tables maxModules config)
    (built : ofConfig config = .ok units) {unit : SheetUnit} (member : unit ∈ units) :
    (unit.tags.map Tag.name).Nodup := by
  obtain ⟨module, sheet, pairMember, instantiated⟩ := exists_instanceOf built member
  have names : sheet.points.map (fun point => instanceSpelling point.propertyName module) =
      unit.tags.map Tag.name := by
    apply Outcome.map_eq_map instantiated.tags_forall₂
    intro point tag tagged
    exact tagged.name_eq.symm
  have properties : (sheet.points.map Point.propertyName).Nodup :=
    (List.nodup_flatMap.mp accepted.propertyNames_nodup).1 sheet (mem_pairsFrom.mp pairMember).2
  rw [← names, List.Nodup, List.pairwise_map]
  rw [List.Nodup, List.pairwise_map] at properties
  exact properties.imp fun different equal => different (Naming.instanceSpelling_inj.mp equal).1

theorem find?_eq_some_of_mem (built : ofConfig config = .ok units)
    (distinct : (config.sheets.map Sheet.name).Nodup) {unit : SheetUnit}
    (member : unit ∈ units) : find? units unit.sheet unit.module = some unit := by
  have present : (find? units unit.sheet unit.module).isSome = true := by
    simp only [find?, List.find?_isSome]
    exact ⟨unit, member, by simp⟩
  obtain ⟨found, foundEq⟩ := Option.isSome_iff_exists.mp present
  have keys : found.sheet = unit.sheet ∧ found.module = unit.module := by
    simpa using List.find?_some foundEq
  have same := List.inj_on_of_nodup_map (keys_nodup built distinct)
    (List.mem_of_find?_eq_some foundEq) member (by simp [keys])
  rw [foundEq, same]

/-- Units at different places have devices with different names. -/
theorem device_names_pairwise (built : ofConfig config = .ok units)
    (distinct : (config.sheets.map Sheet.name).Nodup) :
    units.Pairwise fun left right => left.device.name ≠ right.device.name := by
  have keys := keys_nodup built distinct
  rw [List.Nodup, List.pairwise_map] at keys
  refine keys.imp_of_mem fun {left right} leftMember rightMember different equal => ?_
  obtain ⟨leftModule, leftSheet, _, leftBuilt⟩ := exists_instanceOf built leftMember
  obtain ⟨rightModule, rightSheet, _, rightBuilt⟩ := exists_instanceOf built rightMember
  rw [leftBuilt.deviceName_eq, rightBuilt.deviceName_eq, Naming.instanceSpelling_inj] at equal
  apply different
  rw [leftBuilt.module_eq, leftBuilt.sheet_eq, rightBuilt.module_eq, rightBuilt.sheet_eq, equal.1,
    equal.2]

end

/-- How the units of a configuration lie: one for every module and sheet, each bound to a device of
its own. -/
structure Bound (config : Config) (units : List SheetUnit) : Prop where
  /-- Modules in order, and for each of them the sheets in order. -/
  keys : (units.map fun unit => (unit.module, unit.sheet)) =
    (List.range config.maxModules).flatMap fun index : Nat =>
      config.sheets.map fun sheet => ((1 + index : Int), sheet.name)
  find : ∀ unit ∈ units, find? units unit.sheet unit.module = some unit
  /-- Every pair has a unit, which is bound to the device of its name and has, position by
  position, the tags of its sheet's points. -/
  instances : ∀ sheet ∈ config.sheets, ∀ module : Int, 1 ≤ module → module ≤ config.maxModules →
    ∃ unit ∈ units, find? units sheet.name module = some unit ∧
      unit.sheet = sheet.name ∧ unit.module = module ∧
      unit.device ∈ config.devices ∧ deviceNameFor sheet.name module = .ok unit.device.name ∧
      List.Forall₂ (fun point tag => tagName point.propertyName module = .ok tag.name ∧
        Address.register (.text point.address) = .ok tag.address ∧
        readInteger 10 (Address.normalizeText point.address) = .ok (tag.address : Int) ∧
        1 ≤ tag.registerLength ∧ tag.pointType = point.pointType ∧
        (tag.pointType.isArray = true →
          (tag.registerLength : Int) = tag.arrayLength * tag.pointType.elementWidth))
        sheet.points unit.tags
  endpoints : units.Pairwise fun left right =>
    left.device.name ≠ right.device.name ∧ left.device.ip ≠ right.device.ip

/-- A validated configuration with distinct sheet names has all its units, each bound to an
endpoint of its own. -/
theorem ofConfig_bound {tables : Tables} {maxModules : Int} {config : Config}
    (validated : Validation.validate tables maxModules = .ok config)
    (distinct : (config.sheets.map Sheet.name).Nodup) :
    ∃ units, ofConfig config = .ok units ∧ Bound config units := by
  have accepted := Validation.validate_eq_ok validated
  obtain ⟨units, built⟩ := ofConfig_ok_of_accepted accepted
  refine ⟨units, built, ?_, ?_, ?_, ?_⟩
  · rw [keys_eq built, pairsFrom, List.map_flatMap]
    simp only [List.map_map, Function.comp_def]
  · intro unit member
    exact find?_eq_some_of_mem built distinct member
  · intro sheet sheetMember module lower upper
    have pairMember : (module, sheet) ∈ pairsFrom config.sheets 1 config.maxModules :=
      mem_pairsFrom.mpr ⟨by omega, sheetMember⟩
    obtain ⟨unit, member, instantiated⟩ :=
      Outcome.exists_of_mem_left (ofConfig_eq_ok.mp built) pairMember
    have found := find?_eq_some_of_mem built distinct member
    rw [instantiated.sheet_eq, instantiated.module_eq] at found
    refine ⟨unit, member, found, instantiated.sheet_eq, instantiated.module_eq,
      instantiated.device_mem, instantiated.named, ?_⟩
    apply instantiated.tags_forall₂.imp
    intro point tag tagged
    exact ⟨tagged.name, tagged.address, tagged.address_read, tag.registerLength_pos,
      tagged.pointType, tagged.registerLength_of_array⟩
  · refine (device_names_pairwise built distinct).imp_of_mem
      fun {left right} leftMember rightMember different => ⟨different, fun sameIp => ?_⟩
    obtain ⟨_, _, _, leftBuilt⟩ := exists_instanceOf built leftMember
    obtain ⟨_, _, _, rightBuilt⟩ := exists_instanceOf built rightMember
    apply different
    rw [List.inj_on_of_nodup_map accepted.ips_nodup leftBuilt.device_mem rightBuilt.device_mem
      sameIp]

theorem sampleConfig_bound :
    Validation.validate Validation.sampleTables 2 = .ok Validation.sampleConfig ∧
      ∃ units, ofConfig Validation.sampleConfig = .ok units ∧
        Bound Validation.sampleConfig units :=
  ⟨Validation.validate_sampleTables,
    ofConfig_bound Validation.validate_sampleTables (by decide)⟩

end SheetUnit

end PointTable
