import PointTable.Proofs.Program

/-!
# Names of services

A service is named for the module and the sheet of its unit, with nothing between the number and
the text. Two units share a name just when the digits that one module number has more than the
other stand at the front of the other unit's sheet name. With fewer than ten modules all numbers
have one digit, and names of services are as distinct as the units.
-/

namespace PointTable

/-! ## Numbers in front of a text -/

namespace Naming

theorem digitValue_lt {c : Char} (digit : c.isDigit = true) : c.toNat - '0'.toNat < 10 := by
  have bounds : 48 ≤ c.toNat ∧ c.toNat ≤ 57 := Char.isDigit_iff_toNat.mp digit
  change c.toNat - 48 < 10
  omega

theorem toDigits_digitValue {c : Char} (digit : c.isDigit = true) :
    Nat.toDigits 10 (c.toNat - '0'.toNat) = [c] := by
  have bounds : 48 ≤ c.toNat ∧ c.toNat ≤ 57 := Char.isDigit_iff_toNat.mp digit
  rw [Nat.toDigits_of_lt_base (digitValue_lt digit)]
  congr 1
  apply Char.toNat_inj.mp
  rw [Nat.toNat_digitChar_of_lt_ten (digitValue_lt digit)]
  change 48 + (c.toNat - 48) = c.toNat
  omega

theorem toDigits_append {n : Nat} (positive : 0 < n) {digits : List Char}
    (numeric : ∀ c ∈ digits, c.isDigit = true) :
    Nat.toDigits 10 n ++ digits = Nat.toDigits 10 (Nat.ofDigitChars 10 digits n) := by
  induction digits generalizing n with
  | nil => simp
  | cons digit others ih =>
      rw [List.forall_mem_cons] at numeric
      rw [Nat.ofDigitChars_cons, ← ih (by omega) numeric.2,
        ← Nat.toDigits_append_toDigits (by decide) positive (digitValue_lt numeric.1),
        toDigits_digitValue numeric.1, List.append_assoc, List.singleton_append]

/-- A number whose digits begin with those of another continues it. -/
theorem eq_ofDigitChars_of_toDigits {n longer : Nat} {digits : List Char}
    (grown : Nat.toDigits 10 longer = Nat.toDigits 10 n ++ digits) :
    (∀ c ∈ digits, c.isDigit = true) ∧ longer = Nat.ofDigitChars 10 digits n := by
  constructor
  · intro c member
    apply Nat.isDigit_of_mem_toDigits (b := 10) (n := longer) (by decide) (by decide)
    rw [grown]
    exact List.mem_append_right _ member
  · rw [← Nat.ofDigitChars_ten_toDigits (n := longer), grown, Nat.ofDigitChars_append,
      Nat.ofDigitChars_ten_toDigits]

theorem ofDigitChars_le {digits : List Char} {m n : Nat} (le : m ≤ n) :
    Nat.ofDigitChars 10 digits m ≤ Nat.ofDigitChars 10 digits n := by
  have scaled : 10 ^ digits.length * m ≤ 10 ^ digits.length * n := Nat.mul_le_mul_left _ le
  have atFirst := @Nat.ofDigitChars_eq_ofDigitChars_zero digits m
  have atSecond := @Nat.ofDigitChars_eq_ofDigitChars_zero digits n
  omega

theorem ten_le_ofDigitChars {digits : List Char} (filled : digits ≠ []) :
    10 ≤ Nat.ofDigitChars 10 digits 1 := by
  have width : 10 ^ 1 ≤ 10 ^ digits.length :=
    Nat.pow_le_pow_right (by decide) (List.length_pos_iff.mpr filled)
  rw [Nat.ofDigitChars_eq_ofDigitChars_zero]
  omega

end Naming

/-! ## Clashes -/

/-- One name is another one with digits in front, and these digits behind a one make the number of
a module. -/
def Continues (modules : Nat) (longer shorter : String) : Prop :=
  ∃ digits : List Char, digits ≠ [] ∧ (∀ c ∈ digits, c.isDigit = true) ∧
    longer.toList = digits ++ shorter.toList ∧ Nat.ofDigitChars 10 digits 1 ≤ modules

theorem continues_iff {modules : Nat} {longer shorter : String} :
    Continues modules longer shorter ↔
      let digits := longer.toList.take (longer.toList.length - shorter.toList.length)
      digits ≠ [] ∧ digits.all Char.isDigit = true ∧
        longer.toList = digits ++ shorter.toList ∧ Nat.ofDigitChars 10 digits 1 ≤ modules := by
  simp only [Continues, ← List.all_eq_true]
  constructor
  · rintro ⟨digits, filled, numeric, chars, bounded⟩
    have split : longer.toList.take (longer.toList.length - shorter.toList.length) = digits := by
      simp [chars]
    rw [split]
    exact ⟨filled, numeric, chars, bounded⟩
  · intro taken
    exact ⟨_, taken⟩

instance (modules : Nat) (longer shorter : String) : Decidable (Continues modules longer shorter) :=
  decidable_of_iff' _ continues_iff

theorem Continues.ten_le {modules : Nat} {longer shorter : String}
    (continues : Continues modules longer shorter) : 10 ≤ modules := by
  obtain ⟨digits, filled, _, _, bounded⟩ := continues
  exact le_trans (Naming.ten_le_ofDigitChars filled) bounded

namespace Service

/-- The name of the service for a module and a sheet. -/
def nameFor (module : Int) (sheet : String) : String :=
  "_" ++ toString module ++ sheet

@[simp] theorem nameFor_toList (module : Nat) (sheet : String) :
    (nameFor module sheet).toList = '_' :: (Nat.toDigits 10 module ++ sheet.toList) := by
  have digits : (toString (module : Int)).toList = Nat.toDigits 10 module := Nat.toList_repr
  rw [nameFor, String.toList_append, String.toList_append, digits]
  rfl

/-- Where the digits of one number go on as those of the other, the sheet of the first has the
remaining digits in front. -/
theorem continues_of_nameFor_eq {modules module module' : Nat} {sheet sheet' : String}
    (positive : 0 < module) (bounded : module' ≤ modules) {digits : List Char}
    (grown : Nat.toDigits 10 module' = Nat.toDigits 10 module ++ digits)
    (sheets : sheet.toList = digits ++ sheet'.toList) :
    (module = module' ∧ sheet = sheet') ∨ Continues modules sheet sheet' := by
  obtain ⟨numeric, number⟩ := Naming.eq_ofDigitChars_of_toDigits grown
  by_cases empty : digits = []
  · left
    subst empty
    exact ⟨number.symm, String.toList_inj.mp sheets⟩
  · right
    refine ⟨digits, empty, numeric, sheets, ?_⟩
    calc
      Nat.ofDigitChars 10 digits 1 ≤ Nat.ofDigitChars 10 digits module :=
        Naming.ofDigitChars_le positive
      _ ≤ modules := number ▸ bounded

theorem eq_or_continues_of_nameFor_eq {modules module module' : Nat} {sheet sheet' : String}
    (range : 0 < module ∧ module ≤ modules) (range' : 0 < module' ∧ module' ≤ modules)
    (equal : nameFor module sheet = nameFor module' sheet') :
    (module = module' ∧ sheet = sheet') ∨ Continues modules sheet sheet' ∨
      Continues modules sheet' sheet := by
  have chars := congrArg String.toList equal
  rw [nameFor_toList, nameFor_toList, List.cons.injEq] at chars
  rcases List.append_eq_append_iff.mp chars.2 with ⟨digits, grown, sheets⟩ |
    ⟨digits, grown, sheets⟩
  · rcases continues_of_nameFor_eq range.1 range'.2 grown sheets with same | continues
    · exact .inl same
    · exact .inr (.inl continues)
  · rcases continues_of_nameFor_eq range'.1 range.2 grown sheets with same | continues
    · exact .inl ⟨same.1.symm, same.2.symm⟩
    · exact .inr (.inr continues)

theorem nameFor_eq_of_digits {longer shorter : String} {digits : List Char}
    (numeric : ∀ c ∈ digits, c.isDigit = true)
    (sheets : longer.toList = digits ++ shorter.toList) :
    nameFor (1 : Nat) longer = nameFor (Nat.ofDigitChars 10 digits 1 : Nat) shorter := by
  apply String.toList_inj.mp
  rw [nameFor_toList, nameFor_toList, sheets, ← Naming.toDigits_append (by decide) numeric,
    List.append_assoc]

end Service

/-! ## Services of a configuration -/

namespace Program

variable {config : Config} {units : List SheetUnit}

@[simp] theorem serviceNames_eq (units : List SheetUnit) :
    (services units).map Service.name =
      (units.map fun unit => (unit.module, unit.sheet)).map fun key =>
        Service.nameFor key.1 key.2 := by
  simp only [services, List.map_map, Function.comp_def]
  rfl

theorem mem_keys_iff (built : SheetUnit.ofConfig config = .ok units) {key : Int × String} :
    key ∈ (units.map fun unit => (unit.module, unit.sheet)) ↔
      ∃ module : Nat, (0 < module ∧ module ≤ config.maxModules) ∧ key.1 = module ∧
        ∃ sheet ∈ config.sheets, sheet.name = key.2 := by
  rw [SheetUnit.keys_eq built, List.mem_map]
  constructor
  · rintro ⟨⟨module, sheet⟩, member, rfl⟩
    obtain ⟨bounds, sheetMember⟩ := SheetUnit.mem_pairsFrom.mp member
    exact ⟨module.toNat, by omega, by simp only; omega, sheet, sheetMember, rfl⟩
  · rintro ⟨module, bounds, moduleEq, sheet, sheetMember, sheetEq⟩
    refine ⟨(module, sheet), SheetUnit.mem_pairsFrom.mpr ⟨by omega, sheetMember⟩, ?_⟩
    rw [← moduleEq, sheetEq]

/-- A sheet name that continues a module number makes a clash with the first module. -/
theorem not_continues_of_nodup (built : SheetUnit.ofConfig config = .ok units)
    (distinct : (config.sheets.map Sheet.name).Nodup)
    (nodup : ((services units).map Service.name).Nodup) {sheet other : Sheet}
    (sheetMember : sheet ∈ config.sheets) (otherMember : other ∈ config.sheets) :
    ¬ Continues config.maxModules sheet.name other.name := by
  rintro ⟨digits, filled, numeric, sheets, bounded⟩
  rw [serviceNames_eq, List.nodup_map_iff_inj_on (SheetUnit.keys_nodup built distinct)] at nodup
  have large := Naming.ten_le_ofDigitChars filled
  have same := nodup
    ((1 : Nat), sheet.name)
    ((mem_keys_iff built).mpr ⟨1, by omega, rfl, sheet, sheetMember, rfl⟩)
    ((Nat.ofDigitChars 10 digits 1 : Nat), other.name)
    ((mem_keys_iff built).mpr ⟨_, by omega, rfl, other, otherMember, rfl⟩)
    (Service.nameFor_eq_of_digits numeric sheets)
  have modules := congrArg Prod.fst same
  simp only at modules
  omega

theorem serviceNames_nodup (built : SheetUnit.ofConfig config = .ok units)
    (distinct : (config.sheets.map Sheet.name).Nodup)
    (apart : ∀ sheet ∈ config.sheets, ∀ other ∈ config.sheets,
      ¬ Continues config.maxModules sheet.name other.name) :
    ((services units).map Service.name).Nodup := by
  rw [serviceNames_eq, List.nodup_map_iff_inj_on (SheetUnit.keys_nodup built distinct)]
  rintro ⟨module, name⟩ member ⟨module', name'⟩ member' equal
  obtain ⟨number, bounds, rfl, sheet, sheetMember, rfl⟩ := (mem_keys_iff built).mp member
  obtain ⟨number', bounds', rfl, sheet', sheetMember', rfl⟩ := (mem_keys_iff built).mp member'
  rcases Service.eq_or_continues_of_nameFor_eq bounds bounds' equal with same | here | there
  · exact Prod.ext (congrArg Nat.cast same.1) same.2
  · exact absurd here (apart sheet sheetMember sheet' sheetMember')
  · exact absurd there (apart sheet' sheetMember' sheet sheetMember)

/-- The services of a validated configuration with distinct sheet names have distinct names if and
only if no sheet name continues a module number before another sheet name. With fewer than ten
modules they always do. -/
theorem services_distinct_iff {tables : Tables} {maxModules : Int} {config : Config}
    (validated : Validation.validate tables maxModules = .ok config)
    (distinct : (config.sheets.map Sheet.name).Nodup) :
    ∃ units, SheetUnit.ofConfig config = .ok units ∧
      (((services units).map Service.name).Nodup ↔
        ∀ sheet ∈ config.sheets, ∀ other ∈ config.sheets,
          ¬ Continues config.maxModules sheet.name other.name) ∧
      (config.maxModules < 10 → ((services units).map Service.name).Nodup) := by
  obtain ⟨units, built⟩ := SheetUnit.ofConfig_ok_of_accepted (Validation.validate_eq_ok validated)
  refine ⟨units, built, ⟨?_, serviceNames_nodup built distinct⟩, ?_⟩
  · intro nodup sheet sheetMember other otherMember
    exact not_continues_of_nodup built distinct nodup sheetMember otherMember
  · intro few
    apply serviceNames_nodup built distinct
    intro sheet _ other _ continues
    exact absurd continues.ten_le (by omega)

/-- A workbook of two empty sheets, with a device for each of them and every module. -/
def pairTables (modules : Nat) (sheet other : String) : Tables where
  devices := some <| (([sheet, other].flatMap fun name =>
    (List.range modules).map fun index => name ++ "_M" ++ toString (index + 1)).zipIdx 1).map
      fun (name, place) => [("Device", .text name), ("IP", .text ("10.0.0." ++ toString place))]
  sheets := [(sheet, []), (other, [])]

/-- Of ten modules none has the number 11, so a sheet name may begin with a one. -/
theorem pairTables_services :
    ∃ config units, Validation.validate (pairTables 10 "Line" "1Line") 10 = .ok config ∧
      (config.sheets.map Sheet.name).Nodup ∧ SheetUnit.ofConfig config = .ok units ∧
      ((services units).map Service.name).Nodup := by
  obtain ⟨config, validated⟩ :
      ∃ config, Validation.validate (pairTables 10 "Line" "1Line") 10 = .ok config :=
    Outcome.exists_ok_of_toBool (by decide +kernel)
  have accepted := Validation.validate_eq_ok validated
  have names : config.sheets.map Sheet.name = ["Line", "1Line"] := accepted.sheetNames_eq
  have distinct : (config.sheets.map Sheet.name).Nodup := by
    rw [names]
    decide
  have apart : ∀ name ∈ config.sheets.map Sheet.name, ∀ other ∈ config.sheets.map Sheet.name,
      ¬ Continues config.maxModules name other := by
    rw [names, accepted.modules]
    decide
  obtain ⟨units, built, exactly, _⟩ := services_distinct_iff validated distinct
  refine ⟨config, units, validated, distinct, built, exactly.mpr ?_⟩
  intro sheet sheetMember other otherMember
  exact apart _ (List.mem_map_of_mem sheetMember) _ (List.mem_map_of_mem otherMember)

/-- The tenth module of one sheet and the first of another share the name of their service. -/
theorem pairTables_services_clash :
    ∃ config units, Validation.validate (pairTables 10 "Line" "0Line") 10 = .ok config ∧
      (config.sheets.map Sheet.name).Nodup ∧ SheetUnit.ofConfig config = .ok units ∧
      ¬ ((services units).map Service.name).Nodup := by
  obtain ⟨config, validated⟩ :
      ∃ config, Validation.validate (pairTables 10 "Line" "0Line") 10 = .ok config :=
    Outcome.exists_ok_of_toBool (by decide +kernel)
  have accepted := Validation.validate_eq_ok validated
  have names : config.sheets.map Sheet.name = ["Line", "0Line"] := accepted.sheetNames_eq
  have distinct : (config.sheets.map Sheet.name).Nodup := by
    rw [names]
    decide
  obtain ⟨units, built⟩ := SheetUnit.ofConfig_ok_of_accepted accepted
  refine ⟨config, units, validated, distinct, built, fun nodup => ?_⟩
  obtain ⟨line, lineMember, lineName⟩ : ∃ sheet ∈ config.sheets, sheet.name = "Line" :=
    List.mem_map.mp (by rw [names]; decide)
  obtain ⟨other, otherMember, otherName⟩ : ∃ sheet ∈ config.sheets, sheet.name = "0Line" :=
    List.mem_map.mp (by rw [names]; decide)
  apply not_continues_of_nodup built distinct nodup otherMember lineMember
  rw [lineName, otherName, accepted.modules]
  decide

end Program

end PointTable
