import PointTable.Proofs.Coverage
import PointTable.Proofs.Period
import PointTable.Proofs.PeriodText

/-!
# Names of tasks

Behind its last mark a name spells a number, and the mark tells what the name is: the number is that
of a module, a period, or the period that tells a renamed task apart. A handshake is the exception,
since its name ends in a trigger, which is free text in upper case. So a task that is renamed can
meet one name only, that of an earlier handshake of its unit whose trigger spells the very same
ending. All other names of a validated configuration are distinct.
-/

namespace PointTable

/-! ## The last mark of a name -/

namespace Naming

/-- The last character of a name that spells no number, with the texts before and behind it. -/
structure Marked (name : String) (before : List Char) (mark : Char) (behind : List Char) :
    Prop where
  chars : name.toList = before ++ mark :: behind
  outside : ¬Period.IsNameNumeral mark
  inside : ∀ c ∈ behind, Period.IsNameNumeral c

theorem Marked.unique {name : String} {before before' behind behind' : List Char}
    {mark mark' : Char} (marked : Marked name before mark behind)
    (marked' : Marked name before' mark' behind') :
    before = before' ∧ mark = mark' ∧ behind = behind' :=
  append_cons_inj_of_class marked.inside marked'.inside marked.outside marked'.outside
    (marked.chars.symm.trans marked'.chars)

theorem marked_module (stem : String) (module : Int) :
    Marked (stem ++ "_M" ++ toString module) (stem ++ "_").toList 'M' (toString module).toList := by
  refine ⟨by simp, by decide, ?_⟩
  intro c member
  rcases isDigit_of_mem_int member with rfl | digit
  · decide
  · exact .inl (.inl digit)

theorem marked_period (unit : String) {period : Double} (number : period.isFinite = true) :
    Marked (unit ++ "_Period_" ++ Period.text period) (unit ++ "_Perio").toList 'd'
      ("_" ++ Period.text period).toList := by
  refine ⟨by simp, by decide, ?_⟩
  intro c member
  rw [String.toList_append, List.mem_append] at member
  rcases member with mark | numeral
  · exact .inr (by simpa using mark)
  · exact .inl (Period.isNumeral_of_mem_text number numeral)

theorem marked_renamed (name : String) {group : PeriodGroup}
    (number : group.period.isFinite = true) :
    Marked (Task.renamed name group) (name ++ "_").toList 'P'
      (Period.nameText group.period).toList := by
  refine ⟨by simp [Task.renamed], by decide, ?_⟩
  intro c member
  exact Period.isNameNumeral_of_mem_nameText number member

theorem handshake_inj {unit unit' tail tail' : String} (absent : 'k' ∉ tail.toList)
    (absent' : 'k' ∉ tail'.toList)
    (equal : unit ++ "_Handshake_T" ++ tail = unit' ++ "_Handshake_T" ++ tail') :
    unit = unit' ∧ tail = tail' :=
  (separated_inj (c := 'k') (by decide) absent absent').mp equal

theorem handshake_ne_period {unit unit' tail tail' : String} (absent : 'd' ∉ tail.toList)
    (absent' : 'd' ∉ tail'.toList) :
    unit ++ "_Handshake_T" ++ tail ≠ unit' ++ "_Period_" ++ tail' := by
  intro equal
  have chars : (unit ++ "_Han").toList ++ 'd' :: ("shake_T" ++ tail).toList =
      (unit' ++ "_Perio").toList ++ 'd' :: ("_" ++ tail').toList := by
    simpa using congrArg String.toList equal
  have rests := (append_cons_inj_of_last (by simp [absent]) (by simp [absent']) chars).2
  simp at rests

end Naming

/-! ## Groups and their points -/

namespace SheetUnit

variable {tables : Tables} {maxModules : Int} {config : Config} {units : List SheetUnit}

/-- A group has its period and its trigger from a point of its sheet. -/
structure GroupFrom (sheet : Sheet) (point : Point) (group : PeriodGroup) : Prop where
  sheet_eq : group.sheet = sheet.name
  period_eq : group.period = point.period
  finite : group.period.isFinite = true
  nonzero : group.period.isZero = false
  trigger_eq : group.triggerAddress = groupTrigger? point

theorem exists_groupFrom (accepted : Validation.Accepted tables maxModules config)
    (built : ofConfig config = .ok units) {group : PeriodGroup}
    (member : group ∈ Task.allGroups units) :
    ∃ sheet ∈ config.sheets, ∃ point ∈ sheet.points, GroupFrom sheet point group := by
  obtain ⟨unit, unitMember, groupMember⟩ := List.mem_flatMap.mp member
  obtain ⟨module, sheet, sheetMember, _, grouped⟩ :=
    groupOf_of_mem_groups accepted built unitMember groupMember
  obtain ⟨tag, inside⟩ := grouped.filled
  obtain ⟨point, itemMember, same, nonzero, trigger⟩ := grouped.members tag inside
  have pointMember := (List.of_mem_zip itemMember).1
  have number := (accepted.usable sheetMember pointMember).period_finite
  exact ⟨sheet, sheetMember, point, pointMember, grouped.sheet_eq, same.symm, same ▸ number,
    same ▸ nonzero, trigger⟩

/-- No two groups agree in sheet, module, period and trigger. -/
theorem allGroups_pairwise (accepted : Validation.Accepted tables maxModules config)
    (built : ofConfig config = .ok units) (distinct : (config.sheets.map Sheet.name).Nodup) :
    (Task.allGroups units).Pairwise fun group other =>
      group.sheet = other.sheet → group.module = other.module → group.period = other.period →
        group.triggerAddress ≠ other.triggerAddress := by
  rw [Task.allGroups, List.pairwise_flatMap]
  constructor
  · intro unit unitMember
    obtain ⟨module, sheet, pairMember, instantiated⟩ := exists_instanceOf built unitMember
    have numbers : ∀ point ∈ sheet.points, point.period.isFinite = true :=
      fun point pointMember =>
        (accepted.usable (mem_pairsFrom.mp pairMember).2 pointMember).period_finite
    rw [instantiated.groups]
    apply (groupsOf_pairwise numbers).imp
    intro group other different _ _
    exact different
  · have keys := keys_nodup built distinct
    rw [List.Nodup, List.pairwise_map] at keys
    refine keys.imp_of_mem fun {unit unit'} unitMember unitMember' different => ?_
    intro group groupMember other otherMember sheets modules
    obtain ⟨sheet, module⟩ := unit_of_mem_groups accepted built unitMember groupMember
    obtain ⟨sheet', module'⟩ := unit_of_mem_groups accepted built unitMember' otherMember
    refine absurd ?_ different
    rw [← sheet, ← module, ← sheet', ← module', sheets, modules]

end SheetUnit

/-! ## Names of groups -/

namespace Task

open SheetUnit (GroupFrom groupTrigger?)

variable {options : Options} {sheet sheet' : Sheet} {point point' : Point}
variable {group group' : PeriodGroup}

@[simp] theorem groupName_of_negative (negative : group.period.isNegative = true) :
    groupName options group = instanceSpelling group.sheet group.module ++ "_Handshake_T" ++
      addressOrZero group.triggerAddress := by
  simp [groupName, dutyOf, negative, handshakeOf]

@[simp] theorem groupName_of_not_negative (notNegative : group.period.isNegative = false) :
    groupName options group =
      instanceSpelling group.sheet group.module ++ "_Period_" ++ Period.text group.period := by
  unfold groupName dutyOf Period.kind
  rw [notNegative]
  cases group.period.isZero <;> cases group.period.isBelowOne <;> rfl

theorem renamed_of_negative (negative : group.period.isNegative = true) :
    renamed (groupName options group) group =
      instanceSpelling group.sheet group.module ++ "_Handshake_T" ++
        (addressOrZero group.triggerAddress ++ "_P" ++ Period.nameText group.period) := by
  rw [renamed, groupName_of_negative negative]
  simp only [String.append_assoc]

theorem renamed_of_not_negative (notNegative : group.period.isNegative = false) :
    renamed (groupName options group) group =
      instanceSpelling group.sheet group.module ++ "_Period_" ++
        (Period.text group.period ++ "_P" ++ Period.nameText group.period) := by
  rw [renamed, groupName_of_not_negative notNegative]
  simp only [String.append_assoc]

theorem triggerAddress_of_not_negative (made : GroupFrom sheet point group)
    (notNegative : group.period.isNegative = false) : group.triggerAddress = none := by
  have positive : point.period.isPositive = true := by
    rw [← made.period_eq]
    exact Double.isPositive_of_not_isNegative made.finite made.nonzero notNegative
  rw [made.trigger_eq, groupTrigger?, if_pos positive]

theorem triggerAddress_of_negative (made : GroupFrom sheet point group)
    (negative : group.period.isNegative = true) :
    group.triggerAddress = some (Address.normalizeOption point.triggerAddress) := by
  have notPositive : ¬point.period.isPositive = true := by
    rw [← made.period_eq, Double.isPositive_of_isNegative negative]
    exact Bool.false_ne_true
  rw [made.trigger_eq, groupTrigger?, if_neg notPositive]

theorem trigger_of_negative (made : GroupFrom sheet point group)
    (negative : group.period.isNegative = true) :
    addressOrZero group.triggerAddress = Address.normalizeOption point.triggerAddress := by
  simp [triggerAddress_of_negative made negative, addressOrZero]

theorem small_not_mem_trigger (made : GroupFrom sheet point group)
    (negative : group.period.isNegative = true) {c : Char} (small : Text.IsSmall c.toNat) :
    c ∉ (addressOrZero group.triggerAddress).toList := by
  intro member
  rw [trigger_of_negative made negative] at member
  exact Address.not_small_of_mem_normalizeOption member small

theorem not_mem_nameText (number : group.period.isFinite = true) {c : Char}
    (other : ¬Period.IsNameNumeral c) : c ∉ (Period.nameText group.period).toList := by
  intro member
  exact other (Period.isNameNumeral_of_mem_nameText number member)

/-- Groups with one name are of one unit and one trigger, and of periods of one sign. -/
theorem unit_of_groupName_eq (made : GroupFrom sheet point group)
    (made' : GroupFrom sheet' point' group')
    (equal : groupName options group = groupName options group') :
    instanceSpelling group.sheet group.module = instanceSpelling group'.sheet group'.module ∧
      group.period.isNegative = group'.period.isNegative ∧
      group.triggerAddress = group'.triggerAddress := by
  cases sign : group.period.isNegative with
  | true =>
      cases sign' : group'.period.isNegative with
      | true =>
          rw [groupName_of_negative sign, groupName_of_negative sign'] at equal
          obtain ⟨units, triggers⟩ := Naming.handshake_inj
            (small_not_mem_trigger made sign (by decide))
            (small_not_mem_trigger made' sign' (by decide)) equal
          rw [trigger_of_negative made sign, trigger_of_negative made' sign'] at triggers
          rw [triggerAddress_of_negative made sign, triggerAddress_of_negative made' sign',
            triggers]
          exact ⟨units, rfl, rfl⟩
      | false =>
          rw [groupName_of_negative sign, groupName_of_not_negative sign'] at equal
          exact absurd equal (Naming.handshake_ne_period
            (small_not_mem_trigger made sign (by decide))
            (Period.not_mem_text made'.finite (by decide)))
  | false =>
      cases sign' : group'.period.isNegative with
      | true =>
          rw [groupName_of_not_negative sign, groupName_of_negative sign'] at equal
          exact absurd equal.symm (Naming.handshake_ne_period
            (small_not_mem_trigger made' sign' (by decide))
            (Period.not_mem_text made.finite (by decide)))
      | false =>
          rw [groupName_of_not_negative sign, groupName_of_not_negative sign'] at equal
          have marked :=
            Naming.marked_period (instanceSpelling group.sheet group.module) made.finite
          rw [equal] at marked
          have units := (marked.unique (Naming.marked_period _ made'.finite)).1
          rw [String.toList_inj, String.append_left_inj] at units
          rw [triggerAddress_of_not_negative made sign, triggerAddress_of_not_negative made' sign']
          exact ⟨units, rfl, rfl⟩

/-- Groups that are renamed alike agree in everything that tells groups apart. -/
theorem same_of_renamed_eq (made : GroupFrom sheet point group)
    (made' : GroupFrom sheet' point' group')
    (equal : renamed (groupName options group) group = renamed (groupName options group') group') :
    group.sheet = group'.sheet ∧ group.module = group'.module ∧ group.period = group'.period ∧
      group.triggerAddress = group'.triggerAddress := by
  have marked := Naming.marked_renamed (groupName options group) made.finite
  rw [equal] at marked
  obtain ⟨names, _, spellings⟩ := marked.unique (Naming.marked_renamed _ made'.finite)
  rw [String.toList_inj, String.append_left_inj] at names
  obtain ⟨units, signs, triggers⟩ := unit_of_groupName_eq made made' names
  obtain ⟨sheets, modules⟩ := Naming.instanceSpelling_inj.mp units
  have magnitudes := (Period.nameText_eq_iff made.finite made'.finite).mp
    (String.toList_inj.mp spellings)
  exact ⟨sheets, modules,
    Double.eq_of_abs_eq made.finite made'.finite made.nonzero signs magnitudes, triggers⟩

/-- Only a handshake keeps a name that another group is renamed to, and then its trigger ends in
the period of the other. -/
theorem trigger_of_groupName_eq_renamed (made : GroupFrom sheet point group)
    (made' : GroupFrom sheet' point' group')
    (equal : groupName options group = renamed (groupName options group') group') :
    instanceSpelling group.sheet group.module = instanceSpelling group'.sheet group'.module ∧
      group.period.isNegative = true ∧ group'.period.isNegative = true ∧
      addressOrZero group.triggerAddress =
        addressOrZero group'.triggerAddress ++ "_P" ++ Period.nameText group'.period := by
  cases sign : group.period.isNegative with
  | false =>
      rw [groupName_of_not_negative sign] at equal
      have marked := Naming.marked_period (instanceSpelling group.sheet group.module) made.finite
      rw [equal] at marked
      have marks := (marked.unique (Naming.marked_renamed _ made'.finite)).2.1
      exact absurd marks (by decide)
  | true =>
      cases sign' : group'.period.isNegative with
      | false =>
          rw [groupName_of_negative sign, renamed_of_not_negative sign'] at equal
          have absent : 'd' ∉ (Period.text group'.period ++ "_P" ++
              Period.nameText group'.period).toList := by
            simp [Period.not_mem_text made'.finite (show ¬Decimal.IsNumeral 'd' by decide),
              not_mem_nameText made'.finite (show ¬Period.IsNameNumeral 'd' by decide)]
          exact absurd equal
            (Naming.handshake_ne_period (small_not_mem_trigger made sign (by decide)) absent)
      | true =>
          rw [groupName_of_negative sign, renamed_of_negative sign'] at equal
          have absent : 'k' ∉ (addressOrZero group'.triggerAddress ++ "_P" ++
              Period.nameText group'.period).toList := by
            simp [small_not_mem_trigger made' sign' (show Text.IsSmall 'k'.toNat by decide),
              not_mem_nameText made'.finite (show ¬Period.IsNameNumeral 'k' by decide)]
          obtain ⟨units, triggers⟩ := Naming.handshake_inj
            (small_not_mem_trigger made sign (by decide)) absent equal
          exact ⟨units, rfl, rfl, triggers⟩

/-! ## One pass over the groups -/

/-- A capture has the name of its group, or the name that tells the group apart. -/
structure NamedFor (options : Options) (group : PeriodGroup) (task : Task) : Prop where
  capture : CaptureOf options group task
  name : task.name = groupName options group ∨
    task.name = renamed (groupName options group) group

section

variable {taken : List String} {groups : List PeriodGroup} {tasks : List Task}

theorem freeName_cases (taken : List String) (name : String) (group : PeriodGroup) :
    freeName taken name group = name ∧ name ∉ taken ∨
      freeName taken name group = renamed name group := by
  unfold freeName
  split
  · exact .inr rfl
  · next free => exact .inl ⟨rfl, free⟩

theorem named_of_ofGroups (made : ofGroups options taken groups = .ok tasks) :
    List.Forall₂ (NamedFor options) groups tasks := by
  induction groups generalizing taken tasks with
  | nil =>
      cases made
      exact .nil
  | cons group rest ih =>
      obtain ⟨task, others, capture, named, remaining, rfl⟩ := ofGroups_cons_eq_ok.mp made
      refine .cons ⟨capture, ?_⟩ (ih remaining)
      rw [named]
      exact (freeName_cases taken _ group).imp And.left id

/-- A name that is taken already is given to a renamed task only. -/
theorem renamed_of_mem_taken (made : ofGroups options taken groups = .ok tasks) :
    ∀ pair ∈ groups.zip tasks, pair.2.name ∈ taken →
      pair.2.name = renamed (groupName options pair.1) pair.1 := by
  induction groups generalizing taken tasks with
  | nil => simp
  | cons group rest ih =>
      obtain ⟨task, others, capture, named, remaining, rfl⟩ := ofGroups_cons_eq_ok.mp made
      rw [List.zip_cons_cons, List.forall_mem_cons]
      constructor
      · intro member
        rcases freeName_cases taken (groupName options group) group with ⟨kept, free⟩ | told
        · rw [named, kept] at member
          exact absurd member free
        · rw [named, told]
      · intro pair pairMember member
        exact ih remaining pair pairMember (List.mem_cons_of_mem _ member)

/-- Of two captures with one name the later one is renamed. -/
theorem renamed_of_name_eq (made : ofGroups options taken groups = .ok tasks) :
    (groups.zip tasks).Pairwise fun earlier later => earlier.2.name = later.2.name →
      later.2.name = renamed (groupName options later.1) later.1 := by
  induction groups generalizing taken tasks with
  | nil => simp
  | cons group rest ih =>
      obtain ⟨task, others, capture, named, remaining, rfl⟩ := ofGroups_cons_eq_ok.mp made
      rw [List.zip_cons_cons, List.pairwise_cons]
      refine ⟨?_, ih remaining⟩
      intro later laterMember equal
      apply renamed_of_mem_taken remaining later laterMember
      rw [← equal]
      exact List.mem_cons_self

end

/-! ## Clashes -/

/-- An earlier handshake of a unit keeps the name that a later one is given to tell it apart: the
trigger of the earlier one is that of the later one with the later one's period behind. -/
structure Shadows (earlier later : Task) : Prop where
  sheet_eq : earlier.sheet = later.sheet
  module_eq : earlier.module = later.module
  clash : ∃ storage protocol protocol' mark,
    earlier.duty = .handshake storage protocol ∧
    later.duty = .handshake (later.sheet ++ "_PeriodAbs_" ++ mark) protocol' ∧
    protocol.triggerAddress = protocol'.triggerAddress ++ "_P" ++ mark ∧
    earlier.name = instanceSpelling earlier.sheet earlier.module ++ "_Handshake_T" ++
      protocol.triggerAddress ∧
    later.name = instanceSpelling later.sheet later.module ++ "_Handshake_T" ++
      protocol'.triggerAddress ++ "_P" ++ mark

theorem Shadows.name_eq {earlier later : Task} (shadows : Shadows earlier later) :
    earlier.name = later.name := by
  obtain ⟨sheets, modules, storage, protocol, protocol', mark, _, _, triggers, name, name'⟩ :=
    shadows
  rw [name, name', triggers, sheets, modules]
  simp only [String.append_assoc]

/-- No trigger of a handshake in a sheet is another one with the period of the other behind. -/
def TriggersApart (sheet : Sheet) : Prop :=
  ∀ point ∈ sheet.points, point.period.isNegative = true →
    ∀ other ∈ sheet.points, other.period.isNegative = true →
      Address.normalizeOption point.triggerAddress ≠
        Address.normalizeOption other.triggerAddress ++ "_P" ++ Period.nameText other.period

instance (sheet : Sheet) : Decidable (TriggersApart sheet) := by
  unfold TriggersApart
  infer_instance

theorem duty_of_negative {task : Task} (capture : CaptureOf options group task)
    (negative : group.period.isNegative = true) :
    task.duty = .handshake (Period.storageName group.sheet group.period)
      (handshakeOf options group) := by
  simp [capture.duty_eq, dutyOf, negative]

section

variable {task task' : Task}

/-- Of two captures with one name the earlier one is not renamed. -/
theorem kept_of_name_eq (named : NamedFor options group task)
    (made : GroupFrom sheet point group) (made' : GroupFrom sheet' point' group')
    (apart : group.sheet = group'.sheet → group.module = group'.module →
      group.period = group'.period → group.triggerAddress ≠ group'.triggerAddress)
    (told : task'.name = renamed (groupName options group') group')
    (equal : task.name = task'.name) : task.name = groupName options group := by
  rcases named.name with kept | toldToo
  · exact kept
  · obtain ⟨sheets, modules, periods, triggers⟩ :=
      same_of_renamed_eq made made' (toldToo.symm.trans (equal.trans told))
    exact absurd triggers (apart sheets modules periods)

/-- A renamed capture shares its name with a handshake that shadows it. -/
theorem shadows_of_trigger (capture : CaptureOf options group task)
    (capture' : CaptureOf options group' task') (negative : group.period.isNegative = true)
    (negative' : group'.period.isNegative = true) (kept : task.name = groupName options group)
    (told : task'.name = renamed (groupName options group') group')
    (units : instanceSpelling group.sheet group.module =
      instanceSpelling group'.sheet group'.module)
    (triggers : addressOrZero group.triggerAddress =
      addressOrZero group'.triggerAddress ++ "_P" ++ Period.nameText group'.period) :
    Shadows task task' := by
  obtain ⟨sheets, modules⟩ := Naming.instanceSpelling_inj.mp units
  have duty := duty_of_negative capture negative
  have duty' := duty_of_negative capture' negative'
  rw [groupName_of_negative negative, ← capture.sheet_eq, ← capture.module_eq] at kept
  rw [renamed, groupName_of_negative negative', ← capture'.sheet_eq, ← capture'.module_eq] at told
  rw [Period.storageName, ← capture'.sheet_eq] at duty'
  refine ⟨?_, ?_, _, handshakeOf options group, handshakeOf options group',
    Period.nameText group'.period, duty, duty', triggers, kept, told⟩
  · rw [capture.sheet_eq, capture'.sheet_eq, sheets]
  · rw [capture.module_eq, capture'.module_eq, modules]

/-- Two captures with one name: the earlier one shadows the later one, and the points behind them
are not apart. -/
theorem clash_of_name_eq (named : NamedFor options group task)
    (named' : NamedFor options group' task') (made : GroupFrom sheet point group)
    (made' : GroupFrom sheet' point' group')
    (apart : group.sheet = group'.sheet → group.module = group'.module →
      group.period = group'.period → group.triggerAddress ≠ group'.triggerAddress)
    (told : task'.name = renamed (groupName options group') group')
    (equal : task.name = task'.name) :
    Shadows task task' ∧ sheet.name = sheet'.name ∧ point.period.isNegative = true ∧
      point'.period.isNegative = true ∧
      Address.normalizeOption point.triggerAddress =
        Address.normalizeOption point'.triggerAddress ++ "_P" ++
          Period.nameText point'.period := by
  have kept := kept_of_name_eq named made made' apart told equal
  obtain ⟨units, negative, negative', triggers⟩ :=
    trigger_of_groupName_eq_renamed made made' (kept.symm.trans (equal.trans told))
  refine ⟨shadows_of_trigger named.capture named'.capture negative negative' kept told units
    triggers, ?_, ?_, ?_, ?_⟩
  · rw [← made.sheet_eq, ← made'.sheet_eq, (Naming.instanceSpelling_inj.mp units).1]
  · rw [← made.period_eq, negative]
  · rw [← made'.period_eq, negative']
  · rw [← trigger_of_negative made negative, ← trigger_of_negative made' negative', triggers,
      made'.period_eq]

end

/-! ## Tasks of a configuration -/

section

variable {tables : Tables} {maxModules : Int} {config : Config} {units : List SheetUnit}
variable {captures : List Task}

theorem monitorNames_nodup (options : Options)
    (accepted : Validation.Accepted tables maxModules config)
    (built : SheetUnit.ofConfig config = .ok units) :
    ((allMonitors options units).map Task.name).Nodup := by
  have names : (allMonitors options units).map Task.name =
      (units.flatMap fun unit => unit.tags.map Tag.name).map fun name => "Monitor_" ++ name := by
    simp only [allMonitors, monitors, List.map_flatMap, List.map_map, Function.comp_def, monitor]
  rw [names]
  apply (SheetUnit.allTagNames_nodup accepted built).map
  intro name other equal
  exact (String.append_right_inj _).mp equal

theorem marked_of_mem_allMonitors (built : SheetUnit.ofConfig config = .ok units) {task : Task}
    (member : task ∈ allMonitors options units) :
    ∃ before behind, Naming.Marked task.name before 'M' behind := by
  obtain ⟨unit, unitMember, tag, tagMember, rfl⟩ := mem_allMonitors member
  obtain ⟨module, sheet, _, instantiated⟩ := SheetUnit.exists_instanceOf built unitMember
  obtain ⟨point, _, tagged⟩ := Outcome.exists_of_mem_right instantiated.tags_forall₂ tagMember
  have name : (monitor options.monitorInterval unit tag).name =
      ("Monitor_" ++ point.propertyName) ++ "_M" ++ toString module := by
    rw [monitor, tagged.name_eq, instanceSpelling]
    simp only [String.append_assoc]
  rw [name]
  exact ⟨_, _, Naming.marked_module _ _⟩

theorem monitor_name_ne (accepted : Validation.Accepted tables maxModules config)
    (built : SheetUnit.ofConfig config = .ok units)
    (made : ofGroups options ((allMonitors options units).map Task.name) (allGroups units) =
      .ok captures) {live capture : Task} (liveMember : live ∈ allMonitors options units)
    (member : capture ∈ captures) : live.name ≠ capture.name := by
  intro equal
  have related := named_of_ofGroups made
  have paired : capture ∈ ((allGroups units).zip captures).map Prod.snd := by
    rw [List.map_snd_zip related.length_eq.ge]
    exact member
  obtain ⟨⟨group, _⟩, pairMember, rfl⟩ := List.mem_map.mp paired
  have told := renamed_of_mem_taken made _ pairMember
    (equal ▸ List.mem_map_of_mem liveMember)
  obtain ⟨_, _, _, _, source⟩ :=
    SheetUnit.exists_groupFrom accepted built (List.of_mem_zip pairMember).1
  obtain ⟨before, behind, marked⟩ := marked_of_mem_allMonitors built liveMember
  rw [equal, told] at marked
  exact absurd (marked.unique (Naming.marked_renamed _ source.finite)).2.1 (by decide)

/-- Captures share a name only where one shadows the other, and then the triggers of some sheet are
not apart. -/
theorem captures_pairwise {taken : List String}
    (accepted : Validation.Accepted tables maxModules config)
    (built : SheetUnit.ofConfig config = .ok units)
    (distinct : (config.sheets.map Sheet.name).Nodup)
    (made : ofGroups options taken (allGroups units) = .ok captures) :
    captures.Pairwise fun earlier later => earlier.name = later.name →
      Shadows earlier later ∧ ∃ sheet ∈ config.sheets, ¬TriggersApart sheet := by
  have related := named_of_ofGroups made
  have apart := SheetUnit.allGroups_pairwise accepted built distinct
  rw [← List.map_fst_zip related.length_eq.le, List.pairwise_map] at apart
  rw [← List.map_snd_zip related.length_eq.ge, List.pairwise_map]
  refine (apart.and (renamed_of_name_eq made)).imp_of_mem ?_
  rintro ⟨group, task⟩ ⟨group', task'⟩ member member' ⟨different, told⟩ equal
  obtain ⟨sheet, sheetMember, point, pointMember, source⟩ :=
    SheetUnit.exists_groupFrom accepted built (List.of_mem_zip member).1
  obtain ⟨sheet', sheetMember', point', pointMember', source'⟩ :=
    SheetUnit.exists_groupFrom accepted built (List.of_mem_zip member').1
  have named : NamedFor options group task := (List.forall₂_iff_zip.mp related).2 member
  have named' : NamedFor options group' task' := (List.forall₂_iff_zip.mp related).2 member'
  obtain ⟨shadows, names, negative, negative', triggers⟩ :=
    clash_of_name_eq named named' source source' different (told equal) equal
  obtain rfl := List.inj_on_of_nodup_map distinct sheetMember sheetMember' names
  exact ⟨shadows, sheet, sheetMember, fun triggersApart =>
    triggersApart point pointMember negative point' pointMember' negative' triggers⟩

theorem tasks_pairwise (accepted : Validation.Accepted tables maxModules config)
    (built : SheetUnit.ofConfig config = .ok units)
    (distinct : (config.sheets.map Sheet.name).Nodup) {tasks : List Task}
    (classified : ofUnits options units = .ok tasks) :
    tasks.Pairwise fun earlier later => earlier.name = later.name →
      Shadows earlier later ∧ ∃ sheet ∈ config.sheets, ¬TriggersApart sheet := by
  obtain ⟨captures, made, rfl⟩ := ofUnits_eq_ok.mp classified
  rw [List.pairwise_append]
  refine ⟨?_, captures_pairwise accepted built distinct made, ?_⟩
  · have live := monitorNames_nodup options accepted built
    rw [List.Nodup, List.pairwise_map] at live
    exact live.imp fun different equal => absurd equal different
  · intro live liveMember capture member equal
    exact absurd equal (monitor_name_ne accepted built made liveMember member)

/-- The tasks of a validated configuration with distinct sheet names have distinct names if and
only if no handshake shadows a later one. That never happens where the triggers of every sheet are
apart. -/
theorem ofUnits_names_nodup_iff {tables : Tables} {maxModules : Int} {config : Config}
    (validated : Validation.validate tables maxModules = .ok config)
    (distinct : (config.sheets.map Sheet.name).Nodup) (options : Options) :
    ∃ units, SheetUnit.ofConfig config = .ok units ∧
      ∀ tasks, ofUnits options units = .ok tasks →
        ((tasks.map Task.name).Nodup ↔
          tasks.Pairwise fun earlier later => ¬Shadows earlier later) ∧
        ((∀ sheet ∈ config.sheets, TriggersApart sheet) → (tasks.map Task.name).Nodup) := by
  have accepted := Validation.validate_eq_ok validated
  obtain ⟨units, built⟩ := SheetUnit.ofConfig_ok_of_accepted accepted
  refine ⟨units, built, fun tasks classified => ?_⟩
  have clashes := tasks_pairwise accepted built distinct classified
  rw [List.Nodup, List.pairwise_map]
  refine ⟨⟨?_, ?_⟩, ?_⟩
  · intro nodup
    exact nodup.imp fun different shadows => different shadows.name_eq
  · intro unshadowed
    exact (clashes.and unshadowed).imp fun both equal => both.2 (both.1 equal).1
  · intro triggersApart
    refine clashes.imp fun clash equal => ?_
    obtain ⟨_, sheet, sheetMember, together⟩ := clash equal
    exact together (triggersApart sheet sheetMember)

end

theorem handshakeTables_names :
    ∃ config units tasks, Validation.validate handshakeTables 2 = .ok config ∧
      (config.sheets.map Sheet.name).Nodup ∧ SheetUnit.ofConfig config = .ok units ∧
      ofUnits Options.sample units = .ok tasks ∧
      (∀ sheet ∈ config.sheets, TriggersApart sheet) ∧ (tasks.map Task.name).Nodup := by
  obtain ⟨program, built⟩ := build_handshakeTables
  have stages := Program.build_eq_ok.mp built
  have validated : Validation.validate handshakeTables 2 = .ok program.config := stages.validated
  have decided : ∀ config ∈ (Validation.validate handshakeTables 2).toOption,
      (config.sheets.map Sheet.name).Nodup ∧ ∀ sheet ∈ config.sheets, TriggersApart sheet := by
    decide +kernel
  obtain ⟨distinct, triggersApart⟩ := decided program.config (by rw [validated]; rfl)
  obtain ⟨units, unitsBuilt, named⟩ := ofUnits_names_nodup_iff validated distinct Options.sample
  obtain rfl : program.units = units := Except.ok.inj (stages.units.symm.trans unitsBuilt)
  exact ⟨program.config, program.units, program.tasks, validated, distinct, unitsBuilt,
    stages.tasks, triggersApart, (named program.tasks stages.tasks).2 triggersApart⟩

/-- A workbook with three handshakes: the trigger of the first ends in the period of the third, and
the other two have none. -/
def shadowTables : Tables where
  devices := some [[("Device", .text "Line_M1"), ("IP", .text "10.0.0.1")]]
  sheets := [("Line", [
    [("PropertyName", .text "Fill"), ("Type", .text "short"), ("ValueAddress", .text "D1"),
      ("TriggerAddress", .text "D0_P2_5"), ("Period", .int (-3))],
    [("PropertyName", .text "Level"), ("Type", .text "short"), ("ValueAddress", .text "D2"),
      ("Period", .int (-1))],
    [("PropertyName", .text "Count"), ("Type", .text "short"), ("ValueAddress", .text "D3"),
      ("Period", .text "-2.5")]])]

/-- The third handshake is renamed to the name of the first. -/
theorem shadowTables_names :
    ∃ config units tasks,
      Validation.validate shadowTables Options.standard.maxModules = .ok config ∧
      (config.sheets.map Sheet.name).Nodup ∧ SheetUnit.ofConfig config = .ok units ∧
      ofUnits Options.standard units = .ok tasks ∧ ¬(tasks.map Task.name).Nodup := by
  have names : (Program.build shadowTables Options.standard).toOption.map
      (fun program => (program.config.sheets.map Sheet.name, program.tasks.map Task.name)) =
        some (["Line"], ["Monitor_Fill_M1", "Monitor_Level_M1", "Monitor_Count_M1",
          "Line_M1_Handshake_T0_P2_5", "Line_M1_Handshake_T0", "Line_M1_Handshake_T0_P2_5"]) := by
    decide +kernel
  obtain ⟨program, built, listed⟩ := Option.map_eq_some_iff.mp names
  obtain ⟨sheetNames, taskNames⟩ := Prod.mk.inj listed
  have stages := Program.build_eq_ok.mp (Outcome.eq_ok_of_toOption built)
  refine ⟨program.config, program.units, program.tasks, stages.validated, ?_, stages.units,
    stages.tasks, ?_⟩
  · rw [sheetNames]
    decide
  · rw [taskNames]
    decide

end Task

end PointTable
