import Mathlib.Data.List.Perm.Basic
import PointTable.Proofs.Number.Double
import PointTable.Proofs.Ordered
import PointTable.Proofs.Units

/-!
# Periods of groups

The groups of a sheet have the periods of its points and no others, period zero apart. Periods are
compared as values, and away from zero equal values are equal doubles, so nothing is lost when
points of one period share a group.
-/

namespace PointTable.SheetUnit

/-- A period for which points are captured: it is not zero. -/
def Captured (sheet : Sheet) (period : Double) : Prop :=
  ∃ point ∈ sheet.points, point.period = period ∧ period.isZero = false

theorem byPeriod_groups {points : List Point}
    (numbers : ∀ point ∈ points, point.period.isFinite = true) (tags : List Tag) :
    Ordered.Groups Double.sameValue (fun item : Point × Tag => item.1.period)
      ((points.zip tags).filter fun item => !item.1.period.isZero)
      (byPeriod Prod.fst (points.zip tags)) := by
  apply Ordered.groupBy_groups
  intro item member
  have itemMember := List.mem_of_mem_filter member
  exact Double.sameValue_refl (numbers item.1 (List.of_mem_zip itemMember).1)

theorem byTrigger_groups (items : List (Point × Tag)) :
    Ordered.Groups (fun left right => left = right)
      (fun item : Point × Tag => Address.normalizeOption item.1.triggerAddress) items
      (byTrigger Prod.fst items) := by
  apply Ordered.groupBy_groups
  intro item _
  exact decide_eq_true rfl

theorem byPeriod_firstSeen {points : List Point}
    (numbers : ∀ point ∈ points, point.period.isFinite = true) (tags : List Tag) :
    Ordered.FirstSeen Double.sameValue (fun item : Point × Tag => item.1.period)
      ((points.zip tags).filter fun item => !item.1.period.isZero)
      (byPeriod Prod.fst (points.zip tags)) := by
  apply Ordered.groupBy_firstSeen
  · intro left right
    exact Double.sameValue_symm
  · intro left middle right
    exact Double.sameValue_trans
  · intro item member
    have itemMember := List.mem_of_mem_filter member
    exact Double.sameValue_refl (numbers item.1 (List.of_mem_zip itemMember).1)

theorem byTrigger_firstSeen (items : List (Point × Tag)) :
    Ordered.FirstSeen (fun left right => left = right)
      (fun item : Point × Tag => Address.normalizeOption item.1.triggerAddress) items
      (byTrigger Prod.fst items) := by
  apply Ordered.groupBy_firstSeen
  · simp
  · simp
  · simp

@[simp] theorem byPeriod_map {α β : Type} (point : β → Point) (image : α → β) (items : List α) :
    byPeriod point (items.map image) =
      (byPeriod (fun item => point (image item)) items).map fun group =>
        (group.1, group.2.map image) := by
  rw [byPeriod, byPeriod, List.filter_map, Ordered.groupBy_map]
  rfl

@[simp] theorem byTrigger_map {α β : Type} (point : β → Point) (image : α → β) (items : List α) :
    byTrigger point (items.map image) =
      (byTrigger (fun item => point (image item)) items).map fun group =>
        (group.1, group.2.map image) := by
  rw [byTrigger, byTrigger, Ordered.groupBy_map]

theorem period_of_mem_groupsOfPeriod {sheet : String} {module : Int} {period : Double}
    {members : List (Point × Tag)} {group : PeriodGroup}
    (member : group ∈ groupsOfPeriod sheet module period members) : group.period = period := by
  unfold groupsOfPeriod at member
  split at member
  · obtain rfl := List.mem_singleton.mp member
    rfl
  · obtain ⟨part, _, rfl⟩ := List.mem_map.mp member
    rfl

/-- The groups of one period together hold the tags of all its members, each as often as it
comes. -/
theorem groupsOfPeriod_flatMap_tags_perm (sheet : String) (module : Int) (period : Double)
    (members : List (Point × Tag)) :
    ((groupsOfPeriod sheet module period members).flatMap PeriodGroup.tags).Perm
      (members.map Prod.snd) := by
  unfold groupsOfPeriod
  split
  · rw [List.flatMap_singleton]
  · rw [List.flatMap_map]
    have parts := Ordered.groupBy_flatMap_perm (fun left right : String => left = right)
      (fun item : Point × Tag => Address.normalizeOption item.1.triggerAddress) members
    have mapped := parts.map Prod.snd
    rw [List.map_flatMap] at mapped
    exact mapped

/-- A period with members has a group, whether or not it is split by triggers. -/
theorem exists_mem_groupsOfPeriod (sheet : String) (module : Int) (period : Double)
    {members : List (Point × Tag)} {item : Point × Tag} (member : item ∈ members) :
    ∃ group, group ∈ groupsOfPeriod sheet module period members := by
  unfold groupsOfPeriod
  split
  · exact ⟨_, List.mem_singleton_self _⟩
  · obtain ⟨part, partMember, _⟩ := (byTrigger_groups members).covers item member
    exact ⟨_, List.mem_map.mpr ⟨part, partMember, rfl⟩⟩

/-- The trigger that a point is grouped by; above zero points are not told apart by it. -/
def groupTrigger? (point : Point) : Option String :=
  if point.period.isPositive then none
  else some (Address.normalizeOption point.triggerAddress)

/-- What a group of a sheet's tags in a module is: it holds tags, and each of them stands beside a
point of the group's period and trigger. -/
structure GroupOf (sheet : Sheet) (module : Int) (tags : List Tag) (group : PeriodGroup) :
    Prop where
  sheet_eq : group.sheet = sheet.name
  module_eq : group.module = module
  filled : ∃ tag, tag ∈ group.tags
  members : ∀ tag ∈ group.tags, ∃ point, (point, tag) ∈ sheet.points.zip tags ∧
    point.period = group.period ∧ point.period.isZero = false ∧
    group.triggerAddress = groupTrigger? point

section

variable {sheet : Sheet} {module : Int} {tags : List Tag}

theorem groupOf_of_mem (numbers : ∀ point ∈ sheet.points, point.period.isFinite = true)
    {group : PeriodGroup} (member : group ∈ groupsOf sheet module tags) :
    GroupOf sheet module tags group := by
  obtain ⟨⟨period, items⟩, partMember, groupMember⟩ := List.mem_flatMap.mp member
  have grouped := byPeriod_groups numbers tags
  have periods : ∀ item ∈ items, item ∈ sheet.points.zip tags ∧ item.1.period = period ∧
      item.1.period.isZero = false := by
    intro item inside
    obtain ⟨known, same⟩ := grouped.members _ partMember item inside
    obtain ⟨itemMember, nonzero⟩ := List.mem_filter.mp known
    have nonzero : item.1.period.isZero = false := by simpa using nonzero
    exact ⟨itemMember, Double.eq_of_sameValue nonzero (Double.sameValue_symm same), nonzero⟩
  simp only [groupsOfPeriod] at groupMember
  split at groupMember
  · next positive =>
      obtain rfl := List.mem_singleton.mp groupMember
      refine ⟨rfl, rfl, ?_, ?_⟩
      · obtain ⟨item, inside, _⟩ := grouped.opened _ partMember
        exact ⟨item.2, List.mem_map_of_mem inside⟩
      · intro tag tagMember
        obtain ⟨⟨point, _⟩, inside, rfl⟩ := List.mem_map.mp tagMember
        obtain ⟨itemMember, same, nonzero⟩ := periods _ inside
        have same : point.period = period := same
        exact ⟨point, itemMember, same, nonzero, by simp [groupTrigger?, same, positive]⟩
  · next notPositive =>
      obtain ⟨⟨trigger, part⟩, triggerMember, rfl⟩ := List.mem_map.mp groupMember
      have triggered := byTrigger_groups items
      refine ⟨rfl, rfl, ?_, ?_⟩
      · obtain ⟨item, inside, _⟩ := triggered.opened _ triggerMember
        exact ⟨item.2, List.mem_map_of_mem inside⟩
      · intro tag tagMember
        obtain ⟨⟨point, _⟩, inside, rfl⟩ := List.mem_map.mp tagMember
        obtain ⟨known, sameTrigger⟩ := triggered.members _ triggerMember _ inside
        obtain ⟨itemMember, same, nonzero⟩ := periods _ known
        have same : point.period = period := same
        refine ⟨point, itemMember, same, nonzero, ?_⟩
        simpa [groupTrigger?, same, notPositive] using sameTrigger

theorem GroupOf.captured {group : PeriodGroup} (grouped : GroupOf sheet module tags group) :
    Captured sheet group.period := by
  obtain ⟨tag, inside⟩ := grouped.filled
  obtain ⟨point, itemMember, same, nonzero, _⟩ := grouped.members tag inside
  exact ⟨point, (List.of_mem_zip itemMember).1, same, same ▸ nonzero⟩

variable (sheet module tags) in
/-- The groups of a sheet together hold the tags of all points but those of period zero, each as
often as it comes. -/
theorem groupsOf_flatMap_tags_perm :
    ((groupsOf sheet module tags).flatMap PeriodGroup.tags).Perm
      (((sheet.points.zip tags).filter fun item => !item.1.period.isZero).map Prod.snd) := by
  have perPeriod : ((groupsOf sheet module tags).flatMap PeriodGroup.tags).Perm
      (((byPeriod Prod.fst (sheet.points.zip tags)).flatMap Prod.snd).map Prod.snd) := by
    rw [groupsOf, List.flatMap_assoc, List.map_flatMap]
    apply List.Perm.flatMap_left
    rintro ⟨period, members⟩ _
    exact groupsOfPeriod_flatMap_tags_perm sheet.name module period members
  exact perPeriod.trans ((Ordered.groupBy_flatMap_perm _ _ _).map Prod.snd)

/-- Groups of one period are told apart by their triggers. -/
theorem groupsOfPeriod_pairwise (name : String) (module : Int) (period : Double)
    (members : List (Point × Tag)) :
    (groupsOfPeriod name module period members).Pairwise fun group other =>
      group.triggerAddress ≠ other.triggerAddress := by
  unfold groupsOfPeriod
  split
  · exact List.pairwise_singleton _ _
  · rw [List.pairwise_map]
    refine (Ordered.groupBy_keys_pairwise _ _ members).imp fun {group other} different => ?_
    simpa using different

/-- No two groups of a sheet have both the same period and the same trigger. -/
theorem groupsOf_pairwise (numbers : ∀ point ∈ sheet.points, point.period.isFinite = true) :
    (groupsOf sheet module tags).Pairwise fun group other =>
      group.period = other.period → group.triggerAddress ≠ other.triggerAddress := by
  rw [groupsOf, List.pairwise_flatMap]
  constructor
  · rintro ⟨period, members⟩ _
    apply (groupsOfPeriod_pairwise sheet.name module period members).imp
    intro group other different _
    exact different
  · have grouped := byPeriod_groups numbers tags
    refine (Ordered.groupBy_keys_pairwise _ _ _).imp_of_mem
      fun {part other} partMember _ different group groupMember other' otherMember' same => ?_
    rw [period_of_mem_groupsOfPeriod groupMember, period_of_mem_groupsOfPeriod otherMember'] at same
    obtain ⟨item, inside, itemPeriod⟩ := grouped.opened part partMember
    have itemMember := List.mem_of_mem_filter (grouped.members part partMember item inside).1
    have equal : part.1.sameValue part.1 = true := by
      rw [← itemPeriod]
      exact Double.sameValue_refl (numbers item.1 (List.of_mem_zip itemMember).1)
    rw [← same, equal] at different
    cases different

variable (module) in
theorem exists_group_of_captured (lengths : sheet.points.length = tags.length)
    (numbers : ∀ point ∈ sheet.points, point.period.isFinite = true) {period : Double}
    (captured : Captured sheet period) :
    ∃ group ∈ groupsOf sheet module tags, group.period = period := by
  obtain ⟨point, pointMember, rfl, nonzero⟩ := captured
  have grouped := byPeriod_groups numbers tags
  obtain ⟨tag, itemMember⟩ := Outcome.exists_mem_zip lengths pointMember
  obtain ⟨⟨period, members⟩, partMember, inside⟩ := grouped.covers (point, tag)
    (List.mem_filter.mpr ⟨itemMember, by simp [nonzero]⟩)
  have same : point.period = period := by
    apply Double.eq_of_sameValue nonzero
    exact Double.sameValue_symm (grouped.members _ partMember _ inside).2
  obtain ⟨group, groupMember⟩ := exists_mem_groupsOfPeriod sheet.name module period inside
  refine ⟨group, List.mem_flatMap.mpr ⟨_, partMember, groupMember⟩, ?_⟩
  rw [period_of_mem_groupsOfPeriod groupMember, same]

end

/-! ## Groups of units -/

section

variable {tables : Tables} {maxModules : Int} {config : Config} {units : List SheetUnit}

theorem groupOf_of_mem_groups (accepted : Validation.Accepted tables maxModules config)
    (built : ofConfig config = .ok units) {unit : SheetUnit} (unitMember : unit ∈ units)
    {group : PeriodGroup} (groupMember : group ∈ unit.groups) :
    ∃ module sheet, sheet ∈ config.sheets ∧ InstanceOf config module sheet unit ∧
      GroupOf sheet module unit.tags group := by
  obtain ⟨module, sheet, pairMember, instantiated⟩ := exists_instanceOf built unitMember
  have sheetMember := (mem_pairsFrom.mp pairMember).2
  rw [instantiated.groups] at groupMember
  refine ⟨module, sheet, sheetMember, instantiated, groupOf_of_mem ?_ groupMember⟩
  intro point pointMember
  exact (accepted.usable sheetMember pointMember).period_finite

theorem unit_of_mem_groups (accepted : Validation.Accepted tables maxModules config)
    (built : ofConfig config = .ok units) {unit : SheetUnit} (unitMember : unit ∈ units)
    {group : PeriodGroup} (groupMember : group ∈ unit.groups) :
    group.sheet = unit.sheet ∧ group.module = unit.module := by
  obtain ⟨module, sheet, _, instantiated, grouped⟩ :=
    groupOf_of_mem_groups accepted built unitMember groupMember
  rw [grouped.sheet_eq, grouped.module_eq, instantiated.sheet_eq, instantiated.module_eq]
  exact ⟨rfl, rfl⟩

end

end PointTable.SheetUnit
