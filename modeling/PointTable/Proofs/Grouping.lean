import PointTable.Proofs.Groups
import PointTable.Proofs.Number.Value
import PointTable.Proofs.PeriodText

/-!
# How a sheet is grouped

A group gathers the points of its period and, below zero, of its trigger. Grouping goes twice over
the points, first by period and then by trigger, and both times keeps what comes first in front. So
a group holds the tags of just the points that it gathers, in the order of the sheet, every point
other than of period zero is gathered once, and the groups stand in the order in which their
periods, and within a period their triggers, are first seen. Their keys tell them apart, and a
warning is due to just those handshakes whose points do not agree where to return.
-/

namespace PointTable

open Text

/-- A group is for a point: the point has the period of the group and, below zero, its trigger. -/
def PeriodGroup.Gathers (group : PeriodGroup) (point : Point) : Prop :=
  point.period.toRat = group.period.toRat ∧
    (group.period.toRat < 0 →
      group.triggerAddress = some (Address.normalizeOption point.triggerAddress))

instance (group : PeriodGroup) (point : Point) : Decidable (group.Gathers point) :=
  inferInstanceAs (Decidable (_ ∧ _))

namespace SheetUnit

/-! ## Parts of a sheet

Grouping makes a part for every period and, below zero, one for every trigger in it. -/

/-- The group of all points of a period. -/
def periodicGroup (sheet : Sheet) (module : Int) (part : Double × List (Point × Tag)) :
    PeriodGroup :=
  ⟨sheet.name, module, part.1, part.2.map Prod.snd, none, none⟩

/-- The group of the points of a period that wait for one trigger. -/
def handshakeGroup (sheet : Sheet) (module : Int) (period : Double)
    (part : String × List (Point × Tag)) : PeriodGroup :=
  ⟨sheet.name, module, period, part.2.map Prod.snd, some part.1,
    some (returnAddressOf Prod.fst part.2)⟩

theorem groupsOf_eq (sheet : Sheet) (module : Int) (tags : List Tag) :
    groupsOf sheet module tags = (byPeriod Prod.fst (sheet.points.zip tags)).flatMap fun part =>
      groupsOfPeriod sheet.name module part.1 part.2 := rfl

theorem gathers_periodicGroup {sheet : Sheet} {module : Int} {part : Double × List (Point × Tag)}
    (positive : 0 < part.1.toRat) (point : Point) :
    (periodicGroup sheet module part).Gathers point ↔ point.period.toRat = part.1.toRat :=
  and_iff_left fun negative => absurd positive negative.not_gt

theorem gathers_handshakeGroup {sheet : Sheet} {module : Int} {period : Double}
    {part : String × List (Point × Tag)} (negative : period.toRat < 0) (point : Point) :
    (handshakeGroup sheet module period part).Gathers point ↔
      point.period.toRat = period.toRat ∧
        part.1 = Address.normalizeOption point.triggerAddress :=
  and_congr_right fun _ =>
    ⟨fun same => Option.some.inj (same negative), fun same _ => congrArg some same⟩

/-- Points of a period other than zero are found by its value alone. -/
theorem captured_sameValue {period : Double} (number : period.isFinite = true)
    (nonzero : period.toRat ≠ 0) (other : Double) :
    (!other.isZero && period.sameValue other) = decide (other.toRat = period.toRat) := by
  rw [Bool.eq_iff_iff, Bool.and_eq_true, Double.sameValue_iff_of_nonzero number nonzero,
    decide_eq_true_eq, eq_comm (a := period.toRat)]
  refine and_iff_right_of_imp fun equal => ?_
  rw [Double.isZero_of_toRat_ne_zero (equal ▸ nonzero)]
  rfl

section

variable {sheet : Sheet} {module : Int} {tags : List Tag}

/-- What a part of one period is. -/
structure PeriodPart (sheet : Sheet) (tags : List Tag) (part : Double × List (Point × Tag)) :
    Prop where
  number : part.1.isFinite = true
  nonzero : part.1.toRat ≠ 0
  filled : ∃ item, item ∈ part.2
  members : part.2 = (sheet.points.zip tags).filter fun item =>
    item.1.period.toRat = part.1.toRat

theorem periodPart_of_mem (numbers : ∀ point ∈ sheet.points, point.period.isFinite = true)
    {part : Double × List (Point × Tag)}
    (member : part ∈ byPeriod Prod.fst (sheet.points.zip tags)) : PeriodPart sheet tags part := by
  have grouped := byPeriod_groups numbers tags
  obtain ⟨item, inside, keyed⟩ := grouped.opened part member
  obtain ⟨known, captured⟩ := List.mem_filter.mp (grouped.members part member item inside).1
  have number : part.1.isFinite = true := keyed ▸ numbers item.1 (List.of_mem_zip known).1
  have nonzero : part.1.toRat ≠ 0 := by
    rw [← keyed] at number ⊢
    rw [Ne, ← Double.isZero_iff number]
    simpa using captured
  refine ⟨number, nonzero, ⟨item, inside⟩, ?_⟩
  rw [(byPeriod_firstSeen numbers tags).members part member, List.filter_filter]
  simp only [Bool.and_comm (Double.sameValue _ _), captured_sameValue number nonzero]

theorem PeriodPart.sign {part : Double × List (Point × Tag)}
    (isPart : PeriodPart sheet tags part) : 0 < part.1.toRat ∨ part.1.toRat < 0 :=
  isPart.nonzero.lt_or_gt.symm

variable (module) in
theorem PeriodPart.groups_of_positive {part : Double × List (Point × Tag)}
    (isPart : PeriodPart sheet tags part) (positive : 0 < part.1.toRat) :
    groupsOfPeriod sheet.name module part.1 part.2 = [periodicGroup sheet module part] :=
  if_pos ((Double.isPositive_iff isPart.number).mpr positive)

variable (module) in
theorem PeriodPart.groups_of_negative {part : Double × List (Point × Tag)}
    (isPart : PeriodPart sheet tags part) (negative : part.1.toRat < 0) :
    groupsOfPeriod sheet.name module part.1 part.2 =
      (byTrigger Prod.fst part.2).map (handshakeGroup sheet module part.1) :=
  if_neg fun positive => negative.not_gt ((Double.isPositive_iff isPart.number).mp positive)

variable (module) in
theorem PeriodPart.filter_periodicGroup {part : Double × List (Point × Tag)}
    (isPart : PeriodPart sheet tags part) (positive : 0 < part.1.toRat) :
    ((sheet.points.zip tags).filter fun item => (periodicGroup sheet module part).Gathers item.1) =
      part.2 := by
  simp only [gathers_periodicGroup positive]
  exact isPart.members.symm

variable (module) in
theorem PeriodPart.filter_handshakeGroup {part : Double × List (Point × Tag)}
    (isPart : PeriodPart sheet tags part) (negative : part.1.toRat < 0)
    {waiting : String × List (Point × Tag)} (member : waiting ∈ byTrigger Prod.fst part.2) :
    ((sheet.points.zip tags).filter fun item =>
        (handshakeGroup sheet module part.1 waiting).Gathers item.1) = waiting.2 := by
  rw [(byTrigger_firstSeen part.2).members waiting member, isPart.members, List.filter_filter]
  simp only [gathers_handshakeGroup negative, Bool.decide_and, Bool.and_comm]

/-- Where a group comes from: a whole part, or what waits for one trigger in it. -/
theorem exists_part_of_mem (numbers : ∀ point ∈ sheet.points, point.period.isFinite = true)
    {group : PeriodGroup} (member : group ∈ groupsOf sheet module tags) :
    ∃ part, PeriodPart sheet tags part ∧
      ((0 < part.1.toRat ∧ group = periodicGroup sheet module part) ∨
        (part.1.toRat < 0 ∧ ∃ waiting ∈ byTrigger Prod.fst part.2,
          group = handshakeGroup sheet module part.1 waiting)) := by
  rw [groupsOf_eq, List.mem_flatMap] at member
  obtain ⟨part, partMember, groupMember⟩ := member
  have isPart := periodPart_of_mem numbers partMember
  refine ⟨part, isPart, isPart.sign.imp (fun positive => ⟨positive, ?_⟩)
    fun negative => ⟨negative, ?_⟩⟩
  · rw [isPart.groups_of_positive module positive] at groupMember
    exact List.mem_singleton.mp groupMember
  · rw [isPart.groups_of_negative module negative] at groupMember
    obtain ⟨waiting, waitingMember, rfl⟩ := List.mem_map.mp groupMember
    exact ⟨waiting, waitingMember, rfl⟩

/-! ## Single groups -/

/-- What a group of a sheet's tags in a module holds. -/
structure Collects (sheet : Sheet) (module : Int) (tags : List Tag) (group : PeriodGroup) :
    Prop where
  sheet_eq : group.sheet = sheet.name
  module_eq : group.module = module
  number : group.period.isFinite = true
  nonzero : group.period.toRat ≠ 0
  /-- Some point is gathered, so below zero the trigger is that of a point. -/
  filled : ∃ point ∈ sheet.points, group.Gathers point
  /-- The tags are those of the points that are gathered, in the order of the sheet. -/
  tags_eq : group.tags =
    ((sheet.points.zip tags).filter fun item => group.Gathers item.1).map Prod.snd
  periodic : 0 < group.period.toRat → group.triggerAddress = none ∧ group.returnAddress = none
  /-- Below zero the first point that is gathered says where to return. -/
  handshake : group.period.toRat < 0 →
    group.returnAddress = (sheet.points.find? fun point => group.Gathers point).map fun first =>
      Address.normalizeOption first.returnAddress

theorem exists_gathers {group : PeriodGroup} {items : List (Point × Tag)}
    (gathered : ((sheet.points.zip tags).filter fun item => group.Gathers item.1) = items)
    {item : Point × Tag} (inside : item ∈ items) : ∃ point ∈ sheet.points, group.Gathers point := by
  rw [← gathered, List.mem_filter, decide_eq_true_eq] at inside
  exact ⟨item.1, (List.of_mem_zip inside.1).1, inside.2⟩

theorem filter_points (lengths : sheet.points.length = tags.length) (kind : Point → Bool) :
    sheet.points.filter kind =
      ((sheet.points.zip tags).filter fun item => kind item.1).map Prod.fst := by
  nth_rewrite 1 [← List.map_fst_zip (Nat.le_of_eq lengths)]
  rw [List.filter_map]
  rfl

theorem findIdx_points (lengths : sheet.points.length = tags.length) (kind : Point → Bool) :
    sheet.points.findIdx kind = (sheet.points.zip tags).findIdx fun item => kind item.1 := by
  nth_rewrite 1 [← List.map_fst_zip (Nat.le_of_eq lengths)]
  rw [List.findIdx_map]
  rfl

theorem collects_of_mem (lengths : sheet.points.length = tags.length)
    (numbers : ∀ point ∈ sheet.points, point.period.isFinite = true) {group : PeriodGroup}
    (member : group ∈ groupsOf sheet module tags) : Collects sheet module tags group := by
  obtain ⟨part, isPart, ⟨positive, rfl⟩ | ⟨negative, waiting, waitingMember, rfl⟩⟩ :=
    exists_part_of_mem numbers member
  · have gathered := isPart.filter_periodicGroup module positive
    obtain ⟨item, inside⟩ := isPart.filled
    refine ⟨rfl, rfl, isPart.number, isPart.nonzero, exists_gathers gathered inside, ?_, ?_, ?_⟩
    · rw [gathered]
      rfl
    · intro _
      exact ⟨rfl, rfl⟩
    · intro negative
      exact absurd positive negative.not_gt
  · have gathered := isPart.filter_handshakeGroup module negative waitingMember
    obtain ⟨item, inside, _⟩ := (byTrigger_groups part.2).opened waiting waitingMember
    refine ⟨rfl, rfl, isPart.number, isPart.nonzero, exists_gathers gathered inside, ?_, ?_, ?_⟩
    · rw [gathered]
      rfl
    · intro positive
      exact absurd positive negative.not_gt
    · intro _
      rw [← List.head?_filter, filter_points lengths, gathered]
      obtain ⟨first, rest, split⟩ := List.exists_cons_of_ne_nil (List.ne_nil_of_mem inside)
      simp [handshakeGroup, returnAddressOf, split]

/-! ## Order -/

/-- A group comes before another: its period is first seen earlier or, for groups of one period,
a point of its trigger is. -/
def Precedes (sheet : Sheet) (group other : PeriodGroup) : Prop :=
  sheet.points.findIdx (fun point => point.period.toRat = group.period.toRat) <
      sheet.points.findIdx (fun point => point.period.toRat = other.period.toRat) ∨
    group.period = other.period ∧
      sheet.points.findIdx (fun point => group.Gathers point) <
        sheet.points.findIdx fun point => other.Gathers point

theorem PeriodPart.precedes (lengths : sheet.points.length = tags.length)
    {part : Double × List (Point × Tag)} (isPart : PeriodPart sheet tags part) :
    (groupsOfPeriod sheet.name module part.1 part.2).Pairwise (Precedes sheet) := by
  rcases isPart.sign with positive | negative
  · rw [isPart.groups_of_positive module positive]
    exact List.pairwise_singleton _ _
  · rw [isPart.groups_of_negative module negative, List.pairwise_map]
    refine (byTrigger_firstSeen part.2).ordered.imp fun {waiting other} earlier => .inr ⟨rfl, ?_⟩
    rw [isPart.members] at earlier
    simpa only [findIdx_points lengths, gathers_handshakeGroup negative, Bool.decide_and] using
      Ordered.findIdx_lt_of_filter earlier

theorem groupsOf_precedes (lengths : sheet.points.length = tags.length)
    (numbers : ∀ point ∈ sheet.points, point.period.isFinite = true) :
    (groupsOf sheet module tags).Pairwise (Precedes sheet) := by
  rw [groupsOf_eq, List.pairwise_flatMap]
  constructor
  · intro part member
    exact (periodPart_of_mem numbers member).precedes lengths
  · refine (byPeriod_firstSeen numbers tags).ordered.imp_of_mem
      fun {part other} member otherMember earlier group groupMember group' groupMember' => .inl ?_
    have isPart := periodPart_of_mem numbers member
    have isOther := periodPart_of_mem numbers otherMember
    rw [period_of_mem_groupsOfPeriod groupMember, period_of_mem_groupsOfPeriod groupMember',
      findIdx_points lengths, findIdx_points lengths]
    simpa only [captured_sameValue isPart.number isPart.nonzero,
      captured_sameValue isOther.number isOther.nonzero] using
      Ordered.findIdx_lt_of_filter earlier

/-! ## Keys -/

/-- A key spells the value of a period and the trigger, if there is one. -/
theorem same_of_key_eq {group other : PeriodGroup} (number : group.period.isFinite = true)
    (number' : other.period.isFinite = true) (equal : group.key = other.key) :
    group.period.toRat = other.period.toRat ∧ group.triggerAddress = other.triggerAddress := by
  have unmarked := Period.not_mem_text number (show ¬Decimal.IsNumeral '@' by decide)
  have unmarked' := Period.not_mem_text number' (show ¬Decimal.IsNumeral '@' by decide)
  unfold PeriodGroup.key at equal
  cases trigger : group.triggerAddress with
  | none =>
      cases trigger' : other.triggerAddress with
      | none =>
          simp only [trigger, trigger'] at equal
          exact ⟨Period.toRat_eq_of_text_eq number number' equal, rfl⟩
      | some name' =>
          simp only [trigger, trigger'] at equal
          exact absurd (by rw [equal]; simp) unmarked
  | some name =>
      cases trigger' : other.triggerAddress with
      | none =>
          simp only [trigger, trigger'] at equal
          exact absurd (by rw [← equal]; simp) unmarked'
      | some name' =>
          simp only [trigger, trigger'] at equal
          have chars : (Period.text group.period).toList ++ '@' :: name.toList =
              (Period.text other.period).toList ++ '@' :: name'.toList := by
            simpa using congrArg String.toList equal
          obtain ⟨periods, names⟩ := Naming.append_cons_inj_of_first unmarked unmarked' chars
          rw [String.toList_inj] at periods names
          exact ⟨Period.toRat_eq_of_text_eq number number' periods, congrArg some names⟩

theorem Collects.period_eq {group other : PeriodGroup}
    (collects : Collects sheet module tags group) (collects' : Collects sheet module tags other)
    (equal : group.period.toRat = other.period.toRat) : group.period = other.period := by
  have captured := Double.isZero_of_toRat_ne_zero collects.nonzero
  exact Double.eq_of_toRat_eq collects.number collects'.number captured equal

theorem groupsOf_keys_nodup (lengths : sheet.points.length = tags.length)
    (numbers : ∀ point ∈ sheet.points, point.period.isFinite = true) :
    ((groupsOf sheet module tags).map PeriodGroup.key).Nodup := by
  rw [List.Nodup, List.pairwise_map]
  refine (groupsOf_pairwise numbers).imp_of_mem fun {group other} member otherMember apart => ?_
  have collects := collects_of_mem lengths numbers member
  have collects' := collects_of_mem lengths numbers otherMember
  intro equal
  obtain ⟨periods, triggers⟩ := same_of_key_eq collects.number collects'.number equal
  exact apart (collects.period_eq collects' periods) triggers

/-! ## Shares -/

theorem Collects.key_eq {group other : PeriodGroup} (collects : Collects sheet module tags group)
    (collects' : Collects sheet module tags other) {point : Point}
    (gathers : group.Gathers point) (gathers' : other.Gathers point) : group.key = other.key := by
  have periods := collects.period_eq collects' (gathers.1.symm.trans gathers'.1)
  have triggers : group.triggerAddress = other.triggerAddress := by
    rcases collects.nonzero.lt_or_gt with negative | positive
    · rw [gathers.2 negative, gathers'.2 (periods ▸ negative)]
    · rw [(collects.periodic positive).1, (collects'.periodic (periods ▸ positive)).1]
  rw [PeriodGroup.key, PeriodGroup.key, periods, triggers]

theorem Collects.gathers_iff {group other : PeriodGroup}
    (collects : Collects sheet module tags group) (collects' : Collects sheet module tags other)
    {point : Point} (gathers : group.Gathers point) :
    other.Gathers point ↔ other.key = group.key := by
  constructor
  · intro gathers'
    exact collects'.key_eq collects gathers' gathers
  · intro equal
    obtain ⟨periods, triggers⟩ := same_of_key_eq collects'.number collects.number equal
    rw [PeriodGroup.Gathers, periods, triggers]
    exact gathers

/-- A point other than of period zero has a group. -/
theorem exists_group_of_point (lengths : sheet.points.length = tags.length)
    (numbers : ∀ point ∈ sheet.points, point.period.isFinite = true) {point : Point}
    (member : point ∈ sheet.points) (nonzero : point.period.toRat ≠ 0) :
    ∃ group ∈ groupsOf sheet module tags, group.Gathers point := by
  obtain ⟨tag, itemMember⟩ := Outcome.exists_mem_zip lengths member
  have captured := Double.isZero_of_toRat_ne_zero nonzero
  obtain ⟨part, partMember, inside⟩ := (byPeriod_groups numbers tags).covers (point, tag)
    (List.mem_filter.mpr ⟨itemMember, by simp [captured]⟩)
  have isPart := periodPart_of_mem numbers partMember
  have same : point.period.toRat = part.1.toRat := by
    rw [isPart.members, List.mem_filter, decide_eq_true_eq] at inside
    exact inside.2
  have listed : ∀ group ∈ groupsOfPeriod sheet.name module part.1 part.2,
      group ∈ groupsOf sheet module tags := fun group groupMember =>
    List.mem_flatMap.mpr ⟨part, partMember, groupMember⟩
  rcases isPart.sign with positive | negative
  · rw [isPart.groups_of_positive module positive] at listed
    exact ⟨_, listed _ (List.mem_singleton_self _), (gathers_periodicGroup positive point).mpr same⟩
  · rw [isPart.groups_of_negative module negative] at listed
    obtain ⟨waiting, waitingMember, inside⟩ := (byTrigger_groups part.2).covers _ inside
    have trigger := ((byTrigger_groups part.2).members waiting waitingMember _ inside).2
    exact ⟨_, listed _ (List.mem_map_of_mem waitingMember),
      (gathers_handshakeGroup negative point).mpr ⟨same, of_decide_eq_true trigger⟩⟩

theorem exists_filter_eq_singleton (lengths : sheet.points.length = tags.length)
    (numbers : ∀ point ∈ sheet.points, point.period.isFinite = true) {point : Point}
    (member : point ∈ sheet.points) (nonzero : point.period.toRat ≠ 0) :
    ∃ group, ((groupsOf sheet module tags).filter fun group => group.Gathers point) = [group] := by
  obtain ⟨group, groupMember, gathers⟩ := exists_group_of_point lengths numbers member nonzero
  refine ⟨group, ?_⟩
  rw [← Ordered.filter_eq_singleton (groupsOf_keys_nodup lengths numbers) groupMember]
  refine List.filter_congr fun other otherMember => decide_eq_decide.mpr ?_
  exact (collects_of_mem lengths numbers groupMember).gathers_iff
    (collects_of_mem lengths numbers otherMember) gathers

theorem filter_eq_nil_of_zero (lengths : sheet.points.length = tags.length)
    (numbers : ∀ point ∈ sheet.points, point.period.isFinite = true) {point : Point}
    (zero : point.period.toRat = 0) :
    ((groupsOf sheet module tags).filter fun group => group.Gathers point) = [] := by
  rw [List.filter_eq_nil_iff]
  intro group member gathers
  have periods := (of_decide_eq_true gathers).1
  exact (collects_of_mem lengths numbers member).nonzero (periods.symm.trans zero)

/-! ## Conflicts -/

/-- The return addresses that the points of a group name, one for each point. -/
def returnsOf (sheet : Sheet) (group : PeriodGroup) : List String :=
  (sheet.points.filter fun point => group.Gathers point).map fun point =>
    Address.normalizeOption point.returnAddress

/-- A handshake with two different return addresses. -/
def ReturnsDiffer (sheet : Sheet) (group : PeriodGroup) : Prop :=
  group.period.toRat < 0 ∧
    ∃ left ∈ returnsOf sheet group, ∃ right ∈ returnsOf sheet group, left ≠ right

instance (sheet : Sheet) (group : PeriodGroup) : Decidable (ReturnsDiffer sheet group) :=
  inferInstanceAs (Decidable (_ ∧ _))

/-- The warning about a handshake, with all its return addresses and the one that it uses. -/
def returnConflict (sheet : Sheet) (group : PeriodGroup) : Event :=
  .returnConflict sheet.name (group.triggerAddress.getD "") (distinctSorted (returnsOf sheet group))
    (group.returnAddress.getD "")

theorem one_lt_length_distinctSorted (texts : List String) :
    1 < (distinctSorted texts).length ↔ ∃ left ∈ texts, ∃ right ∈ texts, left ≠ right := by
  rw [distinctSorted, List.length_mergeSort]
  cases texts with
  | nil => simp
  | cons first rest =>
      have others : (∃ left ∈ first :: rest, ∃ right ∈ first :: rest, left ≠ right) ↔
          ∃ text, text ∈ rest.filter fun text => !text == first := by
        simp only [List.mem_filter, Bool.not_eq_true', beq_eq_false_iff_ne]
        constructor
        · rintro ⟨left, leftMember, right, rightMember, different⟩
          by_contra same
          have all : ∀ text ∈ first :: rest, text = first := by grind
          exact different ((all left leftMember).trans (all right rightMember).symm)
        · rintro ⟨text, member, different⟩
          exact ⟨text, List.mem_cons_of_mem _ member, first, List.mem_cons_self, different⟩
      rw [others, List.eraseDups_cons, List.length_cons, Nat.lt_add_left_iff_pos,
        List.length_pos_iff_exists_mem]
      simp only [List.mem_eraseDups]

variable (module) in
theorem PeriodPart.returnsOf_handshakeGroup (lengths : sheet.points.length = tags.length)
    {part : Double × List (Point × Tag)} (isPart : PeriodPart sheet tags part)
    (negative : part.1.toRat < 0) {waiting : String × List (Point × Tag)}
    (member : waiting ∈ byTrigger Prod.fst part.2) :
    returnsOf sheet (handshakeGroup sheet module part.1 waiting) =
      (waiting.2.map Prod.fst).map fun point => Address.normalizeOption point.returnAddress := by
  rw [returnsOf, filter_points lengths, isPart.filter_handshakeGroup module negative member]

variable (module) in
/-- What is warned about a trigger is what is due to its group. -/
theorem PeriodPart.returnEvents_eq (lengths : sheet.points.length = tags.length)
    {part : Double × List (Point × Tag)} (isPart : PeriodPart sheet tags part)
    (negative : part.1.toRat < 0) {waiting : String × List (Point × Tag)}
    (member : waiting ∈ byTrigger Prod.fst part.2) :
    returnEvents sheet.name waiting.1 (waiting.2.map Prod.fst) =
      ([handshakeGroup sheet module part.1 waiting].filter fun group =>
        ReturnsDiffer sheet group).map (returnConflict sheet) := by
  have returns := isPart.returnsOf_handshakeGroup module lengths negative member
  have used : returnAddressOf id (waiting.2.map Prod.fst) = returnAddressOf Prod.fst waiting.2 := by
    cases waiting.2 <;> rfl
  by_cases several : 1 < (distinctSorted (returnsOf sheet
      (handshakeGroup sheet module part.1 waiting))).length
  · have differ : ReturnsDiffer sheet (handshakeGroup sheet module part.1 waiting) :=
      ⟨negative, (one_lt_length_distinctSorted _).mp several⟩
    rw [List.filter_cons_of_pos (by simpa using differ), List.filter_nil, List.map_singleton,
      returnConflict, returnEvents, ← returns, if_pos several, used]
    rfl
  · have agree : ¬ReturnsDiffer sheet (handshakeGroup sheet module part.1 waiting) := fun differ =>
      several ((one_lt_length_distinctSorted _).mpr differ.2)
    rw [List.filter_cons_of_neg (by simpa using agree), List.filter_nil, List.map_nil,
      returnEvents, ← returns, if_neg several]

variable (module) in
/-- Warnings are due to just the handshakes whose points differ in their return addresses, in the
order of the groups. -/
theorem groupEvents_eq (lengths : sheet.points.length = tags.length)
    (numbers : ∀ point ∈ sheet.points, point.period.isFinite = true) :
    groupEvents sheet = ((groupsOf sheet module tags).filter fun group =>
      ReturnsDiffer sheet group).map (returnConflict sheet) := by
  have parts : byPeriod id sheet.points = (byPeriod Prod.fst (sheet.points.zip tags)).map
      fun part => (part.1, part.2.map Prod.fst) := by
    nth_rewrite 1 [← List.map_fst_zip (Nat.le_of_eq lengths)]
    exact byPeriod_map id Prod.fst _
  rw [groupEvents, parts, List.flatMap_map, groupsOf_eq, List.filter_flatMap, List.map_flatMap]
  refine List.flatMap_congr fun part member => ?_
  have isPart := periodPart_of_mem numbers member
  have above := Double.isPositive_iff isPart.number
  rcases isPart.sign with positive | negative
  · have silent : ¬ReturnsDiffer sheet (periodicGroup sheet module part) := fun differ =>
      differ.1.not_gt positive
    rw [isPart.groups_of_positive module positive, List.filter_cons_of_neg (by simpa using silent)]
    exact if_pos (above.mpr positive)
  · rw [isPart.groups_of_negative module negative]
    refine (if_neg fun positive => negative.not_gt (above.mp positive)).trans ?_
    rw [byTrigger_map, List.flatMap_map, ← List.flatMap_singleton' ((byTrigger _ _).map _),
      List.flatMap_map, List.filter_flatMap, List.map_flatMap]
    exact List.flatMap_congr fun waiting waitingMember =>
      isPart.returnEvents_eq module lengths negative waitingMember

/-! ## All groups of a sheet -/

/-- How the groups of a sheet's tags in a module share its points. -/
structure Grouped (sheet : Sheet) (module : Int) (tags : List Tag) (groups : List PeriodGroup) :
    Prop where
  each : ∀ group ∈ groups, Collects sheet module tags group
  /-- A point other than of period zero is gathered by one group. -/
  once : ∀ point ∈ sheet.points, point.period.toRat ≠ 0 →
    ∃ group, (groups.filter fun group => group.Gathers point) = [group]
  left_out : ∀ point ∈ sheet.points, point.period.toRat = 0 →
    (groups.filter fun group => group.Gathers point) = []
  /-- The groups together hold the tags of the points that are gathered, each as often as it
  comes. -/
  shares : (groups.flatMap PeriodGroup.tags).Perm
    (((sheet.points.zip tags).filter fun item => item.1.period.toRat ≠ 0).map Prod.snd)
  ordered : groups.Pairwise (Precedes sheet)
  keys : (groups.map PeriodGroup.key).Nodup
  /-- Nothing is said of the groups but that return addresses differ, and that is a warning. -/
  conflicts : groupEvents sheet =
    (groups.filter fun group => ReturnsDiffer sheet group).map (returnConflict sheet)
  warnings : ∀ event ∈ groupEvents sheet, event.level = .warning

end

/-- The tags of a sheet whose periods are numbers are grouped by period and trigger. -/
theorem groupsOf_grouped {sheet : Sheet} {module : Int} {tags : List Tag}
    (numbers : ∀ point ∈ sheet.points, point.period.isFinite = true)
    (tagged : tagsOf module sheet.points = .ok tags) :
    Grouped sheet module tags (groupsOf sheet module tags) := by
  rw [tagsOf_eq_mapM, Outcome.mapM_eq_ok] at tagged
  have lengths := tagged.length_eq
  have conflicts := groupEvents_eq module lengths numbers
  refine ⟨?_, ?_, ?_, ?_, ?_, ?_, conflicts, ?_⟩
  · intro group member
    exact collects_of_mem lengths numbers member
  · intro point member nonzero
    exact exists_filter_eq_singleton lengths numbers member nonzero
  · intro point _ zero
    exact filter_eq_nil_of_zero lengths numbers zero
  · have captured : ((sheet.points.zip tags).filter fun item => !item.1.period.isZero) =
        (sheet.points.zip tags).filter fun item => item.1.period.toRat ≠ 0 := by
      refine List.filter_congr fun item member => ?_
      have zero := Double.isZero_iff (numbers item.1 (List.of_mem_zip member).1)
      simp [← zero]
    rw [← captured]
    exact groupsOf_flatMap_tags_perm sheet module tags
  · exact groupsOf_precedes lengths numbers
  · exact groupsOf_keys_nodup lengths numbers
  · intro event member
    rw [conflicts, List.mem_map] at member
    obtain ⟨group, _, rfl⟩ := member
    rfl

/-! Two periods that take turns, a point without period, two spellings of one trigger and two of
none, and handshakes that do not agree where to return. -/

def halfSecond : Double := Double.ofRatio false 1 2

def oneHandshake : Double := Double.ofRatio true 1 1

def mixedSheet : Sheet where
  name := "Line"
  points := [
    ⟨"Speed", "", "D0", ⟨.short, false⟩, none, none, none, halfSecond⟩,
    ⟨"Batch", "", "D1", ⟨.short, false⟩, none, some "D100", some "D200", oneHandshake⟩,
    ⟨"Serial", "", "D2", ⟨.short, false⟩, none, some "D100", none, Double.zero true⟩,
    ⟨"Lot", "", "D3", ⟨.short, false⟩, none, some " ", none, oneHandshake⟩,
    ⟨"Count", "", "D4", ⟨.short, false⟩, none, some "D100", none, halfSecond⟩,
    ⟨"Weight", "", "D5", ⟨.short, false⟩, none, some "x100", some "D201", oneHandshake⟩,
    ⟨"Scrap", "", "D6", ⟨.short, false⟩, none, none, some "D200", oneHandshake⟩]

def mixedTags : List Tag :=
  (tagsOf 2 mixedSheet.points).toOption.getD []

theorem mixedSheet_grouped :
    (∀ point ∈ mixedSheet.points, point.period.isFinite = true) ∧
      tagsOf 2 mixedSheet.points = .ok mixedTags ∧
      (groupsOf mixedSheet 2 mixedTags).map (fun group => (group.key, group.tags.map Tag.name)) =
        [("0.5", ["Speed_M2", "Count_M2"]), ("-1@100", ["Batch_M2", "Weight_M2"]),
          ("-1@0", ["Lot_M2", "Scrap_M2"])] ∧
      Grouped mixedSheet 2 mixedTags (groupsOf mixedSheet 2 mixedTags) := by
  have numbers : ∀ point ∈ mixedSheet.points, point.period.isFinite = true := by decide +kernel
  have tagged : tagsOf 2 mixedSheet.points = .ok mixedTags :=
    Outcome.eq_ok_of_toOption (by decide +kernel)
  exact ⟨numbers, tagged, by decide +kernel, groupsOf_grouped numbers tagged⟩

end SheetUnit

end PointTable
