import Mathlib.Data.List.Forall2
import Mathlib.Data.List.Perm.Subperm
import Mathlib.Order.WithBot
import PointTable.Proofs.Number.Value
import PointTable.Proofs.Ordered
import PointTable.Session

/-!
# Change logs

Away from non-numbers, equality of values is an equivalence: numbers are equal when they stand at
one place of the line, sequences item by item, and records key by key. Snapshots compare their
values in the same way once every sequence is taken for a list. So being unchanged is an
equivalence as well, and a log that keeps the last snapshot it stored decides as one that keeps
every reading.
-/

namespace PointTable

/-! ## Places on the line -/

namespace Double

/-- Where a number stands on the line with its two ends; a non-number stands nowhere. -/
def place? : Double → Option (WithBot (WithTop ℚ))
  | .nan _ => none
  | .infinite negative => some (if negative then ⊥ else ⊤)
  | .finite negative significand exponent canonical =>
    some ((finite negative significand exponent canonical).toRat : WithTop ℚ)

theorem sameValue_iff_place? {x y : Double} :
    x.sameValue y = true ↔ ∃ place, x.place? = some place ∧ y.place? = some place := by
  cases x with
  | nan negative => simp [sameValue, place?]
  | infinite negative =>
      cases y with
      | nan negative' => simp [sameValue, place?]
      | infinite negative' => cases negative <;> cases negative' <;> simp [sameValue, place?]
      | finite => cases negative <;> simp [sameValue, place?]
  | finite negative significand exponent canonical =>
      cases y with
      | nan negative' => simp [sameValue, place?]
      | infinite negative' => cases negative' <;> simp [sameValue, place?]
      | finite =>
          rw [sameValue_iff rfl rfl]
          simp [place?, eq_comm]

@[simp] theorem equalsInt_iff_place? {x : Double} {n : Int} :
    x.equalsInt n = true ↔ x.place? = some ((n : ℚ) : WithTop ℚ) := by
  cases x with
  | nan negative => simp [equalsInt, place?]
  | infinite negative => cases negative <;> simp [equalsInt, place?]
  | finite negative significand exponent canonical =>
      rw [equalsInt_iff rfl]
      simp [place?]

end Double

namespace Numeral

/-- Where a number of either kind stands on the line. -/
def place? : Numeral → Option (WithBot (WithTop ℚ))
  | .int value => some ((value : ℚ) : WithTop ℚ)
  | .float value => value.place?

theorem same_iff {x y : Numeral} :
    x.same y = true ↔ ∃ place, x.place? = some place ∧ y.place? = some place := by
  cases x with
  | int m =>
      cases y with
      | int n => simp [same, place?, eq_comm]
      | float y => simp [same, place?]
  | float x =>
      cases y with
      | int n => simp [same, place?]
      | float y => exact Double.sameValue_iff_place?

end Numeral

/-! ## Mappings compared key by key -/

namespace Ordered

variable {κ α : Type} [DecidableEq κ]

/-- Two mappings have the same keys, and related values under each of them. -/
structure Matches (related : α → α → Prop) (left right : List (κ × α)) : Prop where
  keys : ∀ key, key ∈ left.map Prod.fst ↔ key ∈ right.map Prod.fst
  values : ∀ key value other, left.lookup key = some value → right.lookup key = some other →
    related value other

variable {related : α → α → Prop} {left right third : List (κ × α)}

/-- Where keys are distinct and there are as many on both sides, it is enough to look up the
entries of one side. -/
theorem matches_iff (distinct : (left.map Prod.fst).Nodup)
    (distinct' : (right.map Prod.fst).Nodup) :
    Matches related left right ↔ left.length = right.length ∧
      ∀ entry ∈ left, ∃ other, right.lookup entry.1 = some other ∧ related entry.2 other := by
  constructor
  · intro matched
    have keys : (left.map Prod.fst).Perm (right.map Prod.fst) :=
      (List.perm_ext_iff_of_nodup distinct distinct').mpr matched.keys
    refine ⟨by simpa using keys.length_eq, ?_⟩
    rintro ⟨key, value⟩ member
    obtain ⟨other, found⟩ := mem_keys_iff.mp
      ((matched.keys key).mp (List.mem_map_of_mem member))
    exact ⟨other, found,
      matched.values key value other (lookup_eq_some_of_mem distinct member) found⟩
  · rintro ⟨lengths, every⟩
    have subset : left.map Prod.fst ⊆ right.map Prod.fst := by
      intro key member
      obtain ⟨entry, inside, rfl⟩ := List.mem_map.mp member
      obtain ⟨other, found, _⟩ := every entry inside
      exact mem_keys_iff.mpr ⟨other, found⟩
    have keys : (left.map Prod.fst).Perm (right.map Prod.fst) :=
      (distinct.subperm subset).perm_of_length_le (by simp [lengths])
    refine ⟨fun key => keys.mem_iff, ?_⟩
    intro key value other found found'
    obtain ⟨other', found'', holds⟩ := every _ (mem_of_lookup_eq_some found)
    rw [found'] at found''
    cases found''
    exact holds

theorem Matches.refl (every : ∀ entry ∈ left, related entry.2 entry.2) :
    Matches related left left := by
  refine ⟨fun _ => Iff.rfl, ?_⟩
  intro key value other found found'
  rw [found] at found'
  cases found'
  exact every _ (mem_of_lookup_eq_some found)

theorem Matches.join (first : Matches related third left) (second : Matches related third right)
    (every : ∀ between ∈ third, ∀ entry ∈ left, ∀ other ∈ right, related between.2 entry.2 →
      related between.2 other.2 → related entry.2 other.2) :
    Matches related left right := by
  refine ⟨fun key => (first.keys key).symm.trans (second.keys key), ?_⟩
  intro key value other found found'
  obtain ⟨between, middle⟩ := mem_keys_iff.mp
    ((first.keys key).mpr (mem_keys_iff.mpr ⟨value, found⟩))
  exact every _ (mem_of_lookup_eq_some middle) _ (mem_of_lookup_eq_some found) _
    (mem_of_lookup_eq_some found') (first.values key between value middle found)
    (second.values key between other middle found')

end Ordered

theorem forall₂_join {α : Type} {related : α → α → Prop} {left right third : List α}
    (first : List.Forall₂ related third left) (second : List.Forall₂ related third right)
    (every : ∀ between ∈ third, ∀ item ∈ left, ∀ other ∈ right, related between item →
      related between other → related item other) :
    List.Forall₂ related left right := by
  induction first generalizing right with
  | nil =>
      cases second
      exact .nil
  | @cons between item third left head _ ih =>
      cases second with
      | @cons _ other _ right head' tail' =>
          refine .cons (every between (by simp) item (by simp) other (by simp) head head')
            (ih tail' ?_)
          intro between member item member' other member''
          exact every between (.tail _ member) item (.tail _ member') other (.tail _ member'')

/-! ## Values that can be compared -/

namespace Cell

/-- No double in the value is a non-number, and no record in it has a key twice. -/
inductive Comparable : Cell → Prop where
  | null : Comparable .null
  | bool (value : Bool) : Comparable (.bool value)
  | int (value : Int) : Comparable (.int value)
  | float {value : Double} (number : ∀ negative, value ≠ .nan negative) :
      Comparable (.float value)
  | text (value : String) : Comparable (.text value)
  | octets (value : List UInt8) : Comparable (.octets value)
  | list {items : List Cell} (every : ∀ item ∈ items, Comparable item) :
      Comparable (.list items)
  | tuple {items : List Cell} (every : ∀ item ∈ items, Comparable item) :
      Comparable (.tuple items)
  | record {entries : List (String × Cell)} (distinct : (entries.map Prod.fst).Nodup)
      (every : ∀ entry ∈ entries, Comparable entry.2) : Comparable (.record entries)

attribute [simp] Comparable.null Comparable.bool Comparable.int Comparable.text Comparable.octets

@[simp] theorem comparable_float_iff {value : Double} :
    (Cell.float value).Comparable ↔ ∀ negative, value ≠ .nan negative := by
  constructor
  · rintro (_ | _)
    assumption
  · exact .float

@[simp] theorem comparable_list_iff {items : List Cell} :
    (Cell.list items).Comparable ↔ ∀ item ∈ items, item.Comparable := by
  constructor
  · rintro (_ | _)
    assumption
  · exact .list

@[simp] theorem comparable_tuple_iff {items : List Cell} :
    (Cell.tuple items).Comparable ↔ ∀ item ∈ items, item.Comparable := by
  constructor
  · rintro (_ | _)
    assumption
  · exact .tuple

@[simp] theorem comparable_record_iff {entries : List (String × Cell)} :
    (Cell.record entries).Comparable ↔
      (entries.map Prod.fst).Nodup ∧ ∀ entry ∈ entries, entry.2.Comparable := by
  constructor
  · rintro (_ | _)
    exact ⟨‹_›, ‹_›⟩
  · rintro ⟨distinct, every⟩
    exact .record distinct every

/-- The values are one and the same but for the order in which records list their entries. -/
inductive Reordered : Cell → Cell → Prop where
  | refl (cell : Cell) : Reordered cell cell
  | list {items others : List Cell} (lengths : items.length = others.length)
      (every : ∀ item other, (item, other) ∈ items.zip others → Reordered item other) :
      Reordered (.list items) (.list others)
  | tuple {items others : List Cell} (lengths : items.length = others.length)
      (every : ∀ item other, (item, other) ∈ items.zip others → Reordered item other) :
      Reordered (.tuple items) (.tuple others)
  | record {entries others : List (String × Cell)}
      (keys : (entries.map Prod.fst).Perm (others.map Prod.fst))
      (values : ∀ key value other, entries.lookup key = some value →
        others.lookup key = some other → Reordered value other) :
      Reordered (.record entries) (.record others)

theorem Reordered.of_perm {entries others : List (String × Cell)} (listed : entries.Perm others)
    (distinct : (others.map Prod.fst).Nodup) : Reordered (.record entries) (.record others) := by
  refine .record (listed.map Prod.fst) ?_
  intro key value other found found'
  have member := listed.mem_iff.mp (Ordered.mem_of_lookup_eq_some found)
  rw [Ordered.lookup_eq_some_of_mem distinct member] at found'
  cases found'
  exact .refl value

/-! ### What equals a value of some kind -/

@[simp] theorem sameItems_iff {items others : List Cell} :
    sameItems items others = true ↔
      List.Forall₂ (fun item other => item.same other = true) items others := by
  induction items generalizing others with
  | nil => cases others <;> simp [sameItems]
  | cons item rest ih => cases others <;> simp [sameItems, ih]

@[simp] theorem sameEntries_iff {entries others : List (String × Cell)} :
    sameEntries entries others = true ↔
      ∀ entry ∈ entries, ∃ other, others.lookup entry.1 = some other ∧
        entry.2.same other = true := by
  induction entries with
  | nil => simp [sameEntries]
  | cons entry rest ih =>
      obtain ⟨key, value⟩ := entry
      rw [sameEntries, Bool.and_eq_true, ih, List.forall_mem_cons]
      cases others.lookup key <;> simp

theorem same_iff_of_number? {cell other : Cell} {x : Numeral} (number : cell.number? = some x) :
    cell.same other = true ↔ ∃ y, other.number? = some y ∧ x.same y = true := by
  cases cell <;> cases number <;> cases other <;> simp [same, number?]

@[simp] theorem same_list_iff {items : List Cell} {cell : Cell} :
    (Cell.list items).same cell = true ↔
      ∃ others, cell = .list others ∧
        List.Forall₂ (fun item other => item.same other = true) items others := by
  cases cell <;> simp [same, number?]

@[simp] theorem same_tuple_iff {items : List Cell} {cell : Cell} :
    (Cell.tuple items).same cell = true ↔
      ∃ others, cell = .tuple others ∧
        List.Forall₂ (fun item other => item.same other = true) items others := by
  cases cell <;> simp [same, number?]

theorem same_record_iff {entries : List (String × Cell)}
    (distinct : (entries.map Prod.fst).Nodup) {cell : Cell} (comparable : cell.Comparable) :
    (Cell.record entries).same cell = true ↔
      ∃ others, cell = .record others ∧
        Ordered.Matches (fun value other => value.same other = true) entries others := by
  cases comparable with
  | record distinct' _ =>
      simp [same, Ordered.matches_iff distinct distinct']
  | _ => simp [same, number?]

/-! ### Equality is an equivalence -/

namespace Comparable

variable {cell other third : Cell}

theorem exists_place (comparable : cell.Comparable) {x : Numeral}
    (number : cell.number? = some x) : ∃ place, x.place? = some place := by
  cases comparable with
  | bool value | int value =>
      cases number
      exact ⟨_, rfl⟩
  | @float value isNumber =>
      cases number
      cases value with
      | nan negative => exact absurd rfl (isNumber negative)
      | infinite negative => exact ⟨_, rfl⟩
      | finite => exact ⟨_, rfl⟩
  | _ => cases number

theorem same_self_of_number? (comparable : cell.Comparable) {x : Numeral}
    (number : cell.number? = some x) : cell.same cell = true := by
  obtain ⟨place, stands⟩ := comparable.exists_place number
  rw [same_iff_of_number? number]
  exact ⟨x, number, Numeral.same_iff.mpr ⟨place, stands, stands⟩⟩

theorem same_self (comparable : cell.Comparable) : cell.same cell = true := by
  induction comparable with
  | null => rfl
  | bool value => exact same_self_of_number? (.bool value) rfl
  | int value => exact same_self_of_number? (.int value) rfl
  | float number => exact same_self_of_number? (.float number) rfl
  | text value => exact same_text_iff.mpr rfl
  | octets value => exact same_octets_iff.mpr rfl
  | list _ ih => exact same_list_iff.mpr ⟨_, rfl, List.forall₂_same.mpr ih⟩
  | tuple _ ih => exact same_tuple_iff.mpr ⟨_, rfl, List.forall₂_same.mpr ih⟩
  | record distinct every ih =>
      exact (same_record_iff distinct (.record distinct every)).mpr ⟨_, rfl, .refl ih⟩

theorem same_of_number? {x : Numeral} (number : third.number? = some x)
    (first : third.same cell = true) (second : third.same other = true) :
    cell.same other = true := by
  obtain ⟨y, number', equal⟩ := (same_iff_of_number? number).mp first
  obtain ⟨z, number'', equal'⟩ := (same_iff_of_number? number).mp second
  obtain ⟨place, stands, stands'⟩ := Numeral.same_iff.mp equal
  obtain ⟨place', again, stands''⟩ := Numeral.same_iff.mp equal'
  cases stands.symm.trans again
  rw [same_iff_of_number? number']
  exact ⟨z, number'', Numeral.same_iff.mpr ⟨place, stands', stands''⟩⟩

theorem same_join (comparable : third.Comparable) (left : cell.Comparable)
    (right : other.Comparable) (first : third.same cell = true)
    (second : third.same other = true) : cell.same other = true := by
  -- Symmetry and transitivity in one: both follow from this and `same_self`.
  induction comparable generalizing cell other with
  | null =>
      obtain rfl := same_null_iff.mp first
      exact second
  | bool value => exact same_of_number? rfl first second
  | int value => exact same_of_number? rfl first second
  | float number => exact same_of_number? rfl first second
  | text value =>
      obtain rfl := same_text_iff.mp first
      exact second
  | octets value =>
      obtain rfl := same_octets_iff.mp first
      exact second
  | list _ ih =>
      obtain ⟨items, rfl, same⟩ := same_list_iff.mp first
      obtain ⟨others, rfl, same'⟩ := same_list_iff.mp second
      rw [comparable_list_iff] at left right
      refine same_list_iff.mpr ⟨others, rfl, forall₂_join same same' ?_⟩
      intro between member item inside other inside'
      exact ih between member (left item inside) (right other inside')
  | tuple _ ih =>
      obtain ⟨items, rfl, same⟩ := same_tuple_iff.mp first
      obtain ⟨others, rfl, same'⟩ := same_tuple_iff.mp second
      rw [comparable_tuple_iff] at left right
      refine same_tuple_iff.mpr ⟨others, rfl, forall₂_join same same' ?_⟩
      intro between member item inside other inside'
      exact ih between member (left item inside) (right other inside')
  | record distinct _ ih =>
      obtain ⟨entries, rfl, same⟩ := (same_record_iff distinct left).mp first
      obtain ⟨others, rfl, same'⟩ := (same_record_iff distinct right).mp second
      have ⟨distinct', every⟩ := comparable_record_iff.mp left
      have ⟨_, every'⟩ := comparable_record_iff.mp right
      refine (same_record_iff distinct' right).mpr ⟨others, rfl, same.join same' ?_⟩
      intro between member entry inside other inside'
      exact ih between member (every entry inside) (every' other inside')

/-- A value equals what it differs from in the order of entries only. -/
theorem same_of_reordered (left : cell.Comparable) (right : other.Comparable)
    (reordered : Reordered cell other) : cell.same other = true := by
  induction reordered with
  | refl cell => exact left.same_self
  | list lengths _ ih =>
      rw [comparable_list_iff] at left right
      refine same_list_iff.mpr ⟨_, rfl, List.forall₂_iff_zip.mpr ⟨lengths, ?_⟩⟩
      intro item other member
      have inside := List.of_mem_zip member
      exact ih item other member (left item inside.1) (right other inside.2)
  | tuple lengths _ ih =>
      rw [comparable_tuple_iff] at left right
      refine same_tuple_iff.mpr ⟨_, rfl, List.forall₂_iff_zip.mpr ⟨lengths, ?_⟩⟩
      intro item other member
      have inside := List.of_mem_zip member
      exact ih item other member (left item inside.1) (right other inside.2)
  | record keys _ ih =>
      have ⟨distinct, every⟩ := comparable_record_iff.mp left
      have ⟨_, every'⟩ := comparable_record_iff.mp right
      refine (same_record_iff distinct right).mpr ⟨_, rfl, fun key => keys.mem_iff, ?_⟩
      intro key value other found found'
      exact ih key value other found found' (every _ (Ordered.mem_of_lookup_eq_some found))
        (every' _ (Ordered.mem_of_lookup_eq_some found'))

end Comparable

/-- The value with a sequence of any kind taken for a list. -/
def asList (cell : Cell) : Cell :=
  match cell.items? with
  | some items => .list items
  | none => cell

theorem Comparable.asList {cell : Cell} (comparable : cell.Comparable) :
    cell.asList.Comparable := by
  cases comparable with
  | list every | tuple every => exact .list every
  | octets value =>
      refine .list ?_
      intro item member
      obtain ⟨octet, _, rfl⟩ := List.mem_map.mp member
      exact .int _
  | null => exact .null
  | bool value => exact .bool value
  | int value => exact .int value
  | float number => exact .float number
  | text value => exact .text value
  | record distinct every => exact .record distinct every

theorem asList_same {cell other : Cell} (comparable : cell.Comparable)
    (equal : cell.same other = true) : cell.asList.same other.asList = true := by
  cases cell with
  | tuple items =>
      obtain ⟨others, rfl, same⟩ := same_tuple_iff.mp equal
      exact same_list_iff.mpr ⟨others, rfl, same⟩
  | octets value =>
      obtain rfl := same_octets_iff.mp equal
      exact comparable.asList.same_self
  | list items =>
      obtain ⟨others, rfl, same⟩ := same_list_iff.mp equal
      exact equal
  | _ => cases other <;> simp_all [same, number?, asList, items?]

end Cell

/-! ## Snapshots -/

namespace Snapshot

@[simp] theorem differs_eq (old new : Cell) : differs old new = !old.asList.same new.asList := by
  cases new <;> cases old <;>
    simp [differs, Cell.asList, Cell.items?, Cell.same, Cell.number?]

/-- A snapshot is unchanged exactly if it has the names of the one before, with values that are
equal with their sequences taken for lists. -/
theorem hasChanged_eq_false_iff {previous current : Snapshot}
    (distinct : (current.map Prod.fst).Nodup) :
    hasChanged (some previous) current = false ↔
      Ordered.Matches (fun old new => old.asList.same new.asList = true) previous current := by
  simp only [hasChanged, Bool.or_eq_false_iff, Bool.not_eq_false', sameNames, Bool.and_eq_true,
    List.all_eq_true, List.any_eq_false, Option.isSome_iff_exists, ← Ordered.mem_keys_iff]
  constructor
  · rintro ⟨⟨forth, back⟩, unchanged⟩
    constructor
    · intro name
      constructor
      · intro member
        obtain ⟨entry, inside, rfl⟩ := List.mem_map.mp member
        exact forth entry inside
      · intro member
        obtain ⟨entry, inside, rfl⟩ := List.mem_map.mp member
        exact back entry inside
    · intro name old new found found'
      have kept := unchanged _ (Ordered.mem_of_lookup_eq_some found')
      simpa [found] using kept
  · intro matched
    refine ⟨⟨?_, ?_⟩, ?_⟩
    · intro entry inside
      exact (matched.keys entry.1).mp (List.mem_map_of_mem inside)
    · intro entry inside
      exact (matched.keys entry.1).mpr (List.mem_map_of_mem inside)
    · rintro ⟨name, new⟩ inside
      obtain ⟨old, found⟩ := Ordered.mem_keys_iff.mp
        ((matched.keys name).mpr (List.mem_map_of_mem inside))
      have equal := matched.values name old new found
        (Ordered.lookup_eq_some_of_mem distinct inside)
      simp [found, equal]

/-- The names of a snapshot are distinct, and its values can be compared. -/
def Comparable (snapshot : Snapshot) : Prop :=
  (Cell.record snapshot).Comparable

/-- The snapshots are one and the same but for the order of entries at every depth. -/
def Reordered (snapshot other : Snapshot) : Prop :=
  (Cell.record snapshot).Reordered (.record other)

namespace Comparable

variable {snapshot other third : Snapshot}

theorem distinct (comparable : snapshot.Comparable) : (snapshot.map Prod.fst).Nodup :=
  (Cell.comparable_record_iff.mp comparable).1

theorem values (comparable : snapshot.Comparable) {entry : String × Cell}
    (member : entry ∈ snapshot) : entry.2.Comparable :=
  (Cell.comparable_record_iff.mp comparable).2 entry member

theorem unchanged_of_same (left : snapshot.Comparable) (right : other.Comparable)
    (equal : (Cell.record snapshot).same (.record other) = true) :
    hasChanged (some snapshot) other = false := by
  obtain ⟨_, itself, matched⟩ := (Cell.same_record_iff left.distinct right).mp equal
  cases itself
  rw [hasChanged_eq_false_iff right.distinct]
  refine ⟨matched.keys, ?_⟩
  intro name old new found found'
  exact Cell.asList_same (left.values (Ordered.mem_of_lookup_eq_some found))
    (matched.values name old new found found')

theorem unchanged_self (comparable : snapshot.Comparable) :
    hasChanged (some snapshot) snapshot = false :=
  comparable.unchanged_of_same comparable (Cell.Comparable.same_self comparable)

/-- Snapshots that are unchanged from one snapshot are unchanged from each other. -/
theorem unchanged_join (comparable : third.Comparable) (left : snapshot.Comparable)
    (right : other.Comparable) (first : hasChanged (some third) snapshot = false)
    (second : hasChanged (some third) other = false) :
    hasChanged (some snapshot) other = false := by
  rw [hasChanged_eq_false_iff left.distinct] at first
  rw [hasChanged_eq_false_iff right.distinct] at second
  rw [hasChanged_eq_false_iff right.distinct]
  refine first.join second ?_
  intro between member entry inside other inside'
  exact (comparable.values member).asList.same_join (left.values inside).asList
    (right.values inside').asList

theorem unchanged_symm (left : snapshot.Comparable) (right : other.Comparable)
    (same : hasChanged (some snapshot) other = false) : hasChanged (some other) snapshot = false :=
  left.unchanged_join right left same left.unchanged_self

theorem unchanged_trans (left : snapshot.Comparable) (right : other.Comparable)
    (last : third.Comparable) (first : hasChanged (some snapshot) other = false)
    (second : hasChanged (some other) third = false) : hasChanged (some snapshot) third = false :=
  right.unchanged_join left last (left.unchanged_symm right first) second

/-- Whether a reading has changed does not depend on which of two unchanged snapshots it is
compared with. -/
theorem hasChanged_congr (left : snapshot.Comparable) (right : other.Comparable)
    (same : hasChanged (some snapshot) other = false) {reading : Snapshot}
    (comparable : reading.Comparable) :
    hasChanged (some snapshot) reading = hasChanged (some other) reading := by
  rw [Bool.eq_iff_iff, ← not_iff_not, Bool.not_eq_true, Bool.not_eq_true]
  constructor
  · exact left.unchanged_join right comparable same
  · exact right.unchanged_join left comparable (left.unchanged_symm right same)

theorem hasChanged_congr_right (comparable : snapshot.Comparable) {reading reading' : Snapshot}
    (left : reading.Comparable) (right : reading'.Comparable)
    (same : hasChanged (some reading) reading' = false) :
    hasChanged (some snapshot) reading = hasChanged (some snapshot) reading' := by
  rw [Bool.eq_iff_iff, ← not_iff_not, Bool.not_eq_true, Bool.not_eq_true]
  constructor
  · intro unchanged
    exact comparable.unchanged_trans left right unchanged same
  · intro unchanged
    exact comparable.unchanged_trans right left unchanged (left.unchanged_symm right same)

end Comparable

/-! ## Logs -/

/-- The snapshot a log keeps after a reading: the reading if it has changed. -/
def kept (stored : Option Snapshot) (reading : Snapshot) : Option Snapshot :=
  if hasChanged stored reading then some reading else stored

/-- What a log decides that compares each reading with the snapshot it keeps. -/
def logDecisions (stored : Option Snapshot) : List Snapshot → List Bool
  | [] => []
  | reading :: rest => hasChanged stored reading :: logDecisions (kept stored reading) rest

/-- What is decided by comparing each reading with the one just before it. -/
def neighbourDecisions (previous : Option Snapshot) : List Snapshot → List Bool
  | [] => []
  | reading :: rest => hasChanged previous reading :: neighbourDecisions (some reading) rest

/-- From a snapshot and a reading that is unchanged from it on, both decide alike. -/
theorem logDecisions_eq_of_unchanged {stored previous : Snapshot} (left : stored.Comparable)
    (right : previous.Comparable) (same : hasChanged (some stored) previous = false)
    {readings : List Snapshot} (comparable : ∀ reading ∈ readings, Comparable reading) :
    logDecisions (some stored) readings = neighbourDecisions (some previous) readings := by
  induction readings generalizing stored previous with
  | nil => rfl
  | cons reading rest ih =>
      rw [List.forall_mem_cons] at comparable
      rw [logDecisions, neighbourDecisions,
        left.hasChanged_congr right same comparable.1]
      congr 1
      cases changed : hasChanged (some stored) reading with
      | true =>
          rw [kept, if_pos changed]
          exact ih comparable.1 comparable.1 comparable.1.unchanged_self comparable.2
      | false =>
          rw [kept, if_neg (Bool.eq_false_iff.mp changed)]
          exact ih left comparable.1 changed comparable.2

theorem logDecisions_eq_neighbourDecisions {readings : List Snapshot}
    (comparable : ∀ reading ∈ readings, Comparable reading) :
    logDecisions none readings = neighbourDecisions none readings := by
  cases readings with
  | nil => rfl
  | cons reading rest =>
      rw [List.forall_mem_cons] at comparable
      rw [logDecisions, neighbourDecisions]
      congr 1
      exact logDecisions_eq_of_unchanged comparable.1 comparable.1 comparable.1.unchanged_self
        comparable.2

/-- Comparing with the last stored snapshot is enough: a log decides as if it compared each reading
with the one before. Being unchanged is an equivalence on snapshots that can be compared, and it
does not look at the order of names or keys. -/
theorem last_stored_suffices :
    (∀ readings : List Snapshot, (∀ reading ∈ readings, Comparable reading) →
      logDecisions none readings = neighbourDecisions none readings) ∧
    Equivalence (fun previous current : { snapshot : Snapshot // snapshot.Comparable } =>
      hasChanged (some previous.1) current.1 = false) ∧
    ∀ previous previous' current current' : { snapshot : Snapshot // snapshot.Comparable },
      Reordered previous.1 previous'.1 → Reordered current.1 current'.1 →
      hasChanged (some previous.1) current.1 = hasChanged (some previous'.1) current'.1 := by
  refine ⟨fun _ => logDecisions_eq_neighbourDecisions, ⟨?_, ?_, ?_⟩, ?_⟩
  · rintro ⟨snapshot, comparable⟩
    exact comparable.unchanged_self
  · rintro ⟨previous, left⟩ ⟨current, right⟩ same
    exact left.unchanged_symm right same
  · rintro ⟨first, left⟩ ⟨second, middle⟩ ⟨third, right⟩ same same'
    exact left.unchanged_trans middle right same same'
  · rintro ⟨previous, left⟩ ⟨previous', left'⟩ ⟨current, right⟩ ⟨current', right'⟩ before after
    have old := left.unchanged_of_same left' (Cell.Comparable.same_of_reordered left left' before)
    have new := right.unchanged_of_same right'
      (Cell.Comparable.same_of_reordered right right' after)
    calc hasChanged (some previous) current
        = hasChanged (some previous') current := left.hasChanged_congr left' old right
      _ = hasChanged (some previous') current' := left'.hasChanged_congr_right right right' new

def rampReading : Snapshot :=
  [("Ramp", .octets [1, 0]), ("State", .record [("x", .int 1), ("y", .list [.null])])]

/-- The same reading with its entries in another order. -/
def rampSwapped : Snapshot :=
  [("State", .record [("x", .int 1), ("y", .list [.null])]), ("Ramp", .octets [1, 0])]

/-- Readings of the ramp. The second says in other kinds of values what the first does. -/
def rampReadings : List Snapshot :=
  [rampReading,
    [("State", .record [("y", .list [.null]), ("x", .bool true)]),
      ("Ramp", .list [.bool true, .float (Double.zero true)])],
    [("Ramp", .tuple [.int 1, .int 0]), ("State", .text "x")],
    rampSwapped]

theorem rampReadings_decisions :
    (∀ reading ∈ rampReadings, Comparable reading) ∧
      logDecisions none rampReadings = neighbourDecisions none rampReadings ∧
      neighbourDecisions none rampReadings = [true, false, true, true] ∧
      Reordered rampReading rampSwapped ∧
      ∀ reading ∈ rampReadings,
        hasChanged (some rampReading) reading = hasChanged (some rampSwapped) reading := by
  have comparable : ∀ reading ∈ rampReadings, Comparable reading := by
    simp [rampReadings, rampReading, rampSwapped, Comparable, Double.zero, -Prod.forall]
  have first : Comparable rampReading := comparable _ (by simp [rampReadings])
  have last : Comparable rampSwapped := comparable _ (by simp [rampReadings])
  have swapped : Reordered rampReading rampSwapped :=
    Cell.Reordered.of_perm (List.Perm.swap _ _ _) last.distinct
  obtain ⟨decisions, _, order⟩ := last_stored_suffices
  refine ⟨comparable, decisions rampReadings comparable, by decide +kernel, swapped, ?_⟩
  intro reading member
  exact order ⟨_, first⟩ ⟨_, last⟩ ⟨reading, comparable reading member⟩
    ⟨reading, comparable reading member⟩ swapped (.refl _)

end Snapshot

/-! ## Sessions -/

namespace Session

/-- The snapshot kept for a block of a unit. -/
def stored (session : Session) (sheet : String) (module : Int) (block : Block) : Option Snapshot :=
  session.snapshots.lookup ⟨block.table, block.start, sheet, module⟩

section

variable {session : Session} {sheet : String} {module : Int} {table : Option Cell} {index : Int}
  {blocks : List Block} {block : Block}

variable (sheet module) in
/-- A reading that can be decoded is told from the stored one as a log does, and the session keeps
what the log keeps. -/
theorem read_of_decoded {data : List Cell} {values : Snapshot}
    (decoded : Codec.decodeBlock block data session.program.options.orders = .ok values) :
    ∃ next : Session,
      session.read sheet module block data =
        .ok (values, Snapshot.hasChanged (session.stored sheet module block) values, next) ∧
      next.program = session.program ∧
      next.stored sheet module block =
        Snapshot.kept (session.stored sheet module block) values := by
  have found : ∀ (changed : Bool) (key : SnapshotKey),
      (if changed then Ordered.put key values session.snapshots
        else session.snapshots).lookup key =
      if changed then some values else session.snapshots.lookup key := by
    intro changed key
    cases changed with
    | true => exact (Ordered.lookup_put _ _ _ _).trans (if_pos rfl)
    | false => rfl
  simp only [Session.read, decoded, Except.mapError]
  exact ⟨_, rfl, rfl, found _ _⟩

/-- A session that reads one block over and over answers with the decisions of a log. -/
theorem answers_reads (served : session.blocksFor sheet module table = .ok blocks)
    (found : itemAt blocks index = some block) {responses : List (List Cell)}
    {readings : List Snapshot}
    (decoded : List.Forall₂ (fun data values =>
      Codec.decodeBlock block data session.program.options.orders = .ok values) responses
      readings) :
    session.answers (responses.map (.read sheet module table index)) =
      List.zipWith (fun values changed => .ok (.reading values changed)) readings
        (Snapshot.logDecisions (session.stored sheet module block) readings) := by
  generalize orders : session.program.options.orders = order at decoded
  induction decoded generalizing session with
  | nil => rfl
  | @cons data values responses readings first _ ih =>
      rw [← orders] at first
      obtain ⟨next, result, program, kept⟩ := read_of_decoded sheet module first
      have answered : session.answer (.read sheet module table index data) =
          (.ok (.reading values (Snapshot.hasChanged (session.stored sheet module block) values)),
            next) := by
        simp only [answer, served, found, result]
      have served' : next.blocksFor sheet module table = .ok blocks := by
        rw [← served]
        simp only [blocksFor, program]
      rw [List.map_cons, answers, answered, ih served' (program ▸ orders), Snapshot.logDecisions,
        List.zipWith_cons_cons, kept]

end

end Session

end PointTable
