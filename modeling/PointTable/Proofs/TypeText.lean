import Mathlib.Data.List.DropRight
import PointTable.PointType
import PointTable.Proofs.Outcome
import PointTable.Proofs.Text.Blank

/-!
# Texts of types

A text spells a type if it holds, with nothing but blanks around, the name of a base type in any
case, and for an array blanks and brackets behind it. The parser first looks for a name whose
letters match in a wider sense, in which a long s and an i with or without its dot count as letters
too, and then asks for a base type of the lowered name. The two steps together take exactly the
texts that spell a type, since no base type has such a letter in its name.
-/

namespace PointTable

namespace Text

variable {drops : Char → Bool}

theorem dropWhile_append_kept {before core : List Char} (dropped : ∀ c ∈ before, drops c = true)
    (first : ∀ c ∈ core.head?, drops c = false) : (before ++ core).dropWhile drops = core := by
  rw [List.dropWhile_append_of_pos dropped]
  cases core with
  | nil => rfl
  | cons c others => rw [List.dropWhile_cons_of_neg (by simp [first c rfl])]

theorem trimBy_append {before core after : List Char} (dropped : ∀ c ∈ before, drops c = true)
    (dropped' : ∀ c ∈ after, drops c = true) (filled : core ≠ [])
    (first : ∀ c ∈ core.head?, drops c = false) (last : ∀ c ∈ core.getLast?, drops c = false) :
    trimBy drops (before ++ core ++ after) = core := by
  have front : (before ++ (core ++ after)).dropWhile drops = core ++ after := by
    apply dropWhile_append_kept dropped
    rwa [List.head?_append_of_ne_nil core filled]
  have back : (after.reverse ++ core.reverse).dropWhile drops = core.reverse := by
    apply dropWhile_append_kept
    · simpa using dropped'
    · simpa using last
  rw [trimBy, List.append_assoc, front, List.reverse_append, back, List.reverse_reverse]

/-- What is trimmed stands in the text between characters that may be dropped. -/
theorem exists_trimBy (drops : Char → Bool) (chars : List Char) :
    ∃ before after, chars = before ++ trimBy drops chars ++ after ∧
      (∀ c ∈ before, drops c = true) ∧ ∀ c ∈ after, drops c = true := by
  refine ⟨chars.takeWhile drops, (chars.dropWhile drops).rtakeWhile drops, ?_,
    fun c member => List.mem_takeWhile_imp member, fun c member => List.mem_rtakeWhile_imp member⟩
  calc chars = chars.takeWhile drops ++ chars.dropWhile drops :=
      List.takeWhile_append_dropWhile.symm
    _ = chars.takeWhile drops ++ ((chars.dropWhile drops).rdropWhile drops ++
          (chars.dropWhile drops).rtakeWhile drops) := by rw [List.rdropWhile_append_rtakeWhile]
    _ = _ := (List.append_assoc ..).symm

end Text

namespace PointType

open Text

/-! ## Letters -/

/-- The character is a letter in lower or upper case. -/
def IsCaseOf (letter c : Char) : Prop :=
  c = letter ∨ c = letter.toUpper

/-- The character is a letter when the case does not matter: the long s counts as an s, and the i
without a dot and the capital with one count as an i. -/
def FoldsTo (letter c : Char) : Prop :=
  IsCaseOf letter c ∨ (letter = 's' ∧ c = 'ſ') ∨
    (letter = 'i' ∧ (c = 'İ' ∨ c = 'ı'))

theorem toNat_toLower (c : Char) :
    c.toLower.toNat = if 65 ≤ c.toNat ∧ c.toNat ≤ 90 then c.toNat + 32 else c.toNat := by
  by_cases capital : c.val ≥ 'A'.val ∧ c.val ≤ 'Z'.val
  · have range : 65 ≤ c.toNat ∧ c.toNat ≤ 90 := capital
    rw [if_pos range, show c.toLower = _ from dif_pos capital]
    exact (UInt32.toNat_add _ _).trans (Nat.mod_eq_of_lt (by simp; omega))
  · have range : ¬(65 ≤ c.toNat ∧ c.toNat ≤ 90) := capital
    rw [if_neg range, show c.toLower = _ from dif_neg capital]

theorem toNat_toUpper (c : Char) :
    c.toUpper.toNat = if 97 ≤ c.toNat ∧ c.toNat ≤ 122 then c.toNat - 32 else c.toNat := by
  by_cases small : 'a'.val ≤ c.val ∧ c.val ≤ 'z'.val
  · have range : 97 ≤ c.toNat ∧ c.toNat ≤ 122 := small
    rw [if_pos range, show c.toUpper = _ from dif_pos small]
    refine (UInt32.toNat_add _ _).trans ?_
    simp
    omega
  · have range : ¬(97 ≤ c.toNat ∧ c.toNat ≤ 122) := small
    rw [if_neg range, show c.toUpper = _ from dif_neg small]

theorem isLower_of_mem_name {base : BaseType} {letter : Char}
    (member : letter ∈ base.name.toList) : letter.isLower = true := by
  have lower : base.name.toList.all Char.isLower = true := by
    cases base <;> decide
  exact List.all_eq_true.mp lower letter member

theorem toLower_eq_iff {letter c : Char} (lower : letter.isLower = true) :
    c.toLower = letter ↔ IsCaseOf letter c := by
  have bounds : (decide (letter.val ≥ 'a'.val) && decide (letter.val ≤ 'z'.val)) = true := lower
  have small : 97 ≤ letter.toNat ∧ letter.toNat ≤ 122 := by
    simpa [UInt32.le_iff_toNat_le] using bounds
  simp only [IsCaseOf, ← Char.toNat_inj, toNat_toLower, toNat_toUpper, if_pos small]
  split <;> omega

theorem matchesLetter_iff {letter c : Char} (lower : letter.isLower = true) :
    matchesLetter letter c = true ↔ FoldsTo letter c := by
  simp only [matchesLetter, FoldsTo, ← toLower_eq_iff lower, Bool.or_eq_true, Bool.and_eq_true,
    decide_eq_true_eq, or_assoc]

/-- A letter of a name is no blank and no bracket, in whatever way it is written. -/
theorem kept_of_foldsTo {base : BaseType} {letter c : Char} (member : letter ∈ base.name.toList)
    (folds : FoldsTo letter c) : isBlank c = false ∧ c ≠ '[' := by
  have letters : base.name.toList.all (fun letter =>
      (!isBlank letter && letter ≠ '[') && (!isBlank letter.toUpper && letter.toUpper ≠ '[')) =
        true := by
    cases base <;> decide
  have kept := List.all_eq_true.mp letters letter member
  simp only [Bool.and_eq_true, Bool.not_eq_true', decide_eq_true_eq] at kept
  rcases folds with (rfl | rfl) | ⟨_, rfl⟩ | ⟨_, rfl | rfl⟩
  · exact kept.1
  · exact kept.2
  · decide
  · decide
  · decide

/-! ## Spellings -/

/-- Characters write a type, if letters are written alike: the name, and for an array blanks and
brackets. -/
inductive Writes (alike : Char → Char → Prop) : List Char → PointType → Prop
  | scalar {base : BaseType} {written : List Char}
      (name : List.Forall₂ alike base.name.toList written) : Writes alike written ⟨base, false⟩
  | array {base : BaseType} {written blanks : List Char}
      (name : List.Forall₂ alike base.name.toList written)
      (blank : ∀ c ∈ blanks, isBlank c = true) :
      Writes alike (written ++ blanks ++ ['[', ']']) ⟨base, true⟩

/-- A text writes a type with nothing but blanks around it. -/
def Spells (alike : Char → Char → Prop) (text : String) (pointType : PointType) : Prop :=
  ∃ before core after, text.toList = before ++ core ++ after ∧
    (∀ c ∈ before, isBlank c = true) ∧ (∀ c ∈ after, isBlank c = true) ∧
    Writes alike core pointType

/-! ## Taking a text apart -/

theorem takeName?_eq_some_iff {letters chars written rest : List Char}
    (lower : ∀ letter ∈ letters, letter.isLower = true) :
    takeName? letters chars = some (written, rest) ↔
      chars = written ++ rest ∧ List.Forall₂ FoldsTo letters written := by
  induction letters generalizing chars written with
  | nil =>
      rw [takeName?, Option.some.injEq, Prod.mk.injEq, List.forall₂_nil_left_iff]
      constructor
      · rintro ⟨rfl, rfl⟩
        exact ⟨rfl, rfl⟩
      · rintro ⟨rfl, rfl⟩
        exact ⟨rfl, rfl⟩
  | cons letter letters ih =>
      rw [List.forall_mem_cons] at lower
      cases chars with
      | nil =>
          constructor
          · intro impossible
            cases impossible
          · rintro ⟨empty, alike⟩
            cases alike
            cases empty
      | cons c chars =>
          simp only [takeName?]
          split
          · next matched =>
              rw [Option.map_eq_some_iff]
              constructor
              · rintro ⟨⟨others, following⟩, taken, equal⟩
                obtain ⟨rfl, rfl⟩ := Prod.mk.inj equal
                obtain ⟨rfl, alike⟩ := (ih lower.2).mp taken
                exact ⟨rfl, .cons ((matchesLetter_iff lower.1).mp matched) alike⟩
              · rintro ⟨split, alike⟩
                cases alike with
                | cons first alike =>
                    obtain ⟨rfl, rfl⟩ := List.cons.inj split
                    exact ⟨(_, rest), (ih lower.2).mpr ⟨rfl, alike⟩, rfl⟩
          · next other =>
              constructor
              · intro impossible
                cases impossible
              · rintro ⟨split, alike⟩
                cases alike with
                | cons first alike =>
                    cases split
                    exact absurd ((matchesLetter_iff lower.1).mpr first) other

@[simp] theorem takeBrackets?_eq_some_iff {rest : List Char} {isArray : Bool} :
    takeBrackets? rest = some isArray ↔ ∃ blanks, (∀ c ∈ blanks, isBlank c = true) ∧
      rest = blanks ++ if isArray then ['[', ']'] else [] := by
  constructor
  · intro taken
    refine ⟨rest.takeWhile isBlank, fun c member => List.mem_takeWhile_imp member, ?_⟩
    have whole : rest.takeWhile isBlank ++ rest.dropWhile isBlank = rest :=
      List.takeWhile_append_dropWhile
    unfold takeBrackets? at taken
    split at taken
    · next empty =>
        cases taken
        rwa [empty, eq_comm] at whole
    · next brackets =>
        cases taken
        rwa [brackets, eq_comm] at whole
    · cases taken
  · rintro ⟨blanks, blank, rfl⟩
    have dropped : (blanks ++ if isArray then ['[', ']'] else []).dropWhile isBlank =
        if isArray then ['[', ']'] else [] := by
      apply dropWhile_append_kept blank
      cases isArray with
      | false => simp
      | true =>
          intro c first
          cases first
          decide
    rw [takeBrackets?, dropped]
    cases isArray <;> rfl

/-- A text is a name, written in any of the ways its letters have, and what may follow one. -/
structure Parts (chars written rest : List Char) (base : BaseType) (isArray : Bool) : Prop where
  chars_eq : chars = written ++ rest
  name : List.Forall₂ FoldsTo base.name.toList written
  brackets : takeBrackets? rest = some isArray

/-- The name is all that stands in front of the first blank or bracket. -/
theorem Parts.written_eq {chars written rest : List Char} {base : BaseType} {isArray : Bool}
    (parts : Parts chars written rest base isArray) :
    written = chars.takeWhile fun c => !isBlank c && c ≠ '[' := by
  have inside : ∀ c ∈ written, (!isBlank c && decide (c ≠ '[')) = true := by
    intro c member
    obtain ⟨letter, letterMember, folds⟩ := Outcome.exists_of_mem_right parts.name member
    obtain ⟨kept, bracket⟩ := kept_of_foldsTo letterMember folds
    simp [kept, bracket]
  obtain ⟨blanks, blank, follows⟩ := takeBrackets?_eq_some_iff.mp parts.brackets
  have stops : rest.takeWhile (fun c => !isBlank c && decide (c ≠ '[')) = [] := by
    rw [follows]
    cases blanks with
    | nil => cases isArray <;> rfl
    | cons c others => simp [blank c List.mem_cons_self]
  rw [parts.chars_eq, List.takeWhile_append_of_pos inside, stops, List.append_nil]

theorem Parts.unique {chars written written' rest rest' : List Char} {base base' : BaseType}
    {isArray isArray' : Bool} (parts : Parts chars written rest base isArray)
    (parts' : Parts chars written' rest' base' isArray') :
    written = written' ∧ isArray = isArray' := by
  have same : written = written' := parts.written_eq.trans parts'.written_eq.symm
  subst same
  have rests := List.append_cancel_left (parts.chars_eq.symm.trans parts'.chars_eq)
  have flags := parts.brackets
  rw [rests, parts'.brackets] at flags
  exact ⟨rfl, (Option.some.inj flags).symm⟩

theorem attempt_eq_some_iff {chars written : List Char} {base : BaseType} {isArray : Bool} :
    ((takeName? base.name.toList chars).bind fun taken =>
        (takeBrackets? taken.2).bind fun isArray => some (taken.1, isArray)) =
      some (written, isArray) ↔ ∃ rest, Parts chars written rest base isArray := by
  have lower : ∀ letter ∈ base.name.toList, letter.isLower = true :=
    fun letter member => isLower_of_mem_name member
  simp only [Option.bind_eq_some_iff, Prod.exists, Option.some.injEq, Prod.mk.injEq]
  constructor
  · rintro ⟨_, rest, taken, _, brackets, rfl, rfl⟩
    obtain ⟨split, name⟩ := (takeName?_eq_some_iff lower).mp taken
    exact ⟨rest, split, name, brackets⟩
  · rintro ⟨rest, split, name, brackets⟩
    exact ⟨written, rest, (takeName?_eq_some_iff lower).mpr ⟨split, name⟩, isArray, brackets, rfl,
      rfl⟩

theorem exists_parts_of_split? {chars written : List Char} {isArray : Bool}
    (found : split? chars = some (written, isArray)) :
    ∃ base rest, Parts chars written rest base isArray := by
  obtain ⟨base, _, fits⟩ := List.exists_of_findSome?_eq_some found
  exact ⟨base, attempt_eq_some_iff.mp fits⟩

/-- The first base type that fits is the only one, so which of them is tried first does not
matter. -/
@[simp] theorem split?_eq_some_iff {chars written : List Char} {isArray : Bool} :
    split? chars = some (written, isArray) ↔
      ∃ base rest, Parts chars written rest base isArray := by
  refine ⟨exists_parts_of_split?, ?_⟩
  rintro ⟨base, rest, parts⟩
  have present : (split? chars).isSome = true := by
    rw [split?, List.findSome?_isSome_iff]
    refine ⟨base, by cases base <;> decide, ?_⟩
    exact Option.isSome_iff_exists.mpr ⟨_, attempt_eq_some_iff.mpr ⟨rest, parts⟩⟩
  obtain ⟨⟨written', isArray'⟩, found⟩ := Option.isSome_iff_exists.mp present
  obtain ⟨base', rest', parts'⟩ := exists_parts_of_split? found
  obtain ⟨rfl, rfl⟩ := parts.unique parts'
  exact found

/-! ## Texts around a spelling -/

section

variable {alike : Char → Char → Prop} {text : String} {pointType : PointType}

/-- A type that is written has a name in front, and neither end of it is blank. -/
theorem Writes.parts {core : List Char} (writes : Writes alike core pointType)
    (loose : ∀ letter c, alike letter c → FoldsTo letter c) :
    ∃ written rest, List.Forall₂ alike pointType.base.name.toList written ∧
      Parts core written rest pointType.base pointType.isArray ∧ core ≠ [] ∧
      (∀ c ∈ core.head?, isBlank c = false) ∧ ∀ c ∈ core.getLast?, isBlank c = false := by
  have filled : ∀ {base : BaseType} {written : List Char},
      List.Forall₂ alike base.name.toList written → written ≠ [] := by
    intro base written name
    rw [Ne, ← Outcome.eq_nil_iff name]
    cases base <;> decide
  have kept : ∀ {base : BaseType} {written : List Char},
      List.Forall₂ alike base.name.toList written → ∀ c ∈ written, isBlank c = false := by
    intro base written name c member
    obtain ⟨letter, letterMember, folds⟩ := Outcome.exists_of_mem_right name member
    exact (kept_of_foldsTo letterMember (loose letter c folds)).1
  cases writes with
  | @scalar base _ name =>
      refine ⟨core, [], name, ⟨by simp, name.imp loose, rfl⟩, filled name, ?_, ?_⟩
      · exact fun c first => kept name c (List.mem_of_mem_head? first)
      · exact fun c last => kept name c (List.mem_of_mem_getLast? last)
  | @array base written blanks name blank =>
      have brackets : takeBrackets? (blanks ++ ['[', ']']) = some true :=
        takeBrackets?_eq_some_iff.mpr ⟨blanks, blank, rfl⟩
      refine ⟨written, blanks ++ ['[', ']'], name,
        ⟨List.append_assoc .., name.imp loose, brackets⟩, by simp, ?_, ?_⟩
      · intro c first
        rw [List.append_assoc, List.head?_append_of_ne_nil _ (filled name)] at first
        exact kept name c (List.mem_of_mem_head? first)
      · intro c last
        rw [List.getLast?_append_of_ne_nil _ (by simp)] at last
        cases last
        decide

/-- A spelling is found between its blanks and taken apart. -/
theorem split?_of_spells (spelled : Spells alike text pointType)
    (loose : ∀ letter c, alike letter c → FoldsTo letter c) :
    ∃ written, split? (trim text).toList = some (written, pointType.isArray) ∧
      List.Forall₂ alike pointType.base.name.toList written := by
  obtain ⟨before, core, after, whole, blank, blank', writes⟩ := spelled
  obtain ⟨written, rest, name, parts, filled, first, last⟩ := writes.parts loose
  refine ⟨written, ?_, name⟩
  rw [trim, String.toList_ofList, whole, trimBy_append blank blank' filled first last]
  exact split?_eq_some_iff.mpr ⟨_, rest, parts⟩

/-- What was taken apart spells every type whose name is written alike. -/
theorem spells_of_split? {written : List Char} {isArray : Bool}
    (split : split? (trim text).toList = some (written, isArray)) {base : BaseType}
    (name : List.Forall₂ alike base.name.toList written) : Spells alike text ⟨base, isArray⟩ := by
  obtain ⟨_, rest, parts⟩ := split?_eq_some_iff.mp split
  obtain ⟨blanks, blank, follows⟩ := takeBrackets?_eq_some_iff.mp parts.brackets
  obtain ⟨before, after, whole, front, back⟩ := exists_trimBy isBlank text.toList
  have trimmed := parts.chars_eq
  rw [trim, String.toList_ofList, follows] at trimmed
  rw [trimmed] at whole
  cases isArray with
  | false =>
      refine ⟨before, written, blanks ++ after, by simpa using whole, front, ?_, .scalar name⟩
      exact List.forall_mem_append.mpr ⟨blank, back⟩
  | true =>
      exact ⟨before, written ++ blanks ++ ['[', ']'], after, by simpa using whole, front, back,
        .array name blank⟩

end

/-! ## Names of base types -/

@[simp] theorem ofName?_eq_some_iff {text : String} {base : BaseType} :
    BaseType.ofName? text = some base ↔ base.name = text := by
  constructor
  · intro found
    simpa using List.find?_some found
  · rintro rfl
    cases base <;> decide

@[simp] theorem ofBase_eq_ok_iff {name : String} {isArray : Bool} {pointType : PointType} :
    ofBase name isArray = .ok pointType ↔
      pointType.base.name = name ∧ isArray = pointType.isArray := by
  rw [← ofName?_eq_some_iff]
  unfold ofBase
  cases BaseType.ofName? name with
  | none => simp
  | some base =>
      cases pointType
      simp

/-- A name is lowered to small letters exactly if it is written with these, in either case. Of the
other ways to write a letter, one is lowered to two characters and the others stay as they are. -/
theorem flatMap_lowerLetter_eq_iff {letters written : List Char}
    (lower : ∀ letter ∈ letters, letter.isLower = true) :
    written.flatMap lowerLetter = letters ↔ List.Forall₂ IsCaseOf letters written := by
  induction written generalizing letters with
  | nil => simp [eq_comm]
  | cons c written ih =>
      by_cases dotted : c = 'İ'
      · subst dotted
        constructor
        · rintro rfl
          exact absurd (lower '\u0307' (by simp [lowerLetter])) (by decide)
        · intro alike
          cases alike with
          | @cons letter _ letters _ first rest =>
              have small := lower letter List.mem_cons_self
              obtain rfl := (toLower_eq_iff small).mpr first
              exact absurd small (by decide)
      · simp only [List.flatMap_cons, lowerLetter, if_neg dotted, List.singleton_append]
        constructor
        · rintro rfl
          rw [List.forall_mem_cons] at lower
          exact .cons ((toLower_eq_iff lower.1).mp rfl) ((ih lower.2).mp rfl)
        · intro alike
          cases alike with
          | cons first rest =>
              rw [List.forall_mem_cons] at lower
              rw [(toLower_eq_iff lower.1).mpr first, (ih lower.2).mpr rest]

/-! ## What the parser takes -/

theorem truthy_toText (text : String) :
    (if (Cell.text text).truthy then (Cell.text text).toText else .ok "") = .ok text := by
  split
  · rfl
  · next empty =>
      have nothing : text = "" := by simpa [Cell.truthy] using empty
      rw [nothing]

theorem parse_of_split? {text : String} {written : List Char} {isArray : Bool}
    (split : split? (trim text).toList = some (written, isArray)) :
    parse (.text text) = ofBase (String.ofList (written.flatMap lowerLetter)) isArray := by
  simp only [parse, truthy_toText, Outcome.mapError_ok, Outcome.ok_bind, split]

theorem parse_of_split?_eq_none {text : String} (split : split? (trim text).toList = none) :
    parse (.text text) = .error (.unknown (.text text)) := by
  simp only [parse, truthy_toText, Outcome.mapError_ok, Outcome.ok_bind, split]

theorem parse_eq_ok_iff {text : String} {pointType : PointType} :
    parse (.text text) = .ok pointType ↔ Spells IsCaseOf text pointType := by
  have lower : ∀ letter ∈ pointType.base.name.toList, letter.isLower = true :=
    fun letter member => isLower_of_mem_name member
  constructor
  · intro parsed
    cases split : split? (trim text).toList with
    | none =>
        rw [parse_of_split?_eq_none split] at parsed
        cases parsed
    | some found =>
        rw [parse_of_split? split] at parsed
        obtain ⟨name, flag⟩ := ofBase_eq_ok_iff.mp parsed
        rw [← String.toList_inj, String.toList_ofList, eq_comm,
          flatMap_lowerLetter_eq_iff lower] at name
        have spelled := spells_of_split? split name
        rwa [flag] at spelled
  · intro spelled
    obtain ⟨written, split, name⟩ := split?_of_spells spelled fun _ _ same => .inl same
    rw [parse_of_split? split, (flatMap_lowerLetter_eq_iff lower).mpr name, String.ofList_toList]
    exact ofBase_eq_ok_iff.mpr ⟨rfl, rfl⟩

/-- What the parser makes of a text. -/
structure ReadsText (text : String) : Prop where
  /-- The texts of a type are the spellings of its name in lower and upper case, with brackets if it
  is an array. -/
  ok_iff : ∀ pointType, parse (.text text) = .ok pointType ↔ Spells IsCaseOf text pointType
  /-- A text that spells a type only by letters of another kind is refused for its name, which is
  the name of no base type. -/
  badBase : (∀ pointType, ¬Spells IsCaseOf text pointType) →
    (∃ pointType, Spells FoldsTo text pointType) →
    ∃ name, (∀ base : BaseType, base.name ≠ name) ∧ parse (.text text) = .error (.badBase name)
  /-- Every other text is refused as a whole. -/
  unknown : (∀ pointType, ¬Spells FoldsTo text pointType) →
    parse (.text text) = .error (.unknown (.text text))

/-- The parser takes exactly the texts that spell a type and gives the type that they spell. -/
theorem readsText (text : String) : ReadsText text := by
  constructor
  case ok_iff => exact fun pointType => parse_eq_ok_iff
  case badBase =>
    rintro unspelled ⟨pointType, folded⟩
    obtain ⟨written, split, _⟩ := split?_of_spells folded fun _ _ folds => folds
    have parsed := parse_of_split? split
    cases named : BaseType.ofName? (String.ofList (written.flatMap lowerLetter)) with
    | some base =>
        simp only [ofBase, named] at parsed
        exact absurd (parse_eq_ok_iff.mp parsed) (unspelled _)
    | none =>
        simp only [ofBase, named] at parsed
        refine ⟨_, fun base same => ?_, parsed⟩
        rw [ofName?_eq_some_iff.mpr same] at named
        cases named
  case unknown =>
    intro unspelled
    cases split : split? (trim text).toList with
    | none => exact parse_of_split?_eq_none split
    | some found =>
        obtain ⟨base, _, parts⟩ := split?_eq_some_iff.mp split
        exact absurd (spells_of_split? split parts.name) (unspelled _)

example : (parse (.text "\u2003sHORT\u0085\t[] ")).toOption = some ⟨.short, true⟩ := by
  decide +kernel

end PointType

end PointTable
