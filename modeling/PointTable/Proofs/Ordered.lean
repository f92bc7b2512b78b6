import Mathlib.Data.List.Induction
import Mathlib.Data.List.Nodup
import PointTable.Ordered

/-!
# Mappings and groups

Pairs with distinct keys are their own mapping, since no put meets a key that is there; otherwise
the pair that is put last decides, and what was put before under its key is lost. Grouping neither
loses nor invents an item: every group is opened by one of its items, and all its items have the key
of the group. It looks at nothing but the keys, so it commutes with a map of the items and with
dropping the items of some keys.
-/

namespace PointTable.Ordered

/-! ## Mappings -/

section

variable {κ α : Type} [DecidableEq κ]

theorem put_of_not_mem {key : κ} {value : α} {mapping : List (κ × α)}
    (fresh : key ∉ mapping.map Prod.fst) :
    put key value mapping = mapping ++ [(key, value)] := by
  induction mapping with
  | nil => rfl
  | cons pair rest ih =>
      obtain ⟨other, old⟩ := pair
      rw [List.map_cons, List.mem_cons, not_or] at fresh
      have different : ¬other = key := fun equal => fresh.1 equal.symm
      rw [put, if_neg different, ih fresh.2, List.cons_append]

/-- Pairs whose keys are distinct among themselves and new to a mapping go to its end in order. -/
theorem foldl_put_of_nodup {mapping pairs : List (κ × α)}
    (distinct : ((mapping ++ pairs).map Prod.fst).Nodup) :
    pairs.foldl (fun mapping pair => put pair.1 pair.2 mapping) mapping = mapping ++ pairs := by
  induction pairs generalizing mapping with
  | nil => rw [List.foldl_nil, List.append_nil]
  | cons pair rest ih =>
      have fresh : pair.1 ∉ mapping.map Prod.fst := by
        rw [List.map_append, List.nodup_append] at distinct
        intro member
        exact distinct.2.2 _ member _ (by simp) rfl
      have shifted : mapping ++ [(pair.1, pair.2)] ++ rest = mapping ++ pair :: rest := by simp
      rw [List.foldl_cons, put_of_not_mem fresh, ih (shifted ▸ distinct), shifted]

theorem ofPairs_of_nodup {pairs : List (κ × α)} (distinct : (pairs.map Prod.fst).Nodup) :
    ofPairs pairs = pairs :=
  foldl_put_of_nodup distinct

/-- No key of a mapping is repeated, whatever pairs it is made of. -/
theorem ofPairs_keys_nodup (pairs : List (κ × α)) : ((ofPairs pairs).map Prod.fst).Nodup := by
  induction pairs using List.reverseRecOn with
  | nil => exact List.nodup_nil
  | append_singleton pairs pair ih =>
      rw [ofPairs, List.foldl_append, List.foldl_cons, List.foldl_nil, put_keys]
      split
      · exact ih
      · next fresh =>
          rw [← List.concat_eq_append]
          exact ih.concat fresh

theorem lookup_eq_some_of_mem {mapping : List (κ × α)} (distinct : (mapping.map Prod.fst).Nodup)
    {key : κ} {value : α} (member : (key, value) ∈ mapping) :
    mapping.lookup key = some value := by
  induction mapping with
  | nil => cases member
  | cons pair rest ih =>
      rw [List.map_cons, List.nodup_cons] at distinct
      rcases List.mem_cons.mp member with rfl | later
      · exact List.lookup_cons_self
      · have different : key ≠ pair.1 := by
          rintro rfl
          exact distinct.1 (List.mem_map.mpr ⟨_, later, rfl⟩)
        rw [List.lookup_cons, beq_false_of_ne different]
        exact ih distinct.2 later

theorem mem_of_lookup_eq_some {mapping : List (κ × α)} {key : κ} {value : α}
    (found : mapping.lookup key = some value) : (key, value) ∈ mapping := by
  obtain ⟨before, after, split, _⟩ := List.lookup_eq_some_iff.mp found
  rw [split]
  exact List.mem_append_right before List.mem_cons_self

theorem mem_keys_iff {mapping : List (κ × α)} {key : κ} :
    key ∈ mapping.map Prod.fst ↔ ∃ value, mapping.lookup key = some value := by
  rw [← Option.isSome_iff_exists]
  simp

/-- The value that is put last under a key is the one found there. -/
@[simp] theorem lookup_ofPairs (pairs : List (κ × α)) (key : κ) :
    (ofPairs pairs).lookup key = pairs.reverse.lookup key := by
  induction pairs using List.reverseRecOn with
  | nil => rfl
  | append_singleton pairs pair ih =>
      rw [ofPairs, List.foldl_append, List.foldl_cons, List.foldl_nil, lookup_put,
        List.reverse_concat, lookup_cons_eq_ite, ← ih]
      rfl

/-- The entries of a mapping are the pairs that are put last under their keys. -/
@[simp] theorem mem_ofPairs_iff {pairs : List (κ × α)} {key : κ} {value : α} :
    (key, value) ∈ ofPairs pairs ↔ pairs.reverse.lookup key = some value := by
  rw [← lookup_ofPairs]
  constructor
  · exact lookup_eq_some_of_mem (ofPairs_keys_nodup pairs)
  · exact mem_of_lookup_eq_some

/-- A pair in front of others is found only if its key is not put again. -/
theorem lookup_reverse_cons (pair : κ × α) (rest : List (κ × α)) (key : κ) :
    (pair :: rest).reverse.lookup key =
      (rest.reverse.lookup key).or (if key = pair.1 then some pair.2 else none) := by
  rw [List.reverse_cons, List.lookup_append, lookup_cons_eq_ite, List.lookup_nil]

theorem lookup_reverse_isSome {pairs : List (κ × α)} {key : κ} :
    (pairs.reverse.lookup key).isSome = true ↔ key ∈ pairs.map Prod.fst := by
  simp [Option.isSome_iff_exists, ← mem_keys_iff]

/-- A pair in front of others stays in the mapping unless its key is put again. -/
theorem ofPairs_cons_perm (pair : κ × α) (rest : List (κ × α)) :
    (ofPairs (pair :: rest)).Perm
      (if pair.1 ∈ rest.map Prod.fst then ofPairs rest else pair :: ofPairs rest) := by
  have nodup : ∀ pairs : List (κ × α), (ofPairs pairs).Nodup := fun pairs =>
    List.Nodup.of_map _ (ofPairs_keys_nodup pairs)
  by_cases again : pair.1 ∈ rest.map Prod.fst
  · rw [if_pos again, List.perm_ext_iff_of_nodup (nodup _) (nodup _)]
    intro ⟨key, value⟩
    rw [mem_ofPairs_iff, mem_ofPairs_iff, lookup_reverse_cons]
    by_cases same : key = pair.1
    · obtain ⟨last, found⟩ := Option.isSome_iff_exists.mp (lookup_reverse_isSome.mpr again)
      rw [same, found, Option.some_or]
    · rw [if_neg same, Option.or_none]
  · have absent : rest.reverse.lookup pair.1 = none := by
      rw [← Option.not_isSome_iff_eq_none, lookup_reverse_isSome]
      exact again
    have fresh : pair ∉ ofPairs rest := by
      intro member
      rw [mem_ofPairs_iff.mp member] at absent
      cases absent
    rw [if_neg again, List.perm_ext_iff_of_nodup (nodup _) ((nodup rest).cons fresh)]
    intro ⟨key, value⟩
    rw [mem_ofPairs_iff, List.mem_cons, mem_ofPairs_iff, lookup_reverse_cons]
    by_cases same : key = pair.1
    · simp [same, absent, Prod.ext_iff, eq_comm]
    · simp [same, Prod.ext_iff]

/-- Whether entries are dropped by their keys before or after a put makes no difference. -/
@[simp] theorem put_filter (keep : κ → Bool) (key : κ) (value : α) (mapping : List (κ × α)) :
    (put key value mapping).filter (fun pair => keep pair.1) =
      if keep key then put key value (mapping.filter fun pair => keep pair.1)
      else mapping.filter fun pair => keep pair.1 := by
  induction mapping with
  | nil => cases kept : keep key <;> simp [put, kept]
  | cons pair rest ih =>
      obtain ⟨other, old⟩ := pair
      rw [put]
      by_cases equal : other = key
      · subst equal
        cases kept : keep other <;> simp [kept, put]
      · rw [if_neg equal, List.filter_cons, ih]
        cases kept : keep other <;> cases keep key <;> simp [kept, put, equal]

/-- What is found under a key that is kept does not depend on the entries that are dropped. -/
theorem lookup_filter (keep : κ → Bool) {key : κ} (kept : keep key = true)
    (mapping : List (κ × α)) :
    (mapping.filter fun pair => keep pair.1).lookup key = mapping.lookup key := by
  induction mapping with
  | nil => rfl
  | cons pair rest ih =>
      obtain ⟨other, value⟩ := pair
      rw [List.filter_cons, lookup_cons_eq_ite]
      split
      · rw [lookup_cons_eq_ite, ih]
      · next dropped =>
          have different : key ≠ other := by
            rintro rfl
            exact dropped kept
          rw [ih, if_neg different]

theorem filter_eq_singleton {name : α → κ} {items : List α} (distinct : (items.map name).Nodup)
    {item : α} (member : item ∈ items) :
    (items.filter fun other => name other = name item) = [item] := by
  induction items with
  | nil => cases member
  | cons first rest ih =>
      rw [List.map_cons, List.nodup_cons] at distinct
      rcases List.mem_cons.mp member with rfl | later
      · have others : (rest.filter fun other => name other = name item) = [] := by
          apply List.filter_eq_nil_iff.mpr
          intro other otherMember same
          exact distinct.1 (of_decide_eq_true same ▸ List.mem_map_of_mem otherMember)
        rw [List.filter_cons_of_pos (by simp), others]
      · have different : name first ≠ name item := fun same =>
          distinct.1 (same ▸ List.mem_map_of_mem later)
        rw [List.filter_cons_of_neg (by simp [different]), ih distinct.2 later]

/-- At most one entry of a mapping has a key, and it is the one that is found. -/
theorem flatMap_filter_eq_lookup {β : Type} {mapping : List (κ × List β)}
    (distinct : (mapping.map Prod.fst).Nodup) (key : κ) :
    (mapping.filter fun pair => pair.1 = key).flatMap Prod.snd =
      (mapping.lookup key).getD [] := by
  cases found : mapping.lookup key with
  | some values =>
      rw [filter_eq_singleton distinct (mem_of_lookup_eq_some found), List.flatMap_singleton]
      rfl
  | none =>
      have absent : (mapping.filter fun pair => pair.1 = key) = [] := by
        apply List.filter_eq_nil_iff.mpr
        intro pair member same
        have different := List.lookup_eq_none_iff.mp found pair member
        simp_all
      rw [absent]
      rfl

theorem ofPairs_flatMap_length_le {β : Type} (pairs : List (κ × List β)) :
    ((ofPairs pairs).flatMap Prod.snd).length ≤ (pairs.flatMap Prod.snd).length := by
  induction pairs with
  | nil => exact Nat.le_refl _
  | cons pair rest ih =>
      have opened := ((ofPairs_cons_perm pair rest).flatMap_right Prod.snd).length_eq
      rw [opened, List.flatMap_cons, List.length_append]
      split
      · omega
      · rw [List.flatMap_cons, List.length_append]
        omega

/-- A mapping of lists loses no item exactly when only empty lists are overwritten. -/
theorem ofPairs_flatMap_length_eq_iff {β : Type} (pairs : List (κ × List β)) :
    ((ofPairs pairs).flatMap Prod.snd).length = (pairs.flatMap Prod.snd).length ↔
      pairs.Pairwise fun pair later => pair.1 = later.1 → pair.2 = [] := by
  induction pairs with
  | nil => simp [ofPairs]
  | cons pair rest ih =>
      have opened := ((ofPairs_cons_perm pair rest).flatMap_right Prod.snd).length_eq
      have bound := ofPairs_flatMap_length_le rest
      rw [opened, List.flatMap_cons, List.length_append, List.pairwise_cons, ← ih]
      by_cases again : pair.1 ∈ rest.map Prod.fst
      · rw [if_pos again]
        obtain ⟨later, member, equal⟩ := List.mem_map.mp again
        have emptied : (∀ later ∈ rest, pair.1 = later.1 → pair.2 = []) ↔ pair.2.length = 0 := by
          rw [List.length_eq_zero_iff]
          exact ⟨fun all => all later member equal.symm, fun empty _ _ _ => empty⟩
        rw [emptied]
        omega
      · rw [if_neg again, List.flatMap_cons, List.length_append]
        have fresh : ∀ later ∈ rest, pair.1 = later.1 → pair.2 = [] := by
          intro later member equal
          exact absurd (List.mem_map.mpr ⟨later, member, equal.symm⟩) again
        simp only [Nat.add_left_cancel_iff, iff_and_self]
        exact fun _ => fresh

end

/-! ## Groups -/

/-- What groups have to do with the items they are made of. -/
structure Groups {κ α : Type} (same : κ → κ → Bool) (key : α → κ) (items : List α)
    (groups : List (κ × List α)) : Prop where
  /-- A group has the key of one of its items. -/
  opened : ∀ group ∈ groups, ∃ item ∈ group.2, key item = group.1
  members : ∀ group ∈ groups, ∀ item ∈ group.2, item ∈ items ∧ same group.1 (key item) = true
  covers : ∀ item ∈ items, ∃ group ∈ groups, item ∈ group.2

/-- How groups keep the order of the items they are made of. -/
structure FirstSeen {κ α : Type} (same : κ → κ → Bool) (key : α → κ) (items : List α)
    (groups : List (κ × List α)) : Prop where
  /-- A group holds exactly the items of its key, in the order they come. -/
  members : ∀ group ∈ groups, group.2 = items.filter fun item => same group.1 (key item)
  /-- Groups come in the order in which their keys are first seen. -/
  ordered : groups.Pairwise fun group other =>
    items.findIdx (fun item => same group.1 (key item)) <
      items.findIdx fun item => same other.1 (key item)

section

variable {κ α : Type} {same : κ → κ → Bool} {key : α → κ}

/-- A group after an item is added: it was there, it has grown by the item, or the item opens it. -/
theorem mem_addToGroup {item : α} {groups : List (κ × List α)} {group : κ × List α}
    (member : group ∈ addToGroup same (key item) item groups) :
    group ∈ groups ∨
      (∃ old, (group.1, old) ∈ groups ∧ same group.1 (key item) = true ∧
        group.2 = old ++ [item]) ∨
      group = (key item, [item]) := by
  induction groups with
  | nil =>
      rw [addToGroup, List.mem_singleton] at member
      exact .inr (.inr member)
  | cons first rest ih =>
      obtain ⟨other, items⟩ := first
      unfold addToGroup at member
      split at member
      · next equal =>
          rcases List.mem_cons.mp member with rfl | later
          · exact .inr (.inl ⟨items, List.mem_cons_self, equal, rfl⟩)
          · exact .inl (List.mem_cons_of_mem _ later)
      · rcases List.mem_cons.mp member with rfl | later
        · exact .inl List.mem_cons_self
        · rcases ih later with present | ⟨old, present, equal, grown⟩ | opened
          · exact .inl (List.mem_cons_of_mem _ present)
          · exact .inr (.inl ⟨old, List.mem_cons_of_mem _ present, equal, grown⟩)
          · exact .inr (.inr opened)

/-- Adding an item keeps every group, perhaps grown. -/
theorem addToGroup_keeps (item : α) {groups : List (κ × List α)} {group : κ × List α}
    (member : group ∈ groups) :
    ∃ kept ∈ addToGroup same (key item) item groups, group.2 ⊆ kept.2 := by
  induction groups with
  | nil => cases member
  | cons first rest ih =>
      obtain ⟨other, items⟩ := first
      unfold addToGroup
      split
      · rcases List.mem_cons.mp member with rfl | later
        · exact ⟨(other, items ++ [item]), List.mem_cons_self, List.subset_append_left _ _⟩
        · exact ⟨group, List.mem_cons_of_mem _ later, List.Subset.refl _⟩
      · rcases List.mem_cons.mp member with rfl | later
        · exact ⟨(other, items), List.mem_cons_self, List.Subset.refl _⟩
        · obtain ⟨kept, keptMember, subset⟩ := ih later
          exact ⟨kept, List.mem_cons_of_mem _ keptMember, subset⟩

theorem addToGroup_covers (item : α) (groups : List (κ × List α)) :
    ∃ group ∈ addToGroup same (key item) item groups, item ∈ group.2 := by
  induction groups with
  | nil => exact ⟨(key item, [item]), List.mem_singleton_self _, List.mem_singleton_self _⟩
  | cons first rest ih =>
      obtain ⟨other, items⟩ := first
      unfold addToGroup
      split
      · exact ⟨(other, items ++ [item]), List.mem_cons_self, by simp⟩
      · obtain ⟨group, member, inside⟩ := ih
        exact ⟨group, List.mem_cons_of_mem _ member, inside⟩

/-- One more item keeps what groups have to do with their items. -/
theorem Groups.add {items : List α} {groups : List (κ × List α)}
    (grouped : Groups same key items groups) {item : α}
    (reflexive : same (key item) (key item) = true) :
    Groups same key (items ++ [item]) (addToGroup same (key item) item groups) := by
  constructor
  · intro group member
    rcases mem_addToGroup member with present | ⟨old, present, _, grown⟩ | rfl
    · exact grouped.opened group present
    · obtain ⟨first, firstMember, keyed⟩ := grouped.opened _ present
      exact ⟨first, grown ▸ List.mem_append_left _ firstMember, keyed⟩
    · exact ⟨item, List.mem_singleton_self _, rfl⟩
  · intro group member other inside
    rcases mem_addToGroup member with present | ⟨old, present, equal, grown⟩ | rfl
    · obtain ⟨known, keyed⟩ := grouped.members group present other inside
      exact ⟨List.mem_append_left _ known, keyed⟩
    · rw [grown, List.mem_append, List.mem_singleton] at inside
      rcases inside with before | rfl
      · obtain ⟨known, keyed⟩ := grouped.members _ present other before
        exact ⟨List.mem_append_left _ known, keyed⟩
      · exact ⟨by simp, equal⟩
    · obtain rfl := List.mem_singleton.mp inside
      exact ⟨by simp, reflexive⟩
  · intro other member
    rw [List.mem_append, List.mem_singleton] at member
    rcases member with before | rfl
    · obtain ⟨group, present, inside⟩ := grouped.covers other before
      obtain ⟨kept, keptMember, subset⟩ := addToGroup_keeps item present
      exact ⟨kept, keptMember, subset inside⟩
    · exact addToGroup_covers other groups

/-- Items go into groups of their own keys, and none is left out. -/
theorem groupBy_groups {items : List α}
    (reflexive : ∀ item ∈ items, same (key item) (key item) = true) :
    Groups same key items (groupBy same key items) := by
  induction items using List.reverseRecOn with
  | nil => exact ⟨by simp [groupBy], by simp [groupBy], by simp⟩
  | append_singleton items item ih =>
      have grouped := ih fun other member => reflexive other (List.mem_append_left _ member)
      rw [groupBy, List.foldl_append, List.foldl_cons, List.foldl_nil]
      exact grouped.add (reflexive item (by simp))

theorem addToGroup_flatMap_perm (groupKey : κ) (item : α) (groups : List (κ × List α)) :
    ((addToGroup same groupKey item groups).flatMap Prod.snd).Perm
      (groups.flatMap Prod.snd ++ [item]) := by
  induction groups with
  | nil => exact .refl _
  | cons first rest ih =>
      obtain ⟨other, items⟩ := first
      unfold addToGroup
      split
      · rw [List.flatMap_cons, List.flatMap_cons, List.append_assoc, List.append_assoc]
        exact List.perm_append_comm.append_left items
      · rw [List.flatMap_cons, List.flatMap_cons, List.append_assoc]
        exact ih.append_left items

variable (same key) in
/-- The groups together hold every item as often as it comes. -/
theorem groupBy_flatMap_perm (items : List α) :
    ((groupBy same key items).flatMap Prod.snd).Perm items := by
  induction items using List.reverseRecOn with
  | nil => exact .refl _
  | append_singleton items item ih =>
      rw [groupBy, List.foldl_append, List.foldl_cons, List.foldl_nil]
      exact (addToGroup_flatMap_perm (key item) item _).trans (ih.append_right [item])

theorem addToGroup_keys (groupKey : κ) (item : α) (groups : List (κ × List α)) :
    (addToGroup same groupKey item groups).map Prod.fst =
      if ∃ other ∈ groups.map Prod.fst, same other groupKey = true then groups.map Prod.fst
      else groups.map Prod.fst ++ [groupKey] := by
  induction groups with
  | nil => rfl
  | cons first rest ih =>
      obtain ⟨other, items⟩ := first
      by_cases equal : same other groupKey = true
      · simp [addToGroup, equal]
      · rw [addToGroup, if_neg equal, List.map_cons, ih, List.map_cons]
        by_cases present : ∃ key ∈ rest.map Prod.fst, same key groupKey = true
        · rw [if_pos present, if_pos (present.imp fun _ => And.imp_left (List.mem_cons_of_mem _))]
        · rw [if_neg present, if_neg]
          · rfl
          · rintro ⟨key, member, same⟩
            rcases List.mem_cons.mp member with rfl | later
            · exact equal same
            · exact present ⟨key, later, same⟩

variable (same key) in
/-- No two groups have the same key. -/
theorem groupBy_keys_pairwise (items : List α) :
    (groupBy same key items).Pairwise fun group other => same group.1 other.1 = false := by
  rw [← List.pairwise_map (f := Prod.fst) (R := fun groupKey other => same groupKey other = false)]
  induction items using List.reverseRecOn with
  | nil => exact .nil
  | append_singleton items item ih =>
      rw [groupBy, List.foldl_append, List.foldl_cons, List.foldl_nil, addToGroup_keys]
      split
      · exact ih
      · next fresh =>
          rw [List.pairwise_append]
          refine ⟨ih, List.pairwise_singleton _ _, ?_⟩
          rintro groupKey member _ last
          obtain rfl := List.mem_singleton.mp last
          rw [Bool.eq_false_iff]
          intro equal
          exact fresh ⟨groupKey, member, equal⟩

/-- Items of the first group's key go there, and the others are grouped as if it were not. -/
theorem foldl_addToGroup_cons (groupKey : κ) (members : List α) (groups : List (κ × List α))
    (items : List α) :
    items.foldl (fun groups item => addToGroup same (key item) item groups)
        ((groupKey, members) :: groups) =
      (groupKey, members ++ items.filter fun item => same groupKey (key item)) ::
        (items.filter fun item => !same groupKey (key item)).foldl
          (fun groups item => addToGroup same (key item) item groups) groups := by
  induction items generalizing members groups with
  | nil => simp
  | cons item rest ih =>
      rw [List.foldl_cons, addToGroup]
      cases equal : same groupKey (key item) with
      | true =>
          simp only [↓reduceIte, ih, equal, List.filter_cons_of_pos, Bool.not_true,
            List.filter_cons, Bool.false_eq_true, List.append_assoc, List.singleton_append]
      | false =>
          simp only [Bool.false_eq_true, ↓reduceIte, ih, equal, List.filter_cons, Bool.not_false,
            List.foldl_cons]

variable (same key) in
/-- The first group is opened by the first item and holds all items of its key. -/
theorem groupBy_cons (item : α) (rest : List α) :
    groupBy same key (item :: rest) =
      (key item, item :: rest.filter fun other => same (key item) (key other)) ::
        groupBy same key (rest.filter fun other => !same (key item) (key other)) :=
  foldl_addToGroup_cons (key item) [item] [] rest

variable (same key) in
/-- Induction along grouping: the first item takes the others of its key with it, and what is left
is grouped without them. -/
theorem groupBy_induction {motive : List α → Prop} (nil : motive [])
    (cons : ∀ item rest, motive (rest.filter fun other => !same (key item) (key other)) →
      motive (item :: rest)) (items : List α) : motive items := by
  induction counted : items.length using Nat.strongRecOn generalizing items with
  | ind count ih =>
      cases items with
      | nil => exact nil
      | cons item rest =>
          apply cons
          refine ih _ ?_ _ rfl
          rw [← counted, List.length_cons, Nat.lt_succ_iff]
          exact List.length_filter_le _ rest

theorem groupBy_rest_apart {item : α} {rest : List α} {group : κ × List α}
    (member : group ∈ groupBy same key (rest.filter fun other => !same (key item) (key other))) :
    same (key item) group.1 = false := by
  have apart := groupBy_keys_pairwise same key (item :: rest)
  rw [groupBy_cons, List.pairwise_cons] at apart
  exact apart.1 group member

/-- Dropping other items does not change which of two kinds of items comes first. -/
theorem findIdx_lt_of_filter {keep first second : α → Bool} {items : List α}
    (earlier : (items.filter keep).findIdx first < (items.filter keep).findIdx second) :
    items.findIdx (fun item => keep item && first item) <
      items.findIdx fun item => keep item && second item := by
  induction items with
  | nil => cases earlier
  | cons item rest ih =>
      rw [List.findIdx_cons, List.findIdx_cons]
      cases kept : keep item with
      | true =>
          rw [List.filter_cons_of_pos kept, List.findIdx_cons, List.findIdx_cons] at earlier
          cases isSecond : second item with
          | true =>
              rw [isSecond] at earlier
              cases earlier
          | false =>
              cases isFirst : first item with
              | true => exact Nat.succ_pos _
              | false =>
                  rw [isFirst, isSecond] at earlier
                  exact Nat.succ_lt_succ (ih (Nat.lt_of_succ_lt_succ earlier))
      | false =>
          rw [List.filter_cons_of_neg (by rw [kept]; exact Bool.false_ne_true)] at earlier
          exact Nat.succ_lt_succ (ih earlier)

section

variable (symmetric : ∀ left right, same left right = true → same right left = true)
  (transitive : ∀ left middle right, same left middle = true → same middle right = true →
    same left right = true)

include symmetric in
theorem same_comm (left right : κ) : same left right = same right left := by
  rw [Bool.eq_iff_iff]
  exact ⟨symmetric left right, symmetric right left⟩

include symmetric transitive in
theorem not_same_and_same {groupKey other : κ} (apart : same groupKey other = false)
    (itemKey : κ) : (!same groupKey itemKey && same other itemKey) = same other itemKey := by
  cases equal : same other itemKey with
  | false => rw [Bool.and_false]
  | true =>
      rw [Bool.and_true, Bool.not_eq_true', Bool.eq_false_iff]
      intro shared
      exact Bool.eq_false_iff.mp apart (transitive _ _ _ shared (symmetric _ _ equal))

include symmetric transitive in
theorem groupBy_members {items : List α}
    (reflexive : ∀ item ∈ items, same (key item) (key item) = true) :
    ∀ group ∈ groupBy same key items,
      group.2 = items.filter fun item => same group.1 (key item) := by
  induction items using groupBy_induction same key with
  | nil => simp [groupBy]
  | cons item rest ih =>
      rw [List.forall_mem_cons] at reflexive
      rw [groupBy_cons, List.forall_mem_cons]
      constructor
      · simp only [List.filter_cons, reflexive.1, if_true]
      · intro group member
        have apart := groupBy_rest_apart member
        have kept := funext fun other => not_same_and_same symmetric transitive apart (key other)
        rw [ih (fun other inside => reflexive.2 other (List.mem_of_mem_filter inside)) group member,
          List.filter_filter, List.filter_cons, ← same_comm symmetric, apart]
        simp only [Bool.and_comm (same group.1 _), kept, Bool.false_eq_true, if_false]

include symmetric transitive in
theorem groupBy_ordered {items : List α}
    (reflexive : ∀ item ∈ items, same (key item) (key item) = true) :
    (groupBy same key items).Pairwise fun group other =>
      items.findIdx (fun item => same group.1 (key item)) <
        items.findIdx fun item => same other.1 (key item) := by
  induction items using groupBy_induction same key with
  | nil => exact .nil
  | cons item rest ih =>
      rw [List.forall_mem_cons] at reflexive
      rw [groupBy_cons, List.pairwise_cons]
      constructor
      · intro group member
        have apart := groupBy_rest_apart member
        rw [same_comm symmetric] at apart
        simp only [List.findIdx_cons, reflexive.1, apart, cond_true, cond_false]
        exact Nat.succ_pos _
      · have later := ih fun other inside => reflexive.2 other (List.mem_of_mem_filter inside)
        refine later.imp_of_mem fun {group other} member otherMember earlier => ?_
        have apart := groupBy_rest_apart member
        have otherApart := groupBy_rest_apart otherMember
        have shifted := findIdx_lt_of_filter earlier
        simp only [not_same_and_same symmetric transitive apart,
          not_same_and_same symmetric transitive otherApart] at shifted
        rw [same_comm symmetric] at apart otherApart
        simp only [List.findIdx_cons, apart, otherApart, cond_false]
        exact Nat.succ_lt_succ shifted

include symmetric transitive in
theorem groupBy_firstSeen {items : List α}
    (reflexive : ∀ item ∈ items, same (key item) (key item) = true) :
    FirstSeen same key items (groupBy same key items) :=
  ⟨groupBy_members symmetric transitive reflexive, groupBy_ordered symmetric transitive reflexive⟩

end

/-- Whether groups are dropped by their keys before or after an item is added makes no
difference. -/
theorem addToGroup_filter {keep : κ → Bool}
    (respects : ∀ left right, same left right = true → keep left = keep right) (groupKey : κ)
    (item : α) (groups : List (κ × List α)) :
    (addToGroup same groupKey item groups).filter (fun group => keep group.1) =
      if keep groupKey then
        addToGroup same groupKey item (groups.filter fun group => keep group.1)
      else groups.filter fun group => keep group.1 := by
  induction groups with
  | nil => cases kept : keep groupKey <;> simp [addToGroup, kept]
  | cons first rest ih =>
      obtain ⟨other, members⟩ := first
      rw [addToGroup]
      cases equal : same other groupKey with
      | true =>
          have agree := respects other groupKey equal
          cases kept : keep groupKey <;> simp [agree, kept, addToGroup, equal]
      | false =>
          simp only [Bool.false_eq_true, ↓reduceIte, List.filter_cons, ih]
          cases keep other <;> cases keep groupKey <;> simp [addToGroup, equal]

/-- Grouping only the items of some keys gives the groups of these keys. -/
theorem groupBy_filter {keep : κ → Bool}
    (respects : ∀ left right, same left right = true → keep left = keep right) (items : List α) :
    (groupBy same key items).filter (fun group => keep group.1) =
      groupBy same key (items.filter fun item => keep (key item)) := by
  induction items using List.reverseRecOn with
  | nil => rfl
  | append_singleton items item ih =>
      rw [groupBy] at ih
      rw [groupBy, List.foldl_append, List.foldl_cons, List.foldl_nil, addToGroup_filter respects,
        ih, List.filter_append]
      cases kept : keep (key item) with
      | true => simp [kept, groupBy]
      | false => simp [kept]

theorem addToGroup_map {β : Type} (image : α → β) (groupKey : κ) (item : α)
    (groups : List (κ × List α)) :
    addToGroup same groupKey (image item) (groups.map fun group => (group.1, group.2.map image)) =
      (addToGroup same groupKey item groups).map fun group => (group.1, group.2.map image) := by
  induction groups with
  | nil => rfl
  | cons first rest ih =>
      obtain ⟨other, items⟩ := first
      rw [List.map_cons, addToGroup, addToGroup]
      split
      · rw [List.map_cons, List.map_append]
        rfl
      · rw [List.map_cons, ih]

/-- Only the keys of items matter for grouping: it commutes with a map of the items. -/
@[simp] theorem groupBy_map {β : Type} (same : κ → κ → Bool) (key : β → κ) (image : α → β)
    (items : List α) :
    groupBy same key (items.map image) =
      (groupBy same (fun item => key (image item)) items).map fun group =>
        (group.1, group.2.map image) := by
  induction items using List.reverseRecOn with
  | nil => rfl
  | append_singleton items item ih =>
      rw [groupBy] at ih
      rw [List.map_append, List.map_singleton, groupBy, groupBy, List.foldl_append,
        List.foldl_append, ih, List.foldl_cons, List.foldl_nil, List.foldl_cons, List.foldl_nil,
        addToGroup_map]
      rfl

end

end PointTable.Ordered
