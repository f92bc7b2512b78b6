/-!
# Mappings and groups in first-seen order

A mapping is a list of pairs in which a key keeps the place where it was first put and the value
that was put last. Grouping collects the items of one key in the order they come, and the groups in
the order their keys are first seen.
-/

namespace PointTable.Ordered

/-- Put a value under a key. A key that is there keeps its place. -/
def put {κ : Type} [DecidableEq κ] {α : Type} (key : κ) (value : α) :
    List (κ × α) → List (κ × α)
  | [] => [(key, value)]
  | (other, old) :: rest =>
    if other = key then (key, value) :: rest else (other, old) :: put key value rest

section

variable {κ α : Type} [DecidableEq κ]

@[simp] theorem put_keys (key : κ) (value : α) (mapping : List (κ × α)) :
    (put key value mapping).map Prod.fst =
      if key ∈ mapping.map Prod.fst then mapping.map Prod.fst
      else mapping.map Prod.fst ++ [key] := by
  induction mapping with
  | nil => rfl
  | cons pair rest ih =>
      obtain ⟨other, old⟩ := pair
      by_cases equal : other = key
      · simp [put, equal]
      · have different : ¬key = other := fun same => equal same.symm
        rw [put, if_neg equal, List.map_cons, ih]
        by_cases present : key ∈ rest.map Prod.fst
        · simp [present]
        · simp [present, different]

theorem lookup_cons_eq_ite (key other : κ) (value : α) (rest : List (κ × α)) :
    ((key, value) :: rest).lookup other =
      if other = key then some value else rest.lookup other := by
  rw [List.lookup_cons]
  by_cases equal : other = key
  · rw [if_pos equal, beq_iff_eq.mpr equal]
  · rw [if_neg equal, beq_eq_false_iff_ne.mpr equal]

/-- A put changes what is found under its key and under no other. -/
@[simp] theorem lookup_put (key other : κ) (value : α) (mapping : List (κ × α)) :
    (put key value mapping).lookup other =
      if other = key then some value else mapping.lookup other := by
  induction mapping with
  | nil => exact lookup_cons_eq_ite key other value []
  | cons pair rest ih =>
      obtain ⟨first, old⟩ := pair
      rw [put, lookup_cons_eq_ite]
      by_cases present : first = key
      · rw [if_pos present, lookup_cons_eq_ite, present]
        by_cases equal : other = key
        · rw [if_pos equal, if_pos equal]
        · rw [if_neg equal, if_neg equal, if_neg equal]
      · rw [if_neg present, lookup_cons_eq_ite, ih]
        by_cases equal : other = first
        · rw [if_pos equal, if_pos equal, if_neg (equal ▸ present)]
        · rw [if_neg equal, if_neg equal]

end

/-- The mapping of a list of pairs put one after the other. -/
def ofPairs {κ : Type} [DecidableEq κ] {α : Type} (pairs : List (κ × α)) : List (κ × α) :=
  pairs.foldl (fun mapping pair => put pair.1 pair.2 mapping) []

/-- Add an item to the group of its key. The group opens at the end if there is none. -/
def addToGroup {κ : Type} {α : Type} (same : κ → κ → Bool) (key : κ) (item : α) :
    List (κ × List α) → List (κ × List α)
  | [] => [(key, [item])]
  | (other, items) :: rest =>
    if same other key then (other, items ++ [item]) :: rest
    else (other, items) :: addToGroup same key item rest

/-- Group items by a key under a notion of sameness of keys. -/
def groupBy {κ : Type} {α : Type} (same : κ → κ → Bool) (key : α → κ) (items : List α) :
    List (κ × List α) :=
  items.foldl (fun groups item => addToGroup same (key item) item groups) []

end PointTable.Ordered
