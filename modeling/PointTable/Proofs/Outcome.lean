import Mathlib.Data.List.Forall2

/-!
# Outcomes of fallible steps

The stages of the library are chains of steps that either give a value or a fault. The lemmas here
take such a chain apart from its outcome, once and for all, so that no later proof has to unfold a
monad. A list of steps succeeds exactly when every step does, and fails with its first fault.
-/

namespace PointTable.Outcome

variable {ε φ α β : Type}

@[simp] theorem pure_eq_ok (value : α) :
    (pure value : Except ε α) = .ok value := rfl

@[simp] theorem ok_bind (value : α) (next : α → Except ε β) :
    (Except.ok value >>= next) = next value := rfl

@[simp] theorem error_bind (fault : ε) (next : α → Except ε β) :
    (Except.error fault >>= next) = .error fault := rfl

@[simp] theorem mapError_ok (wrap : ε → φ) (value : α) :
    (Except.ok value).mapError wrap = .ok value := rfl

@[simp] theorem mapError_error (wrap : ε → φ) (fault : ε) :
    (Except.error fault : Except ε α).mapError wrap = .error (wrap fault) := rfl

@[simp] theorem map_ok (f : α → β) (value : α) :
    (Except.ok value : Except ε α).map f = .ok (f value) := rfl

@[simp] theorem map_error (f : α → β) (fault : ε) :
    (Except.error fault : Except ε α).map f = .error fault := rfl

/-- A chain gives a value exactly when its first step does and the rest does after it. -/
@[simp] theorem bind_eq_ok {step : Except ε α} {next : α → Except ε β} {result : β} :
    (step >>= next) = .ok result ↔
      ∃ value, step = .ok value ∧ next value = .ok result := by
  cases step with
  | error fault =>
      constructor
      · intro impossible
        cases impossible
      · rintro ⟨value, impossible, _⟩
        cases impossible
  | ok value =>
      constructor
      · intro rest
        exact ⟨value, rfl, rest⟩
      · rintro ⟨other, equal, rest⟩
        cases equal
        exact rest

@[simp] theorem bind_eq_error {step : Except ε α} {next : α → Except ε β} {fault : ε} :
    (step >>= next) = .error fault ↔
      step = .error fault ∨ ∃ value, step = .ok value ∧ next value = .error fault := by
  cases step <;> simp

@[simp] theorem mapError_eq_ok {step : Except ε α} {wrap : ε → φ} {value : α} :
    step.mapError wrap = .ok value ↔ step = .ok value := by
  cases step <;> simp

@[simp] theorem mapError_eq_error {step : Except ε α} {wrap : ε → φ} {fault : φ} :
    step.mapError wrap = .error fault ↔ ∃ cause, step = .error cause ∧ wrap cause = fault := by
  cases step <;> simp

@[simp] theorem map_eq_ok {step : Except ε α} {f : α → β} {result : β} :
    step.map f = .ok result ↔ ∃ value, step = .ok value ∧ f value = result := by
  cases step <;> simp

@[simp] theorem map_eq_error {step : Except ε α} {f : α → β} {fault : ε} :
    step.map f = .error fault ↔ step = .error fault := by
  cases step <;> simp

/-- An outcome whose value is known is that value. -/
theorem eq_ok_of_toOption {step : Except ε α} {value : α} (known : step.toOption = some value) :
    step = .ok value := by
  cases step with
  | error fault => cases known
  | ok other =>
      cases known
      rfl

theorem exists_ok_of_toBool {step : Except ε α} (succeeds : step.toBool = true) :
    ∃ value, step = .ok value := by
  cases step with
  | error fault => cases succeeds
  | ok value => exact ⟨value, rfl⟩

/-- The fault of a step that fails. -/
def fault? : Except ε α → Option ε
  | .error fault => some fault
  | .ok _ => none

theorem eq_error_of_fault? {step : Except ε α} {fault : ε} (known : fault? step = some fault) :
    step = .error fault := by
  cases step with
  | error other =>
      cases known
      rfl
  | ok value => cases known

/-- A step fails if anything is known of its fault. -/
theorem exists_error_of_fault? {step : Except ε α} {view : ε → β} {seen : β}
    (known : (fault? step).map view = some seen) :
    ∃ fault, step = .error fault ∧ view fault = seen := by
  obtain ⟨fault, failed, viewed⟩ := Option.map_eq_some_iff.mp known
  exact ⟨fault, eq_error_of_fault? failed, viewed⟩

/-- Steps taken for every item of a list give the list of their values, position by position. -/
@[simp] theorem mapM_eq_ok {step : α → Except ε β} {items : List α} {values : List β} :
    items.mapM step = .ok values ↔
      List.Forall₂ (fun item value => step item = .ok value) items values := by
  induction items generalizing values with
  | nil =>
      simp [eq_comm]
  | cons item rest ih =>
      simp only [List.mapM_cons, bind_eq_ok, pure_eq_ok, ih, List.forall₂_cons_left_iff,
        Except.ok.injEq]
      constructor
      · rintro ⟨value, first, others, remaining, rfl⟩
        exact ⟨value, others, first, remaining, rfl⟩
      · rintro ⟨value, others, first, remaining, rfl⟩
        exact ⟨value, first, others, remaining, rfl⟩

/-- Steps taken for every item of a list fail with the fault of the first step that does. -/
theorem mapM_eq_error {step : α → Except ε β} {items : List α} {fault : ε} :
    items.mapM step = .error fault ↔
      ∃ before item after, items = before ++ item :: after ∧
        (∀ earlier ∈ before, ∃ value, step earlier = .ok value) ∧ step item = .error fault := by
  induction items with
  | nil => simp
  | cons first rest ih =>
      simp only [List.mapM_cons, bind_eq_error, ih, pure_eq_ok, reduceCtorEq, and_false,
        exists_const, or_false]
      constructor
      · rintro (failed | ⟨value, read, before, item, after, rfl, earlier, failed⟩)
        · exact ⟨[], first, rest, rfl, by simp, failed⟩
        · refine ⟨first :: before, item, after, rfl, ?_, failed⟩
          exact List.forall_mem_cons.mpr ⟨⟨value, read⟩, earlier⟩
      · rintro ⟨before, item, after, split, earlier, failed⟩
        cases before with
        | nil =>
            cases split
            exact .inl failed
        | cons head before =>
            cases split
            obtain ⟨⟨value, read⟩, later⟩ := List.forall_mem_cons.mp earlier
            exact .inr ⟨value, read, before, item, after, rfl, later, failed⟩

@[simp] theorem forM_eq_ok {step : α → Except ε Unit} {items : List α} :
    forM items step = .ok () ↔ ∀ item ∈ items, step item = .ok () := by
  induction items with
  | nil => simp
  | cons item rest ih =>
      rw [List.forM_cons, bind_eq_ok, List.forall_mem_cons, ← ih]
      exact ⟨fun ⟨_, passed, later⟩ => ⟨passed, later⟩, fun ⟨passed, later⟩ => ⟨(), passed, later⟩⟩

theorem forM_eq_map_mapM (step : α → Except ε Unit) (items : List α) :
    forM items step = (items.mapM step).map fun _ => () := by
  induction items with
  | nil => rfl
  | cons item rest ih =>
      rw [List.forM_cons, List.mapM_cons, ih]
      cases step item with
      | error fault => rfl
      | ok done => cases List.mapM step rest <;> rfl

theorem forM_eq_error {step : α → Except ε Unit} {items : List α} {fault : ε} :
    forM items step = .error fault ↔
      ∃ before item after, items = before ++ item :: after ∧
        (∀ earlier ∈ before, step earlier = .ok ()) ∧ step item = .error fault := by
  have passed : ∀ item, (∃ done, step item = .ok done) ↔ step item = .ok () := fun item =>
    ⟨fun ⟨_, done⟩ => done, fun done => ⟨(), done⟩⟩
  simp only [forM_eq_map_mapM, map_eq_error, mapM_eq_error, passed]

/-! ## Lists that correspond position by position -/

variable {relation : α → β → Prop} {items : List α} {values : List β}

theorem exists_forall₂ (every : ∀ item ∈ items, ∃ value, relation item value) :
    ∃ values, List.Forall₂ relation items values := by
  induction items with
  | nil => exact ⟨[], .nil⟩
  | cons item rest ih =>
      obtain ⟨value, first⟩ := every item List.mem_cons_self
      obtain ⟨values, remaining⟩ := ih fun other member =>
        every other (List.mem_cons_of_mem item member)
      exact ⟨value :: values, .cons first remaining⟩

theorem mapM_ok_of_forall {step : α → Except ε β}
    (every : ∀ item ∈ items, ∃ value, step item = .ok value) :
    ∃ values, items.mapM step = .ok values := by
  obtain ⟨values, related⟩ := exists_forall₂ every
  exact ⟨values, mapM_eq_ok.mpr related⟩

theorem mapM_congr {γ : Type} {step : α → Except ε γ} {other : β → Except ε γ}
    (related : List.Forall₂ (fun item value => step item = other value) items values) :
    items.mapM step = values.mapM other := by
  induction related with
  | nil => rfl
  | cons first _ ih => rw [List.mapM_cons, List.mapM_cons, first, ih]

/-- Where every step gives a value, these are all values that the steps give. -/
theorem filterMap_toOption {step : α → Except ε β}
    (related : List.Forall₂ (fun item value => step item = .ok value) items values) :
    items.filterMap (fun item => (step item).toOption) = values := by
  induction related with
  | nil => rfl
  | cons first _ ih =>
      rw [List.filterMap_cons, first, ih]
      rfl

theorem exists_of_mem_right (related : List.Forall₂ relation items values) {value : β}
    (member : value ∈ values) : ∃ item ∈ items, relation item value := by
  induction related with
  | nil => cases member
  | cons first _ ih =>
      rcases List.mem_cons.mp member with rfl | later
      · exact ⟨_, List.mem_cons_self, first⟩
      · obtain ⟨item, itemMember, found⟩ := ih later
        exact ⟨item, List.mem_cons_of_mem _ itemMember, found⟩

theorem exists_of_mem_left (related : List.Forall₂ relation items values) {item : α}
    (member : item ∈ items) : ∃ value ∈ values, relation item value :=
  exists_of_mem_right related.flip member

theorem exists_mem_zip (lengths : items.length = values.length) {item : α}
    (member : item ∈ items) : ∃ value, (item, value) ∈ items.zip values := by
  rw [← List.map_fst_zip (Nat.le_of_eq lengths)] at member
  obtain ⟨⟨_, value⟩, pairMember, rfl⟩ := List.mem_map.mp member
  exact ⟨value, pairMember⟩

/-- Corresponding positions with equal images give equal lists of images. -/
theorem map_eq_map {γ : Type} {left : α → γ} {right : β → γ}
    (related : List.Forall₂ relation items values)
    (equal : ∀ item value, relation item value → left item = right value) :
    items.map left = values.map right := by
  rw [← List.forall₂_eq_eq_eq, List.forall₂_map_left_iff, List.forall₂_map_right_iff]
  exact related.imp equal

/-- What two items have to do with each other is what the corresponding values have to do with each
other, so it holds throughout one list if it does throughout the other. -/
theorem pairwise_iff {left : α → α → Prop} {right : β → β → Prop}
    (related : List.Forall₂ relation items values)
    (same : ∀ item value other otherValue, relation item value → relation other otherValue →
      (left item other ↔ right value otherValue)) :
    items.Pairwise left ↔ values.Pairwise right := by
  induction related with
  | nil => simp
  | @cons item value items values first rest ih =>
      rw [List.pairwise_cons, List.pairwise_cons, ih]
      apply and_congr_left
      intro _
      constructor
      · intro every otherValue member
        obtain ⟨other, otherMember, found⟩ := exists_of_mem_right rest member
        exact (same _ _ _ _ first found).mp (every other otherMember)
      · intro every other member
        obtain ⟨otherValue, otherMember, found⟩ := exists_of_mem_left rest member
        exact (same _ _ _ _ first found).mpr (every otherValue otherMember)

theorem eq_nil_iff (related : List.Forall₂ relation items values) :
    items = [] ↔ values = [] := by
  cases related <;> simp

end PointTable.Outcome
