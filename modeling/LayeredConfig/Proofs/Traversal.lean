import Mathlib.Data.List.Forall2

/-!
A list is traversed by a function that may fail for any of its members. The traversal succeeds
exactly if the function does for every member, and its result pairs up with the list. Otherwise
it fails with the first of the failures.
-/

namespace LayeredConfig.Traversal

variable {ε α β : Type}

/-- A sequence of two computations succeeds with what the second one makes of the result of
the first. -/
theorem bind_eq_ok_iff {first : Except ε α} {next : α → Except ε β} {result : β} :
    (first >>= next) = .ok result ↔ ∃ value, first = .ok value ∧ next value = .ok result := by
  cases first with
  | error e => simp [bind, Except.bind]
  | ok value => simp [bind, Except.bind]

theorem map_eq_ok_iff {computation : Except ε α} {f : α → β} {result : β} :
    computation.map f = .ok result ↔ ∃ value, computation = .ok value ∧ f value = result := by
  cases computation with
  | error e => simp [Except.map]
  | ok value => simp [Except.map]

theorem map_eq_error_iff {computation : Except ε α} {f : α → β} {failure : ε} :
    computation.map f = .error failure ↔ computation = .error failure := by
  cases computation with
  | error e => simp [Except.map]
  | ok value => simp [Except.map]

/-- A traversal succeeds exactly with the results of the members in their order. -/
theorem mapM_eq_ok_iff {f : α → Except ε β} {items : List α} {results : List β} :
    items.mapM f = .ok results ↔
      List.Forall₂ (fun item result => f item = .ok result) items results := by
  induction items generalizing results with
  | nil =>
      rw [List.mapM_nil, List.forall₂_nil_left_iff]
      constructor
      · intro succeeded
        exact (Except.ok.inj succeeded).symm
      · intro empty
        rw [empty]
        rfl
  | cons item rest inductionHypothesis =>
      rw [List.mapM_cons, bind_eq_ok_iff, List.forall₂_cons_left_iff]
      constructor
      · intro succeeded
        obtain ⟨value, head, remainder⟩ := succeeded
        obtain ⟨values, tail, final⟩ := bind_eq_ok_iff.mp remainder
        exact ⟨value, values, head, inductionHypothesis.mp tail, (Except.ok.inj final).symm⟩
      · intro paired
        obtain ⟨value, values, head, tail, rfl⟩ := paired
        exact ⟨value, head,
          bind_eq_ok_iff.mpr ⟨values, inductionHypothesis.mpr tail, rfl⟩⟩

/-- What a computation fails with, if it does. -/
def failure? : Except ε α → Option ε
  | .error failure => some failure
  | .ok _ => none

theorem failure?_eq_some_iff {computation : Except ε α} {failure : ε} :
    failure? computation = some failure ↔ computation = .error failure := by
  cases computation with
  | error other => simp [failure?]
  | ok value => simp [failure?]

theorem failure?_eq_none_iff {computation : Except ε α} :
    failure? computation = none ↔ ∃ value, computation = .ok value := by
  cases computation with
  | error other => simp [failure?]
  | ok value => simp [failure?]

/-- A computation that fails with the first of several failures, and succeeds if there are
none. -/
def FailsFirst (computation : Except ε α) (failures : List ε) : Prop :=
  failure? computation = failures.head?

theorem FailsFirst.eq_error_iff {computation : Except ε α} {failures : List ε}
    (fails : FailsFirst computation failures) {failure : ε} :
    computation = .error failure ↔ failures.head? = some failure := by
  rw [← fails, failure?_eq_some_iff]

/-- A computation succeeds exactly if there is nothing for it to fail with. -/
theorem FailsFirst.exists_ok_iff {computation : Except ε α} {failures : List ε}
    (fails : FailsFirst computation failures) :
    (∃ value, computation = .ok value) ↔ failures = [] := by
  rw [← List.head?_eq_none_iff, ← fails, failure?_eq_none_iff]

theorem failsFirst_self (computation : Except ε α) :
    FailsFirst computation (failure? computation).toList := by
  cases computation <;> rfl

theorem failure?_map (computation : Except ε α) (f : α → β) :
    failure? (computation.map f) = failure? computation := by
  cases computation <;> rfl

theorem FailsFirst.map {computation : Except ε α} {failures : List ε}
    (fails : FailsFirst computation failures) (f : α → β) :
    FailsFirst (computation.map f) failures :=
  (failure?_map computation f).trans fails

/-- In a sequence the failures of the second computation follow those of the first. -/
theorem FailsFirst.bind {computation : Except ε α} {next : α → Except ε β}
    {failures further : List ε} (fails : FailsFirst computation failures)
    (nextFails : ∀ value, FailsFirst (next value) further) :
    FailsFirst (computation >>= next) (failures ++ further) := by
  rw [FailsFirst, List.head?_append]
  cases computation with
  | error failure =>
      have first : some failure = failures.head? := fails
      rw [← first]
      rfl
  | ok value =>
      have none : none = failures.head? := fails
      rw [← none]
      exact nextFails value

theorem FailsFirst.bind_pure {computation : Except ε α} {failures : List ε}
    (fails : FailsFirst computation failures) (f : α → β) :
    FailsFirst (computation >>= fun value => pure (f value)) failures := by
  cases computation with
  | error failure => exact fails
  | ok value => exact fails

/-- A traversal comes to the failures of its members in their order. -/
theorem failsFirst_mapM {f : α → Except ε β} {failures : α → List ε}
    (fails : ∀ item, FailsFirst (f item) (failures item)) (items : List α) :
    FailsFirst (items.mapM f) (items.flatMap failures) := by
  induction items with
  | nil => rfl
  | cons item rest inductionHypothesis =>
      rw [List.mapM_cons, List.flatMap_cons]
      exact (fails item).bind fun value => inductionHypothesis.bind_pure (value :: ·)

theorem failsFirst_mapM_filterMap (f : α → Except ε β) (items : List α) :
    FailsFirst (items.mapM f) (items.filterMap fun item => failure? (f item)) := by
  rw [List.filterMap_eq_flatMap_toList]
  exact failsFirst_mapM (fun item => failsFirst_self (f item)) items

/-- A traversal fails with the failure of the first member that fails. -/
theorem mapM_eq_error_iff {f : α → Except ε β} {items : List α} {failure : ε} :
    items.mapM f = .error failure ↔
      ∃ earlier item later, items = earlier ++ item :: later ∧
        (∀ other ∈ earlier, ∃ result, f other = .ok result) ∧ f item = .error failure := by
  rw [(failsFirst_mapM_filterMap f items).eq_error_iff, List.head?_filterMap,
    List.findSome?_eq_some_iff]
  simp only [failure?_eq_some_iff, failure?_eq_none_iff]
  constructor
  · intro found
    obtain ⟨earlier, item, later, split, fails, succeed⟩ := found
    exact ⟨earlier, item, later, split, succeed, fails⟩
  · intro found
    obtain ⟨earlier, item, later, split, succeed, fails⟩ := found
    exact ⟨earlier, item, later, split, fails, succeed⟩

/-- A part that is computed only on demand fails only on demand. -/
theorem FailsFirst.onDemand {computation : Except ε α} {failures : List ε}
    (fails : FailsFirst computation failures) (asked : Bool) (absent : α) :
    FailsFirst (if asked then computation else .ok absent) (if asked then failures else []) := by
  cases asked with
  | true => exact fails
  | false => rfl

end LayeredConfig.Traversal
