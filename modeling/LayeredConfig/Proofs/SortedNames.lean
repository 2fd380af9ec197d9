import Mathlib.Data.List.Sort
import Mathlib.Data.String.Basic
import LayeredConfig.Config.Basic

/-!
The names of a configuration come in strictly ascending order. So they depend on nothing but
which names there are, however often and in whatever order the sources list them.
-/

namespace LayeredConfig.Config

private theorem eraseReps_loop (first : String) (rest done : List String) :
    List.eraseRepsBy.loop (· == ·) first rest done = done.reverse ++ (first :: rest).eraseReps := by
  induction rest generalizing first done with
  | nil =>
      simp [List.eraseRepsBy.loop, List.eraseReps, List.eraseRepsBy]
  | cons second others inductionHypothesis =>
      rw [List.eraseRepsBy.loop, List.eraseReps, List.eraseRepsBy, List.eraseRepsBy.loop]
      cases first == second with
      | true =>
          simp only [inductionHypothesis, List.reverse_nil, List.nil_append]
      | false =>
          simp only [inductionHypothesis]
          simp

private theorem eraseReps_cons_cons (first second : String) (rest : List String) :
    (first :: second :: rest).eraseReps =
      if first = second then (first :: rest).eraseReps
      else first :: (second :: rest).eraseReps := by
  rw [List.eraseReps, List.eraseRepsBy, List.eraseRepsBy.loop]
  by_cases same : first = second
  · simp [same, eraseReps_loop]
  · have differs : (first == second) = false := beq_eq_false_iff_ne.mpr same
    simp [same, differs, eraseReps_loop]

private theorem mem_eraseReps {name : String} {names : List String} :
    name ∈ names.eraseReps ↔ name ∈ names := by
  induction names with
  | nil =>
      rfl
  | cons first rest inductionHypothesis =>
      cases rest with
      | nil =>
          rfl
      | cons second others =>
          rw [eraseReps_cons_cons]
          split
          · rename_i same
            subst same
            have later : name ∈ (first :: others).eraseReps ↔ name ∈ first :: others :=
              inductionHypothesis
            rw [later]
            simp
          · rw [List.mem_cons, inductionHypothesis, List.mem_cons (l := second :: others)]

private theorem pairwise_lt_eraseReps {names : List String} (ascending : names.Pairwise (· ≤ ·)) :
    names.eraseReps.Pairwise (· < ·) := by
  induction names with
  | nil =>
      exact List.Pairwise.nil
  | cons first rest inductionHypothesis =>
      obtain ⟨least, restAscending⟩ := List.pairwise_cons.mp ascending
      have later := inductionHypothesis restAscending
      cases rest with
      | nil =>
          exact List.pairwise_singleton _ _
      | cons second others =>
          rw [eraseReps_cons_cons]
          split
          · rename_i same
            rw [same]
            exact later
          · rename_i different
            refine List.pairwise_cons.mpr ⟨?_, later⟩
            intro name member
            have below : second ≤ name := by
              rcases List.mem_cons.mp (mem_eraseReps.mp member) with rfl | further
              · exact le_refl _
              · exact (List.pairwise_cons.mp restAscending).1 name further
            have step : first < second :=
              lt_of_le_of_ne (least second List.mem_cons_self) different
            exact lt_of_lt_of_le step below

theorem mem_sortedNames {name : String} {names : List String} :
    name ∈ sortedNames names ↔ name ∈ names := by
  rw [sortedNames, mem_eraseReps, List.mem_mergeSort]

theorem pairwise_lt_sortedNames (names : List String) :
    (sortedNames names).Pairwise (· < ·) := by
  apply pairwise_lt_eraseReps
  have transitive : ∀ a b c : String,
      decide (a ≤ b) = true → decide (b ≤ c) = true → decide (a ≤ c) = true := by
    intro a b c first second
    exact decide_eq_true (String.le_trans (of_decide_eq_true first) (of_decide_eq_true second))
  have total : ∀ a b : String, (decide (a ≤ b) || decide (b ≤ a)) = true := by
    intro a b
    rw [Bool.or_eq_true, decide_eq_true_eq, decide_eq_true_eq]
    exact String.le_total a b
  exact (List.pairwise_mergeSort transitive total names).imp of_decide_eq_true

/-- Lists of the same names are sorted alike. -/
theorem sortedNames_eq_of_mem_iff {first second : List String}
    (same : ∀ name, name ∈ first ↔ name ∈ second) :
    sortedNames first = sortedNames second := by
  have firstSorted := pairwise_lt_sortedNames first
  have secondSorted := pairwise_lt_sortedNames second
  have permutation : (sortedNames first).Perm (sortedNames second) := by
    rw [List.perm_ext_iff_of_nodup (firstSorted.imp ne_of_lt) (secondSorted.imp ne_of_lt)]
    intro name
    rw [mem_sortedNames, mem_sortedNames, same]
  exact permutation.eq_of_pairwise (fun left right _ _ less greater =>
    absurd less (lt_asymm greater)) firstSorted secondSorted

theorem mem_propertyNames {config : Config} {world : World} {name : String} :
    name ∈ config.propertyNames world ↔
      ∃ source ∈ config.sources, name ∈ (source.properties world).names := by
  rw [propertyNames, mem_sortedNames, List.mem_flatMap]

end LayeredConfig.Config
