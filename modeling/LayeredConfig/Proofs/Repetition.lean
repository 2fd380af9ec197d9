import Mathlib.Data.List.Induction
import LayeredConfig.Proofs.Foremost

/-!
A list is lengthened by items that it holds already, each of them put in again somewhere behind
its first occurrence. Such an item comes too late to be the foremost one: the first occurrence
carries the same number and stands before it.
-/

namespace LayeredConfig

variable {α β : Type} {items longer : List α}

/-- The second list is the first one, lengthened by items that stand before the places where
they are put in again. -/
inductive Repeats (items : List α) : List α → Prop
  | refl : Repeats items items
  | again {before after : List α} {item : α} :
      Repeats items (before ++ after) → item ∈ before →
      Repeats items (before ++ item :: after)

namespace Repeats

theorem mem_iff
    (repeats : Repeats items longer) {item : α} :
    item ∈ longer ↔ item ∈ items := by
  induction repeats with
  | refl =>
      rfl
  | @again before after repeated earlier known inductionHypothesis =>
      rw [← inductionHypothesis]
      simp only [List.mem_append, List.mem_cons]
      constructor
      · rintro (inBefore | rfl | inAfter)
        · exact Or.inl inBefore
        · exact Or.inl known
        · exact Or.inr inAfter
      · rintro (inBefore | inAfter)
        · exact Or.inl inBefore
        · exact Or.inr (Or.inr inAfter)

theorem map
    (repeats : Repeats items longer) (f : α → β) :
    Repeats (items.map f) (longer.map f) := by
  induction repeats with
  | refl =>
      exact Repeats.refl
  | again earlier known inductionHypothesis =>
      rw [List.map_append] at inductionHypothesis
      rw [List.map_append, List.map_cons]
      exact Repeats.again inductionHypothesis (List.mem_map_of_mem known)

theorem append_right
    (repeats : Repeats items longer) (rest : List α) :
    Repeats (items ++ rest) (longer ++ rest) := by
  induction repeats with
  | refl =>
      exact Repeats.refl
  | again earlier known inductionHypothesis =>
      rw [List.append_assoc] at inductionHypothesis
      rw [List.append_assoc, List.cons_append]
      exact Repeats.again inductionHypothesis known

theorem filter
    (repeats : Repeats items longer) (keeps : α → Bool) :
    Repeats (items.filter keeps) (longer.filter keeps) := by
  induction repeats with
  | refl =>
      exact Repeats.refl
  | @again before after repeated earlier known inductionHypothesis =>
      rw [List.filter_append] at inductionHypothesis
      rw [List.filter_append, List.filter_cons]
      split
      · rename_i kept
        exact Repeats.again inductionHypothesis (List.mem_filter.mpr ⟨known, kept⟩)
      · exact inductionHypothesis

end Repeats

namespace Foremost

variable {number : α → Int}

/-- Where there are items, one of them is the foremost. -/
theorem exists_of_ne_nil
    (present : items ≠ []) :
    ∃ leader, Foremost number items leader := by
  induction items using List.reverseRecOn with
  | nil =>
      exact absurd rfl present
  | append_singleton earlier newcomer inductionHypothesis =>
      by_cases alone : earlier = []
      · rw [alone]
        exact ⟨newcomer, [], [], rfl, by simp, by simp⟩
      · obtain ⟨leader, foremost⟩ := inductionHypothesis alone
        by_cases greater : number leader < number newcomer
        · exact ⟨newcomer, foremost.overtaken greater⟩
        · exact ⟨leader, foremost.kept (Int.not_lt.mp greater)⟩

/-- An item that is put in again leaves the foremost item in its place. -/
theorem again
    {before after : List α} {repeated leader : α}
    (foremost : Foremost number (before ++ after) leader) (known : repeated ∈ before) :
    Foremost number (before ++ repeated :: after) leader := by
  have bound : number repeated ≤ number leader :=
    foremost.number_le (List.mem_append_left after known)
  obtain ⟨earlier, later, split, below, notAbove⟩ := foremost
  rcases List.append_eq_append_iff.mp split with
    ⟨between, earlierSplit, afterSplit⟩ | ⟨between, beforeSplit, laterSplit⟩
  · -- the leader stands behind the repeated item, whose first occurrence has a lesser number
    rw [earlierSplit] at below
    have less : number repeated < number leader :=
      below repeated (List.mem_append_left between known)
    refine ⟨before ++ repeated :: between, later, by simp [afterSplit], ?_, notAbove⟩
    intro other member
    rcases List.mem_append.mp member with inBefore | here
    · exact below other (List.mem_append_left between inBefore)
    · rcases List.mem_cons.mp here with rfl | inBetween
      · exact less
      · exact below other (List.mem_append_right before inBetween)
  · cases between with
    | nil =>
        -- the leader is the item next to the repeated one
        rw [List.append_nil] at beforeSplit
        rw [List.nil_append] at laterSplit
        rw [beforeSplit] at known
        have less : number repeated < number leader := below repeated known
        refine ⟨before ++ [repeated], later, by simp [← laterSplit], ?_, notAbove⟩
        intro other member
        rw [beforeSplit] at member
        rcases List.mem_append.mp member with inBefore | here
        · exact below other inBefore
        · rw [List.mem_singleton.mp here]
          exact less
    | cons first rest =>
        obtain ⟨rfl, rfl⟩ := List.cons.inj laterSplit
        refine ⟨earlier, rest ++ repeated :: after, by simp [beforeSplit], below, ?_⟩
        intro other member
        rcases List.mem_append.mp member with inRest | here
        · exact notAbove other (List.mem_append_left after inRest)
        · rcases List.mem_cons.mp here with rfl | inAfter
          · exact bound
          · exact notAbove other (List.mem_append_right rest inAfter)

theorem iff_of_repeats
    (repeats : Repeats items longer) {leader : α} :
    Foremost number longer leader ↔ Foremost number items leader := by
  induction repeats generalizing leader with
  | refl =>
      rfl
  | @again before after repeated earlier known inductionHypothesis =>
      rw [← inductionHypothesis]
      constructor
      · intro foremost
        have present : before ++ after ≠ [] :=
          List.ne_nil_of_mem (List.mem_append_left after known)
        have led : ∃ other, Foremost number (before ++ after) other := exists_of_ne_nil present
        obtain ⟨other, otherForemost⟩ := led
        rw [foremost.unique (otherForemost.again known)]
        exact otherForemost
      · intro foremost
        exact foremost.again known

end Foremost

end LayeredConfig
