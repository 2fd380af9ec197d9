import Mathlib.Data.List.Basic

/-!
Of items that carry numbers the foremost one is the earliest of those with the greatest number.
A list has at most one, whatever stands in it twice, and an item put at its end takes the place
of the foremost one only if its number is strictly greater.
-/

namespace LayeredConfig

variable {α : Type} {number : α → Int} {items : List α} {leader newcomer : α}

/-- The earliest of the items with the greatest number. -/
def Foremost (number : α → Int) (items : List α) (leader : α) : Prop :=
  ∃ earlier later,
    items = earlier ++ leader :: later ∧
      (∀ other ∈ earlier, number other < number leader) ∧
        ∀ other ∈ later, number other ≤ number leader

namespace Foremost

theorem mem
    (foremost : Foremost number items leader) :
    leader ∈ items := by
  obtain ⟨earlier, later, rfl, _, _⟩ := foremost
  simp

theorem number_le {other : α}
    (foremost : Foremost number items leader) (member : other ∈ items) :
    number other ≤ number leader := by
  obtain ⟨earlier, later, rfl, below, notAbove⟩ := foremost
  rcases List.mem_append.mp member with before | here
  · exact Int.le_of_lt (below other before)
  · rcases List.mem_cons.mp here with same | after
    · exact Int.le_of_eq (congrArg number same)
    · exact notAbove other after

/-- A newcomer with a greater number takes the place of the foremost item. -/
theorem overtaken
    (foremost : Foremost number items leader) (greater : number leader < number newcomer) :
    Foremost number (items ++ [newcomer]) newcomer := by
  refine ⟨items, [], rfl, ?_, by simp⟩
  intro other member
  exact Int.lt_of_le_of_lt (foremost.number_le member) greater

/-- A newcomer without a greater number comes too late. -/
theorem kept
    (foremost : Foremost number items leader) (notGreater : number newcomer ≤ number leader) :
    Foremost number (items ++ [newcomer]) leader := by
  obtain ⟨earlier, later, rfl, below, notAbove⟩ := foremost
  refine ⟨earlier, later ++ [newcomer], by simp, below, ?_⟩
  intro other member
  rcases List.mem_append.mp member with before | last
  · exact notAbove other before
  · rw [List.mem_singleton.mp last]
    exact notGreater

/-- Of two foremost items at different places, the later one would have a number less than its
own. -/
theorem unique {left right : α}
    (leftForemost : Foremost number items left) (rightForemost : Foremost number items right) :
    left = right := by
  have leftBound := rightForemost.number_le leftForemost.mem
  have rightBound := leftForemost.number_le rightForemost.mem
  obtain ⟨leftEarlier, leftLater, rfl, leftBelow, _⟩ := leftForemost
  obtain ⟨rightEarlier, rightLater, splits, rightBelow, _⟩ := rightForemost
  rcases List.append_eq_append_iff.mp splits with
    ⟨between, rightPrefix, leftRest⟩ | ⟨between, leftPrefix, rightRest⟩
  · cases between with
    | nil =>
        exact (List.cons.inj leftRest).1
    | cons first rest =>
        have leftEarly : left ∈ rightEarlier := by
          rw [rightPrefix, (List.cons.inj leftRest).1]
          simp
        have := rightBelow left leftEarly
        omega
  · cases between with
    | nil =>
        exact (List.cons.inj rightRest).1.symm
    | cons first rest =>
        have rightEarly : right ∈ leftEarlier := by
          rw [leftPrefix, (List.cons.inj rightRest).1]
          simp
        have := leftBelow right rightEarly
        omega

end Foremost

end LayeredConfig
