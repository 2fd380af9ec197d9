/-!
A text, or the bytes of one, is split at every occurrence of a separator. The pieces may be
empty, and there is one piece more than there are separators.
-/

namespace LayeredConfig.Text

/-- The pieces between the separators. -/
def pieces {α : Type} [DecidableEq α] (separator : α) : List α → List (List α)
  | [] => [[]]
  | c :: rest =>
    if c = separator then [] :: pieces separator rest
    else
      match pieces separator rest with
      | [] => [[c]]
      | piece :: others => (c :: piece) :: others

def split (separator : Char) (text : String) : List String :=
  (pieces separator text.toList).map String.ofList

theorem pieces_ne_nil {α : Type} [DecidableEq α] (separator : α) (text : List α) :
    pieces separator text ≠ [] := by
  cases text with
  | nil => simp [pieces]
  | cons c rest =>
      simp only [pieces]
      split
      · simp
      · split <;> simp

end LayeredConfig.Text
