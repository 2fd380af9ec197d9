/-!
The characters that may stand around a value without belonging to it are those with the
Unicode property `White_Space`.
-/

namespace LayeredConfig.Text

/-- The characters with the Unicode property `White_Space`. -/
def isBlank (c : Char) : Bool :=
  let n := c.toNat
  (0x9 ≤ n && n ≤ 0xD) || n == 0x20 || n == 0x85 || n == 0xA0 || n == 0x1680 ||
    (0x2000 ≤ n && n ≤ 0x200A) || n == 0x2028 || n == 0x2029 || n == 0x202F ||
    n == 0x205F || n == 0x3000

def trimStart (text : List Char) : List Char :=
  text.dropWhile isBlank

def trimEnd (text : List Char) : List Char :=
  (text.reverse.dropWhile isBlank).reverse

def trim (text : List Char) : List Char :=
  trimEnd (trimStart text)

theorem trimStart_cons_of_not_blank {c : Char} {rest : List Char}
    (h : isBlank c = false) :
    trimStart (c :: rest) = c :: rest := by
  simp [trimStart, h]

/-- Blanks are dropped up to the first character that is none, whatever follows it. -/
theorem trimStart_append_cons {c : Char} (notBlank : isBlank c = false)
    (text rest : List Char) :
    trimStart (text ++ c :: rest) = trimStart text ++ c :: rest := by
  rw [trimStart, trimStart, List.dropWhile_append]
  by_cases blank : (text.dropWhile isBlank).isEmpty = true
  · have nothing := List.isEmpty_iff.mp blank
    rw [if_pos blank, nothing, List.dropWhile_cons_of_neg (by simp [notBlank])]
    rfl
  · rw [if_neg blank]

theorem trimStart_append_of_blank {indent : List Char}
    (blank : ∀ c ∈ indent, isBlank c = true) (text : List Char) :
    trimStart (indent ++ text) = trimStart text :=
  List.dropWhile_append_of_pos blank

theorem isBlank_head_trimStart {text : List Char} {c : Char} {rest : List Char}
    (h : trimStart text = c :: rest) :
    isBlank c = false := by
  induction text with
  | nil => simp [trimStart] at h
  | cons x xs ih =>
      by_cases hx : isBlank x
      · exact ih (by simpa [trimStart, hx] using h)
      · simp [trimStart, hx] at h
        simpa [← h.1] using hx

theorem trimStart_eq_self_iff {text : List Char} :
    trimStart text = text ↔ ∀ c ∈ text.head?, isBlank c = false := by
  cases text with
  | nil => simp [trimStart]
  | cons c rest =>
      constructor
      · rintro same _ ⟨⟩
        exact isBlank_head_trimStart same
      · intro flush
        exact trimStart_cons_of_not_blank (flush c rfl)

theorem trimStart_trimStart (text : List Char) : trimStart (trimStart text) = trimStart text := by
  rw [trimStart_eq_self_iff]
  intro c isFirst
  cases trimmed : trimStart text with
  | nil =>
      rw [trimmed] at isFirst
      cases isFirst
  | cons first rest =>
      rw [trimmed] at isFirst
      cases isFirst
      exact isBlank_head_trimStart trimmed

end LayeredConfig.Text
