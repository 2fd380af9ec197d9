import LayeredConfig.Numeral.Whole
import LayeredConfig.Proofs.Traversal
import LayeredConfig.Text.Blank
import Mathlib.Data.Nat.Digits.Defs

/-!
A whole number is written as at least one decimal digit, possibly behind a sign, and the digits
denote what they denote in the decimal system. The reader takes exactly these texts as long as the
number lies within its bounds, however many digits there are, and never gives another number.
-/

namespace LayeredConfig

namespace Numeral

def DecimalDigit (c : Char) : Prop :=
  '0' ≤ c ∧ c ≤ '9'

instance (c : Char) : Decidable (DecimalDigit c) :=
  inferInstanceAs (Decidable (_ ∧ _))

/-- The number that digits denote in the decimal system. -/
def decimalValue (digits : List Char) : Nat :=
  Nat.ofDigits 10 (digits.reverse.map fun c => c.toNat - '0'.toNat)

theorem decimalDigit_iff
    {c : Char} :
    DecimalDigit c ↔ 48 ≤ c.toNat ∧ c.toNat ≤ 57 :=
  Iff.rfl

theorem digitValue?_ten
    (c : Char) :
    digitValue? 10 c = if DecimalDigit c then some (c.toNat - '0'.toNat) else none := by
  by_cases isDigit : DecimalDigit c
  · have range := decimalDigit_iff.mp isDigit
    have small : c.toNat - 48 < 10 := by omega
    rw [if_pos isDigit, digitValue?]
    simp [range, small]
  · have range := mt decimalDigit_iff.mpr isDigit
    rw [if_neg isDigit, digitValue?]
    -- the letters have values of ten and more
    simp only [range, if_false]
    split
    · simp
    · split
      · simp
      · rfl

theorem digitValue?_ten_isSome_iff
    {c : Char} :
    (digitValue? 10 c).isSome ↔ DecimalDigit c := by
  rw [digitValue?_ten]
  by_cases isDigit : DecimalDigit c
  · simp [isDigit]
  · simp [isDigit]

/-- Decimal digits denote the same read from the left, one after the other. -/
theorem naturalOfDigits_ten
    {digits : List Char} (isDigit : ∀ c ∈ digits, DecimalDigit c) :
    naturalOfDigits 10 digits = decimalValue digits := by
  rw [decimalValue, Nat.ofDigits_eq_foldr, List.foldr_map, List.foldr_reverse, naturalOfDigits]
  apply List.foldl_ext
  intro magnitude c member
  rw [digitValue?_ten, if_pos (isDigit c member), Option.getD_some, Nat.cast_id, Nat.add_comm,
    Nat.mul_comm]

theorem le_foldl_digits
    {base : Nat} (positive : 0 < base) (digits : List Char) (magnitude : Nat) :
    magnitude ≤
      digits.foldl (fun n c => n * base + (digitValue? base c).getD 0) magnitude := by
  induction digits generalizing magnitude with
  | nil =>
      exact Nat.le_refl magnitude
  | cons c rest inductionHypothesis =>
      rw [List.foldl_cons]
      refine Nat.le_trans ?_ (inductionHypothesis _)
      exact Nat.le_trans (Nat.le_mul_of_pos_right magnitude positive) (Nat.le_add_right _ _)

/-- Digits are read as the number that they denote, if that is not too large. By induction on the
digits: the number only grows, so that none is refused on the way. -/
theorem readDigits_eq_ok_iff
    {base bound magnitude n : Nat} {overflow : WholeError} {digits : List Char}
    (positive : 0 < base) (start : magnitude ≤ bound) :
    readDigits base bound overflow magnitude digits = .ok n ↔
      (∀ c ∈ digits, (digitValue? base c).isSome) ∧
        n = digits.foldl (fun n c => n * base + (digitValue? base c).getD 0) magnitude ∧
          n ≤ bound := by
  induction digits generalizing magnitude with
  | nil =>
      rw [readDigits, Except.ok.injEq, List.foldl_nil]
      constructor
      · intro same
        subst same
        exact ⟨List.forall_mem_nil _, rfl, start⟩
      · intro complete
        exact complete.2.1.symm
  | cons c rest inductionHypothesis =>
      rw [readDigits, List.forall_mem_cons, List.foldl_cons]
      cases value : digitValue? base c with
      | none =>
          simp
      | some digit =>
          simp only [Option.isSome_some, true_and, Option.getD_some]
          by_cases tooLarge : bound < magnitude * base + digit
          · have grows := le_foldl_digits positive rest (magnitude * base + digit)
            rw [if_pos tooLarge]
            constructor
            · intro read
              cases read
            · intro complete
              obtain ⟨-, same, within⟩ := complete
              omega
          · rw [if_neg tooLarge]
            exact inductionHypothesis (Nat.not_lt.mp tooLarge)

/-! ## Signs -/

/-- At least one decimal digit. -/
def IsNumeral (digits : List Char) : Prop :=
  digits ≠ [] ∧ ∀ c ∈ digits, DecimalDigit c

/-- A text denotes a number as digits, or as a sign and digits behind it. -/
inductive Denotes : List Char → Int → Prop
  | unsigned {digits : List Char} :
      IsNumeral digits → Denotes digits (decimalValue digits)
  | plus {digits : List Char} :
      IsNumeral digits → Denotes ('+' :: digits) (decimalValue digits)
  | minus {digits : List Char} :
      IsNumeral digits → Denotes ('-' :: digits) (-(decimalValue digits : Int))

section Reading

variable {lower upper n : Int} {digits : List Char}

theorem not_isNumeral_cons
    {c : Char} (notDigit : ¬ DecimalDigit c) :
    ¬ IsNumeral (c :: digits) :=
  fun numeral => notDigit (numeral.2 c List.mem_cons_self)

theorem denotes_plus_iff :
    Denotes ('+' :: digits) n ↔ IsNumeral digits ∧ n = decimalValue digits := by
  constructor
  · intro denotes
    cases denotes with
    | unsigned numeral =>
        exact absurd numeral (not_isNumeral_cons (by decide))
    | plus numeral =>
        exact ⟨numeral, rfl⟩
  · intro complete
    obtain ⟨numeral, rfl⟩ := complete
    exact Denotes.plus numeral

theorem denotes_minus_iff :
    Denotes ('-' :: digits) n ↔ IsNumeral digits ∧ n = -(decimalValue digits : Int) := by
  constructor
  · intro denotes
    cases denotes with
    | unsigned numeral =>
        exact absurd numeral (not_isNumeral_cons (by decide))
    | minus numeral =>
        exact ⟨numeral, rfl⟩
  · intro complete
    obtain ⟨numeral, rfl⟩ := complete
    exact Denotes.minus numeral

theorem denotes_unsigned_iff
    (notPlus : digits.head? ≠ some '+') (notMinus : digits.head? ≠ some '-') :
    Denotes digits n ↔ IsNumeral digits ∧ n = decimalValue digits := by
  constructor
  · intro denotes
    cases denotes with
    | unsigned numeral =>
        exact ⟨numeral, rfl⟩
    | plus numeral =>
        exact absurd rfl notPlus
    | minus numeral =>
        exact absurd rfl notMinus
  · intro complete
    obtain ⟨numeral, rfl⟩ := complete
    exact Denotes.unsigned numeral

/-- Digits are read with a sign if there are any and the number lies within the bound. -/
theorem readDigits_map_eq_ok_iff
    {bound : Nat} {overflow : WholeError} (signed : Nat → Int) (nonempty : digits ≠ []) :
    (readDigits 10 bound overflow 0 digits).map signed = .ok n ↔
      (IsNumeral digits ∧ n = signed (decimalValue digits)) ∧ decimalValue digits ≤ bound := by
  have base : 0 < 10 := by omega
  rw [Traversal.map_eq_ok_iff]
  simp only [readDigits_eq_ok_iff base (Nat.zero_le bound), digitValue?_ten_isSome_iff]
  constructor
  · intro found
    obtain ⟨number, ⟨isDigit, read, within⟩, denoted⟩ := found
    have same : number = decimalValue digits := by
      rw [read]
      exact naturalOfDigits_ten isDigit
    rw [← same]
    exact ⟨⟨⟨nonempty, isDigit⟩, denoted.symm⟩, within⟩
  · intro complete
    obtain ⟨⟨⟨-, isDigit⟩, denoted⟩, within⟩ := complete
    exact ⟨decimalValue digits, ⟨isDigit, (naturalOfDigits_ten isDigit).symm, within⟩,
      denoted.symm⟩

theorem readWhole_plus_eq_ok_iff
    (nonneg : 0 ≤ upper) :
    readWhole 10 lower upper ('+' :: digits) = .ok n ↔
      Denotes ('+' :: digits) n ∧ n ≤ upper := by
  rw [denotes_plus_iff]
  cases digits with
  | nil =>
      simp [readWhole, IsNumeral]
  | cons c rest =>
      have signed : readWhole 10 lower upper ('+' :: c :: rest) =
          (readDigits 10 upper.toNat .tooLarge 0 (c :: rest)).map Int.ofNat :=
        rfl
      rw [signed, readDigits_map_eq_ok_iff Int.ofNat (List.cons_ne_nil c rest)]
      apply and_congr_right
      intro complete
      rw [complete.2]
      exact Int.le_toNat nonneg

theorem readWhole_minus_eq_ok_iff
    (negative : lower < 0) :
    readWhole 10 lower upper ('-' :: digits) = .ok n ↔
      Denotes ('-' :: digits) n ∧ lower ≤ n := by
  rw [denotes_minus_iff]
  cases digits with
  | nil =>
      simp [readWhole, IsNumeral]
  | cons c rest =>
      have signed : readWhole 10 lower upper ('-' :: c :: rest) =
          (readDigits 10 (-lower).toNat .tooSmall 0 (c :: rest)).map
            fun (n : Nat) => -(n : Int) :=
        if_pos negative
      rw [signed, readDigits_map_eq_ok_iff _ (List.cons_ne_nil c rest)]
      apply and_congr_right
      intro complete
      rw [complete.2]
      omega

theorem readWhole_unsigned_eq_ok_iff
    (nonneg : 0 ≤ upper) (notPlus : digits.head? ≠ some '+') (notMinus : digits.head? ≠ some '-') :
    readWhole 10 lower upper digits = .ok n ↔ Denotes digits n ∧ n ≤ upper := by
  rw [denotes_unsigned_iff notPlus notMinus]
  cases digits with
  | nil =>
      simp [readWhole, IsNumeral]
  | cons c rest =>
      have unsigned : readWhole 10 lower upper (c :: rest) =
          (readDigits 10 upper.toNat .tooLarge 0 (c :: rest)).map Int.ofNat := by
        rw [readWhole] <;> simp_all
      rw [unsigned, readDigits_map_eq_ok_iff Int.ofNat (List.cons_ne_nil c rest)]
      apply and_congr_right
      intro complete
      rw [complete.2]
      exact Int.le_toNat nonneg

theorem Denotes.nonneg
    (denotes : Denotes digits n) (notMinus : digits.head? ≠ some '-') :
    0 ≤ n := by
  cases denotes with
  | unsigned numeral =>
      exact Int.natCast_nonneg _
  | plus numeral =>
      exact Int.natCast_nonneg _
  | minus numeral =>
      exact absurd rfl notMinus

/-- A text is read as a number exactly if it denotes that number and the number lies within the
bounds. -/
theorem readWhole_eq_ok_iff
    (negative : lower < 0) (nonneg : 0 ≤ upper) {text : List Char} :
    readWhole 10 lower upper text = .ok n ↔ Denotes text n ∧ lower ≤ n ∧ n ≤ upper := by
  by_cases minus : text.head? = some '-'
  · obtain ⟨digits, rfl⟩ := List.head?_eq_some_iff.mp minus
    rw [readWhole_minus_eq_ok_iff negative]
    apply and_congr_right
    intro denotes
    obtain ⟨-, rfl⟩ := denotes_minus_iff.mp denotes
    omega
  · have within : Denotes text n → (n ≤ upper ↔ lower ≤ n ∧ n ≤ upper) := by
      intro denotes
      have := denotes.nonneg minus
      omega
    rw [← and_congr_right within]
    by_cases plus : text.head? = some '+'
    · obtain ⟨digits, rfl⟩ := List.head?_eq_some_iff.mp plus
      exact readWhole_plus_eq_ok_iff nonneg
    · exact readWhole_unsigned_eq_ok_iff nonneg plus minus

end Reading

theorem DecimalDigit.not_blank
    {c : Char} (isDigit : DecimalDigit c) :
    Text.isBlank c = false := by
  have range := decimalDigit_iff.mp isDigit
  simp only [Text.isBlank, Bool.or_eq_false_iff, Bool.and_eq_false_iff, decide_eq_false_iff_not,
    beq_eq_false_iff_ne]
  omega

theorem Denotes.not_blank
    {text : List Char} {n : Int} (denotes : Denotes text n) :
    text ≠ [] ∧ ∀ c ∈ text, Text.isBlank c = false := by
  have digits {digits : List Char} (numeral : IsNumeral digits) :
      ∀ c ∈ digits, Text.isBlank c = false :=
    fun c member => (numeral.2 c member).not_blank
  cases denotes with
  | unsigned numeral =>
      exact ⟨numeral.1, digits numeral⟩
  | plus numeral =>
      exact ⟨List.cons_ne_nil _ _, List.forall_mem_cons.mpr ⟨by decide, digits numeral⟩⟩
  | minus numeral =>
      exact ⟨List.cons_ne_nil _ _, List.forall_mem_cons.mpr ⟨by decide, digits numeral⟩⟩

end Numeral

namespace Text

theorem exists_blanks_around
    (text : List Char) :
    ∃ before after, text = before ++ trim text ++ after ∧
      (∀ c ∈ before, isBlank c = true) ∧ ∀ c ∈ after, isBlank c = true := by
  have allBlank (text : List Char) : ∀ c ∈ text.takeWhile isBlank, isBlank c = true :=
    List.all_eq_true.mp List.all_takeWhile
  refine ⟨text.takeWhile isBlank, ((trimStart text).reverse.takeWhile isBlank).reverse, ?_,
    allBlank text, ?_⟩
  · rw [trim, trimEnd, List.append_assoc, ← List.reverse_append, List.takeWhile_append_dropWhile,
      List.reverse_reverse]
    exact List.takeWhile_append_dropWhile.symm
  · intro c member
    exact allBlank _ c (List.mem_reverse.mp member)

theorem trim_of_blanks_around
    {before inner after : List Char}
    (beforeBlank : ∀ c ∈ before, isBlank c = true)
    (nonempty : inner ≠ []) (notBlank : ∀ c ∈ inner, isBlank c = false)
    (afterBlank : ∀ c ∈ after, isBlank c = true) :
    trim (before ++ inner ++ after) = inner := by
  have start : trimStart (before ++ inner ++ after) = inner ++ after := by
    rw [List.append_assoc, trimStart_append_of_blank beforeBlank, trimStart_eq_self_iff]
    intro c isFirst
    rw [List.head?_append_of_ne_nil _ nonempty] at isFirst
    exact notBlank c (List.mem_of_mem_head? isFirst)
  have ending : trimStart (after.reverse ++ inner.reverse) = inner.reverse := by
    rw [trimStart_append_of_blank (by simpa using afterBlank), trimStart_eq_self_iff]
    intro c isFirst
    exact notBlank c (List.mem_reverse.mp (List.mem_of_mem_head? isFirst))
  rw [trim, start, trimEnd, List.reverse_append]
  rw [trimStart] at ending
  rw [ending, List.reverse_reverse]

end Text

namespace Numeral

/-- What is left of a text without the blanks around it denotes a number exactly if the text
consists of blanks, something that denotes the number, and blanks again. -/
theorem denotes_trim_iff
    {text : List Char} {n : Int} :
    Denotes (Text.trim text) n ↔
      ∃ before number after, text = before ++ number ++ after ∧
        (∀ c ∈ before, Text.isBlank c = true) ∧ (∀ c ∈ after, Text.isBlank c = true) ∧
          Denotes number n := by
  constructor
  · intro denotes
    obtain ⟨before, after, whole, beforeBlank, afterBlank⟩ := Text.exists_blanks_around text
    exact ⟨before, Text.trim text, after, whole, beforeBlank, afterBlank, denotes⟩
  · intro found
    obtain ⟨before, number, after, rfl, beforeBlank, afterBlank, denotes⟩ := found
    obtain ⟨nonempty, notBlank⟩ := denotes.not_blank
    rwa [Text.trim_of_blanks_around beforeBlank nonempty notBlank afterBlank]

end Numeral

end LayeredConfig
