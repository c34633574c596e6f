import RecordGate.Proofs.Text.Character

/-!
# `RecordGate.Proofs.Text.Decimal` — numbers in decimal digits

The digits that a number is written with have its value (`ofDigitChars_repr`), and none but that of zero starts with a
zero (`head?_toDigits_ne_zero`). In a longer text they end where the first other character stands.
-/

namespace RecordGate.Text

/-- Decimal texts consist of digits. -/
theorem isAsciiDigit_of_mem_repr {n : Nat} {c : Char} (h : c ∈ (Nat.repr n).toList) : isAsciiDigit c = true := by
  rw [Nat.repr_eq_ofList_toDigits, String.toList_ofList] at h
  have hdigit := Nat.isDigit_of_mem_toDigits (by decide) (by decide) h
  simp only [Char.isDigit, Bool.and_eq_true, decide_eq_true_eq] at hdigit
  simp only [isAsciiDigit, Bool.and_eq_true, decide_eq_true_eq]
  exact hdigit

/-- The digits of a number have its value. -/
theorem ofDigitChars_repr (n : Nat) : Nat.ofDigitChars 10 (Nat.repr n).toList 0 = n := by
  rw [Nat.repr_eq_ofList_toDigits, String.toList_ofList, Nat.ofDigitChars_ten_toDigits]

theorem repr_toList_ne_nil (n : Nat) : (Nat.repr n).toList ≠ [] := by
  intro h
  exact Nat.repr_ne_empty (String.toList_eq_nil_iff.mp h)

/-- A decimal text starts with a digit. -/
theorem exists_repr_eq_cons (n : Nat) : ∃ c cs, (Nat.repr n).toList = c :: cs ∧ isAsciiDigit c = true := by
  obtain ⟨c, cs, h⟩ := List.exists_cons_of_ne_nil (repr_toList_ne_nil n)
  exact ⟨c, cs, h, isAsciiDigit_of_mem_repr (by rw [h]; exact List.mem_cons_self)⟩

/-- A number is less than ten to the count of its digits. -/
theorem lt_ten_pow_length_repr (n : Nat) : n < Nat.pow 10 (Nat.repr n).length := by
  have hlength : (Nat.repr n).length = (Nat.toDigits 10 n).length := by
    rw [← String.length_toList, Nat.repr_eq_ofList_toDigits, String.toList_ofList]
  rw [hlength]
  exact (Nat.length_toDigits_le_iff (by decide) Nat.length_toDigits_pos).mp (Nat.le_refl _)

/-- A number that is not zero does not start with a zero. -/
theorem head?_toDigits_ne_zero {n : Nat} (h : 0 < n) : (Nat.toDigits 10 n).head? ≠ some '0' := by
  have hdigit : ∀ d < 10, 0 < d → some (Nat.digitChar d) ≠ some '0' := by decide
  induction n using Nat.strongRecOn with
  | ind n ih =>
    by_cases hn : n < 10
    · rw [Nat.toDigits_of_lt_base hn]
      exact hdigit n hn h
    · -- the first digit is that of a tenth of the number
      have htenth := ih (n / 10) (by omega) (by omega)
      rw [Nat.toDigits_of_base_le (by decide) (by omega), List.head?_append]
      cases hhead : (Nat.toDigits 10 (n / 10)).head? with
      | none => exact absurd (List.head?_eq_none_iff.mp hhead) (List.ne_nil_of_length_pos Nat.length_toDigits_pos)
      | some c => rwa [Option.some_or, ← hhead]

/-- A decimal text of more than one digit does not start with zero. -/
theorem repr_toList_ne_cons_zero (n : Nat) (c : Char) (cs : List Char) : (Nat.repr n).toList ≠ '0' :: c :: cs := by
  intro h
  rcases Nat.eq_zero_or_pos n with rfl | hpos
  · exact absurd h (by simp)
  · rw [Nat.repr_eq_ofList_toDigits, String.toList_ofList] at h
    exact head?_toDigits_ne_zero hpos (by rw [h, List.head?_cons])

/-! ## Digits in a text -/

section

variable {digits rest : List Char}

/-- A run of digits is taken up to the first other character. -/
theorem takeWhile_isAsciiDigit_append (hdigits : ∀ c ∈ digits, isAsciiDigit c = true)
    (hrest : ∀ c ∈ rest.head?, isAsciiDigit c = false) : (digits ++ rest).takeWhile isAsciiDigit = digits := by
  rw [List.takeWhile_append_of_pos hdigits]
  cases rest with
  | nil => exact List.append_nil digits
  | cons c rest => rw [List.takeWhile_cons_of_neg (by simp [hrest c rfl]), List.append_nil]

/-- What is left behind a run of digits starts with another character. -/
theorem dropWhile_isAsciiDigit_append (hdigits : ∀ c ∈ digits, isAsciiDigit c = true)
    (hrest : ∀ c ∈ rest.head?, isAsciiDigit c = false) : (digits ++ rest).dropWhile isAsciiDigit = rest := by
  rw [List.dropWhile_append_of_pos hdigits]
  cases rest with
  | nil => rfl
  | cons c rest => exact List.dropWhile_cons_of_neg (by simp [hrest c rfl])

end

end RecordGate.Text
