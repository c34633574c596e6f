import RecordGate.Text.Blank
import RecordGate.Text.Letter
import RecordGate.Text.Word

/-!
# `RecordGate.Proofs.Text.Character` — the classes of characters, and what changes of case do to them

The classes of ASCII characters are intervals of code points (`isLower_iff`, `isUpper_iff`, `isAsciiDigit_iff`),
so a question about them becomes arithmetic. Changing case maps one interval of letters onto the other and
leaves everything else alone. Beyond ASCII, equality up to case reaches two letters, `ſ` and the Kelvin sign. White
space is disjoint from every class of word characters.
-/

namespace RecordGate.Text

/-! ## Classes as intervals -/

/-- The lowercase letters by their codes. -/
theorem isLower_iff {c : Char} : isLower c = true ↔ 97 ≤ c.toNat ∧ c.toNat ≤ 122 := by
  simp only [isLower, Bool.and_eq_true, decide_eq_true_eq, Char.le_def, UInt32.le_iff_toNat_le]
  exact Iff.rfl

/-- The capitals by their codes. -/
theorem isUpper_iff {c : Char} : isUpper c = true ↔ 65 ≤ c.toNat ∧ c.toNat ≤ 90 := by
  simp only [isUpper, Bool.and_eq_true, decide_eq_true_eq, Char.le_def, UInt32.le_iff_toNat_le]
  exact Iff.rfl

/-- The digits by their codes. -/
theorem isAsciiDigit_iff {c : Char} : isAsciiDigit c = true ↔ 48 ≤ c.toNat ∧ c.toNat ≤ 57 := by
  simp only [isAsciiDigit, Bool.and_eq_true, decide_eq_true_eq, Char.le_def, UInt32.le_iff_toNat_le]
  exact Iff.rfl

theorem isLetter_iff {c : Char} : isLetter c = true ↔ isLower c = true ∨ isUpper c = true := by
  simp only [isLetter, Bool.or_eq_true]

theorem isAlphanumeric_iff {c : Char} :
    isAlphanumeric c = true ↔ isLower c = true ∨ isUpper c = true ∨ isAsciiDigit c = true := by
  simp only [isAlphanumeric, isLetter, Bool.or_eq_true, or_assoc]

theorem isNamePart_iff {c : Char} : isNamePart c = true ↔ isAlphanumeric c = true ∨ c = '_' := by
  simp only [isNamePart, Bool.or_eq_true, beq_iff_eq]

theorem isNamePart_of_isLetter {c : Char} (h : isLetter c = true) : isNamePart c = true :=
  isNamePart_iff.mpr (Or.inl (by simp [isAlphanumeric, h]))

/-! ## Changes of case -/

/-- Below the surrogates every code is a character's. -/
theorem toNat_ofNat_of_lt {n : Nat} (h : n < 0xD800) : (Char.ofNat n).toNat = n := by
  have hv : n.isValidChar := Or.inl h
  unfold Char.ofNat
  rw [dif_pos hv]
  rfl

theorem upper_eq (c : Char) : upper c = if isLower c then Char.ofNat (c.toNat - 32) else c := rfl

theorem lower_eq (c : Char) : lower c = if isUpper c then Char.ofNat (c.toNat + 32) else c := rfl

/-- A capital stands 32 codes before its lowercase letter. -/
theorem toNat_upper_of_isLower {c : Char} (h : isLower c = true) : (upper c).toNat = c.toNat - 32 := by
  have hr := isLower_iff.mp h
  rw [upper_eq, if_pos h]
  exact toNat_ofNat_of_lt (by omega)

/-- A lowercase letter stands 32 codes behind its capital. -/
theorem toNat_lower_of_isUpper {c : Char} (h : isUpper c = true) : (lower c).toNat = c.toNat + 32 := by
  have hr := isUpper_iff.mp h
  rw [lower_eq, if_pos h]
  exact toNat_ofNat_of_lt (by omega)

theorem not_isUpper_of_isLower {c : Char} (h : isLower c = true) : isUpper c = false := by
  rw [Bool.eq_false_iff, ne_eq, isUpper_iff]
  rw [isLower_iff] at h
  omega

theorem upper_of_not_isLower {c : Char} (h : isLower c = false) : upper c = c := by
  rw [upper_eq, if_neg (Bool.eq_false_iff.mp h)]

theorem lower_of_not_isUpper {c : Char} (h : isUpper c = false) : lower c = c := by
  rw [lower_eq, if_neg (Bool.eq_false_iff.mp h)]

/-- A text in lower case is the same in lower case. -/
theorem map_lower_of_isLower {cs : List Char} (h : ∀ c ∈ cs, isLower c = true) : cs.map lower = cs := by
  calc cs.map lower = cs.map id :=
        List.map_congr_left fun c hc => lower_of_not_isUpper (not_isUpper_of_isLower (h c hc))
    _ = cs := List.map_id cs

theorem isUpper_upper {c : Char} (h : isLower c = true) : isUpper (upper c) = true := by
  have hr := isLower_iff.mp h
  rw [isUpper_iff, toNat_upper_of_isLower h]
  omega

theorem isLower_lower {c : Char} (h : isUpper c = true) : isLower (lower c) = true := by
  have hr := isUpper_iff.mp h
  rw [isLower_iff, toNat_lower_of_isUpper h]
  omega

/-- The letters are what is a letter in lower case. -/
theorem isLower_lower_iff {c : Char} : isLower (lower c) = true ↔ isLetter c = true := by
  rw [isLetter_iff]
  cases hu : isUpper c with
  | true => simp [isLower_lower hu]
  | false => simp [lower_of_not_isUpper hu]

/-- Characters with the same code are the same. -/
theorem eq_of_toNat_eq {c d : Char} (h : c.toNat = d.toNat) : c = d := by
  rw [← Char.ofNat_toNat c, h, Char.ofNat_toNat]

/-- On letters the two changes of case undo each other. -/
theorem lower_upper_of_isLower {c : Char} (h : isLower c = true) : lower (upper c) = c := by
  have hr := isLower_iff.mp h
  refine eq_of_toNat_eq ?_
  rw [toNat_lower_of_isUpper (isUpper_upper h), toNat_upper_of_isLower h]
  omega

/-- A capital is recovered from its lowercase form. -/
theorem upper_lower_of_isUpper {c : Char} (h : isUpper c = true) : upper (lower c) = c := by
  have hr := isUpper_iff.mp h
  refine eq_of_toNat_eq ?_
  rw [toNat_upper_of_isLower (isLower_lower h), toNat_lower_of_isUpper h]
  omega

/-- Capitals are lowered to the same letters they came from. -/
theorem lower_upper (c : Char) : lower (upper c) = lower c := by
  cases hl : isLower c with
  | true => rw [lower_upper_of_isLower hl, lower_of_not_isUpper (not_isUpper_of_isLower hl)]
  | false => rw [upper_of_not_isLower hl]

theorem lower_lower (c : Char) : lower (lower c) = lower c := by
  cases hu : isUpper c with
  | true => exact lower_of_not_isUpper (not_isUpper_of_isLower (isLower_lower hu))
  | false => rw [lower_of_not_isUpper hu, lower_of_not_isUpper hu]

/-- Only capitals are changed by lowering. -/
theorem lower_eq_self_iff {c : Char} : lower c = c ↔ isUpper c = false := by
  constructor
  · intro h
    rw [Bool.eq_false_iff]
    intro hu
    have hn := congrArg Char.toNat h
    rw [toNat_lower_of_isUpper hu] at hn
    omega
  · exact lower_of_not_isUpper

theorem isAlphanumeric_upper {c : Char} (h : isAlphanumeric c = true) : isAlphanumeric (upper c) = true := by
  cases hl : isLower c with
  | true => exact isAlphanumeric_iff.mpr (Or.inr (Or.inl (isUpper_upper hl)))
  | false => rw [upper_of_not_isLower hl]; exact h

theorem isAlphanumeric_lower {c : Char} (h : isAlphanumeric c = true) : isAlphanumeric (lower c) = true := by
  cases hu : isUpper c with
  | true => exact isAlphanumeric_iff.mpr (Or.inl (isLower_lower hu))
  | false => rw [lower_of_not_isUpper hu]; exact h

/-- Only letters have another case, so what is no letter is the lower case of itself alone. -/
theorem lower_eq_iff {c m : Char} (hm : isLetter m = false) : lower c = m ↔ c = m := by
  cases hu : isUpper c with
  | false => rw [lower_of_not_isUpper hu]
  | true =>
    constructor
    · intro h
      rw [← h, isLetter_iff.mpr (Or.inl (isLower_lower hu))] at hm
      exact absurd hm (by decide)
    · intro h
      rw [← h, isLetter_iff.mpr (Or.inr hu)] at hm
      exact absurd hm (by decide)

/-! ## Equality up to case -/

/-- What folds to a lower-case letter is a letter itself, or one of two letters beyond ASCII. -/
theorem isLetter_of_isLower_fold {c : Char} (h : isLower (fold c) = true) :
    isLetter c = true ∨ c.toNat = 0x17F ∨ c.toNat = 0x212A := by
  -- folding names two letters beyond ASCII, and lowers everything else
  unfold fold at h
  split at h
  · rename_i hs
    exact Or.inr (Or.inl (beq_iff_eq.mp hs))
  · split at h
    · rename_i hk
      exact Or.inr (Or.inr (beq_iff_eq.mp hk))
    · exact Or.inl (isLower_lower_iff.mp h)

/-- On ASCII letters simple folding is lowering. -/
theorem fold_of_isLetter {c : Char} (h : isLetter c = true) : fold c = lower c := by
  have hascii : c.toNat ≠ 0x17F ∧ c.toNat ≠ 0x212A := by
    simp only [isLetter_iff, isLower_iff, isUpper_iff] at h
    omega
  simp [fold, hascii]

theorem fold_of_isLower {c : Char} (h : isLower c = true) : fold c = c := by
  rw [fold_of_isLetter (isLetter_iff.mpr (Or.inl h)), lower_of_not_isUpper (not_isUpper_of_isLower h)]

/-- In lower case nothing else is equal up to case. -/
theorem map_fold_of_isLower {cs : List Char} (h : ∀ c ∈ cs, isLower c = true) : cs.map fold = cs := by
  calc cs.map fold = cs.map id := List.map_congr_left fun c hc => fold_of_isLower (h c hc)
    _ = cs := List.map_id cs

/-- Lowering does not change what a character folds to. -/
theorem fold_lower (c : Char) : fold (lower c) = fold c := by
  cases hu : isUpper c with
  | false => rw [lower_of_not_isUpper hu]
  | true =>
    rw [fold_of_isLower (isLower_lower hu), fold_of_isLetter (isLetter_iff.mpr (Or.inr hu))]

/-- Only `k` has the Kelvin sign among the letters that fold to it. -/
theorem fold_of_toNat_eq_kelvin {c : Char} (h : c.toNat = 0x212A) : fold c = 'k' := by
  simp [fold, h]

/-- **What a word is read from, up to case**: from characters that fold to it. -/
theorem afterWord?_eq_some_iff {w cs rest : List Char} :
    afterWord? w cs = some rest ↔ ∃ u, cs = u ++ rest ∧ u.map fold = w := by
  induction w generalizing cs with
  | nil =>
    simp only [afterWord?, Option.some.injEq, List.map_eq_nil_iff]
    constructor
    · rintro rfl
      exact ⟨[], rfl, rfl⟩
    · rintro ⟨u, rfl, rfl⟩
      rfl
  | cons l w ih =>
    cases cs with
    | nil =>
      simp only [afterWord?, reduceCtorEq, false_iff]
      rintro ⟨u, hu, hw⟩
      obtain ⟨rfl, -⟩ := List.append_eq_nil_iff.mp hu.symm
      exact absurd hw (by simp)
    | cons c cs =>
      simp only [afterWord?, sameLetter, Option.ite_none_right_eq_some, beq_iff_eq, ih]
      constructor
      · rintro ⟨rfl, u, rfl, rfl⟩
        exact ⟨c :: u, rfl, rfl⟩
      · rintro ⟨u, hu, hw⟩
        cases u with
        | nil => exact absurd hw (by simp)
        | cons d u =>
          obtain ⟨rfl, rfl⟩ := List.cons.inj hu
          obtain ⟨rfl, rfl⟩ := List.cons.inj hw
          exact ⟨rfl, u, rfl, rfl⟩

/-- A word stands at the start of a text, in any case, and the property holds of the text behind it. -/
theorem any_afterWord?_iff {w cs : List Char} {p : List Char → Bool} :
    (afterWord? w cs).any p = true ↔ ∃ u b, cs = u ++ b ∧ u.map fold = w ∧ p b = true := by
  simp only [Option.any_eq_true, afterWord?_eq_some_iff]
  constructor
  · rintro ⟨b, ⟨u, hcs, hu⟩, hb⟩
    exact ⟨u, b, hcs, hu, hb⟩
  · rintro ⟨u, b, hcs, hu, hb⟩
    exact ⟨b, ⟨u, hcs, hu⟩, hb⟩

/-- A change of characters that no letter of a word notices may be made before or after the word is read. -/
theorem afterWord?_map {φ : Char → Char} {w cs : List Char}
    (h : ∀ l ∈ w, ∀ c ∈ cs, sameLetter l (φ c) = sameLetter l c) :
    afterWord? w (cs.map φ) = (afterWord? w cs).map (List.map φ) := by
  induction w generalizing cs with
  | nil => rfl
  | cons l w ih =>
    cases cs with
    | nil => rfl
    | cons c cs =>
      have htail := ih fun l' hl' c' hc' => h l' (List.mem_cons_of_mem l hl') c' (List.mem_cons_of_mem c hc')
      rw [List.map_cons, afterWord?, afterWord?, h l List.mem_cons_self c List.mem_cons_self, htail]
      split
      · rfl
      · rfl

/-! ## Word characters -/

/-- Letters, digits and the underscore are word characters. -/
theorem isWord_of_isNamePart {c : Char} (h : isNamePart c = true) : isWord c = true := by
  have hascii : c.toNat < 0x80 := by
    simp only [isNamePart_iff, isAlphanumeric_iff, isLower_iff, isUpper_iff, isAsciiDigit_iff] at h
    rcases h with (h | h | h) | rfl
    · omega
    · omega
    · omega
    · decide
  unfold isWord
  rw [if_pos hascii, h]

/-- The two letters beyond ASCII that fold to ASCII letters, long s and the Kelvin sign, are word characters. -/
theorem inRanges_of_folding : inRanges wordRanges 0x17F = true ∧ inRanges wordRanges 0x212A = true := by
  decide +kernel

/-- What folds to a lower-case letter is a word character, also beyond ASCII. -/
theorem isWord_of_isLower_fold {c : Char} (h : isLower (fold c) = true) : isWord c = true := by
  rcases isLetter_of_isLower_fold h with hl | hn | hn
  · exact isWord_of_isNamePart (isNamePart_of_isLetter hl)
  · unfold isWord
    rw [hn]
    exact inRanges_of_folding.1
  · unfold isWord
    rw [hn]
    exact inRanges_of_folding.2

/-- Only `_` folds to `_`. -/
theorem eq_of_fold_eq_underscore {c : Char} (h : fold c = '_') : c = '_' := by
  unfold fold at h
  split at h
  · exact absurd h (by decide)
  · split at h
    · exact absurd h (by decide)
    · cases hu : isUpper c with
      | true =>
        have hl := isLower_lower hu
        rw [h] at hl
        exact absurd hl (by decide)
      | false => rwa [lower_of_not_isUpper hu] at h

theorem isWord_of_isLetter {c : Char} (h : isLetter c = true) : isWord c = true :=
  isWord_of_isNamePart (isNamePart_of_isLetter h)

theorem isWord_of_isAsciiDigit {c : Char} (h : isAsciiDigit c = true) : isWord c = true :=
  isWord_of_isNamePart (isNamePart_iff.mpr (Or.inl (isAlphanumeric_iff.mpr (Or.inr (Or.inr h)))))

/-- Words are words in any case. -/
theorem isWord_lower (c : Char) : isWord (lower c) = isWord c := by
  cases hu : isUpper c with
  | false => rw [lower_of_not_isUpper hu]
  | true =>
    have hupper : isLetter c = true := isLetter_iff.mpr (Or.inr hu)
    have hlower : isLetter (lower c) = true := isLetter_iff.mpr (Or.inl (isLower_lower hu))
    rw [isWord_of_isLetter hupper, isWord_of_isLetter hlower]

/-! ## White space -/

/-- The code points of white space. -/
def blankCodes : List Nat :=
  [0x09, 0x0A, 0x0B, 0x0C, 0x0D, 0x20, 0x85, 0xA0, 0x1680, 0x2000, 0x2001, 0x2002, 0x2003, 0x2004, 0x2005, 0x2006,
    0x2007, 0x2008, 0x2009, 0x200A, 0x2028, 0x2029, 0x202F, 0x205F, 0x3000]

/-- The blanks are the characters with one of the listed codes. -/
theorem mem_blankCodes {c : Char} (h : isBlank c = true) : c.toNat ∈ blankCodes := by
  simp only [isBlank, Bool.or_eq_true, Bool.and_eq_true, decide_eq_true_eq, beq_iff_eq] at h
  simp only [blankCodes, List.mem_cons, List.not_mem_nil, or_false]
  omega

/-- No blank is a word character. -/
theorem not_inRanges_of_blankCodes : ∀ n ∈ blankCodes, inRanges wordRanges n = false := by
  decide +kernel

/-- No blank is a digit, a letter or the underscore. -/
theorem blankCodes_outside : ∀ n ∈ blankCodes,
    (n < 48 ∨ 57 < n) ∧ (n < 65 ∨ 90 < n) ∧ n ≠ 95 ∧ (n < 97 ∨ 122 < n) := by
  decide

/-- No blank is part of a name. -/
theorem not_isNamePart_of_isBlank {c : Char} (h : isBlank c = true) : isNamePart c = false := by
  obtain ⟨hd, hu, hs, hl⟩ := blankCodes_outside _ (mem_blankCodes h)
  rw [Bool.eq_false_iff]
  intro hn
  simp only [isNamePart_iff, isAlphanumeric_iff, isLower_iff, isUpper_iff, isAsciiDigit_iff] at hn
  -- each interval of word characters misses all code points of white space
  rcases hn with (hn | hn | hn) | hn
  · omega
  · omega
  · omega
  · exact hs (hn ▸ rfl)

/-- **White space is no word character.** -/
theorem not_isWord_of_isBlank {c : Char} (h : isBlank c = true) : isWord c = false := by
  unfold isWord
  split
  · exact not_isNamePart_of_isBlank h
  · exact not_inRanges_of_blankCodes _ (mem_blankCodes h)

theorem not_isBlank_of_isWord {c : Char} (h : isWord c = true) : isBlank c = false := by
  rw [Bool.eq_false_iff]
  intro hblank
  rw [not_isWord_of_isBlank hblank] at h
  exact absurd h (by decide)

/-- Lowering neither makes nor removes a blank. -/
theorem isBlank_lower (c : Char) : isBlank (lower c) = isBlank c := by
  cases hu : isUpper c with
  | false => rw [lower_of_not_isUpper hu]
  | true =>
    have hword : isWord c = true := isWord_of_isLetter (isLetter_iff.mpr (Or.inr hu))
    rw [not_isBlank_of_isWord hword, not_isBlank_of_isWord (by rw [isWord_lower, hword])]

end RecordGate.Text
