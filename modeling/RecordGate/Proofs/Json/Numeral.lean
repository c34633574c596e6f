import RecordGate.Proofs.Json.Text
import RecordGate.Proofs.Number.Double
import RecordGate.Proofs.Text.Decimal

/-!
# `RecordGate.Proofs.Json.Numeral` — numbers in JSON texts

A number is kept as it is written, so what is written is read again as the same number, sign, digits and exponent
(`numeral?_text`), but only if the format of doubles has room for it. All whole numbers below `10 ^ 308` have that room
(`exists_doubleOf?`), so the decimal text of one is read as the number itself (`parse?_toString`), and in quotation marks
as that text (`parse?_quoted_toString`).
-/

namespace RecordGate.Json

open Text Number

/-! ## The double of a whole number -/

/-- The digits left out are no more than have to be. -/
theorem exists_leadingDigits (n : Nat) : ∃ k, leadingDigits n = (n / 10 ^ k, k) ∧ n / 10 ^ k < integerBound ∧
    ∀ j < k, integerBound ≤ n / 10 ^ j := by
  unfold leadingDigits
  dsimp only
  cases hfind : (List.range ((Nat.repr n).length + 1)).find? fun k => n / Nat.pow 10 k < integerBound with
  | none =>
    have hall := List.find?_range_eq_none.mp hfind (Nat.repr n).length (Nat.lt_succ_self _)
    have hzero : n / Nat.pow 10 (Nat.repr n).length = 0 := Nat.div_eq_of_lt (lt_ten_pow_length_repr n)
    rw [hzero] at hall
    exact absurd hall (by decide)
  | some k =>
    obtain ⟨hk, -, hfirst⟩ := List.find?_range_eq_some.mp hfind
    refine ⟨k, rfl, of_decide_eq_true hk, fun j hj => ?_⟩
    have hnot := hfirst j hj
    simp only [Bool.not_eq_true', decide_eq_false_iff_not, Nat.not_lt] at hnot
    exact hnot

/-- **Which whole numbers can be read**: all below `10 ^ 308`. What does not fit into 63 bits is read as a double that
    does not fit either. -/
theorem exists_doubleOf? {n : Nat} (h : n < 10 ^ 308) :
    ∃ d, doubleOf? n 0 = some d ∧ (2 ^ 63 ≤ n → 2 ^ 63 ≤ d.truncate) := by
  obtain ⟨k, hleading, -, hfirst⟩ := exists_leadingDigits n
  have hmul : n / 10 ^ k * 10 ^ k ≤ n := Nat.div_mul_le_self n (10 ^ k)
  have hbound : n / 10 ^ k * 10 ^ k ≤ 10 ^ 308 := Nat.le_of_lt (Nat.lt_of_le_of_lt hmul h)
  have hdouble : doubleOf? n 0 = Double.ofDecimal? (n / 10 ^ k) k := by
    unfold doubleOf?
    rw [hleading]
    simp only [Int.zero_add]
  rw [hdouble]
  cases k with
  | zero =>
    have hall : n / 10 ^ 0 = n := by rw [Nat.pow_zero, Nat.div_one]
    rw [hall] at hbound ⊢
    rcases Nat.eq_zero_or_pos n with rfl | hpos
    · exact ⟨⟨0, Double.minExponent⟩, by decide +kernel, fun h => absurd h (by decide)⟩
    · by_cases hlarge : 2 ^ 63 ≤ n
      · obtain ⟨d, hd, htruncate⟩ := Double.exists_ofDecimal? (j := 0) hbound (by decide) hlarge (by decide)
        exact ⟨d, hd, fun _ => htruncate⟩
      · obtain ⟨d, hd, -⟩ := Double.exists_ofDecimal? (i := 0) (j := 0) hbound (by decide) hpos (by decide)
        exact ⟨d, hd, fun h => absurd h hlarge⟩
  | succ k =>
    -- one digit less would not have been enough, so sixty bits are left
    have hbits : 2 ^ 60 ≤ n / 10 ^ (k + 1) := by
      have hprevious := hfirst k (Nat.lt_succ_self k)
      rw [Nat.pow_succ 10 k, ← Nat.div_div_eq_div_mul]
      unfold integerBound at hprevious
      omega
    have hpower : 10 ^ (k + 1) ≤ 10 ^ 308 :=
      Nat.le_trans (Nat.le_mul_of_pos_left _ (Nat.lt_of_lt_of_le (by decide) hbits)) hbound
    have hk : k + 1 ≤ 308 := (pow_le_pow_iff_right₀ (by decide)).mp hpower
    have hten : 2 ^ 3 ≤ 10 ^ (k + 1) := by
      have hone : 1 ≤ 10 ^ k := Nat.one_le_pow k 10 (by decide)
      rw [Nat.pow_succ 10 k]
      omega
    obtain ⟨d, hd, htruncate⟩ := Double.exists_ofDecimal? hbound hk hbits hten
    exact ⟨d, hd, fun _ => htruncate⟩

/-- Whole numbers below `10 ^ 308` are small enough to be read. -/
theorem isFinite_whole {n : Int} (h : n.natAbs < 10 ^ 308) : (Numeral.whole n).isFinite = true := by
  obtain ⟨d, hd, -⟩ := exists_doubleOf? h
  show (doubleOf? n.natAbs 0).isSome = true
  rw [hd, Option.isSome_some]

/-! ## Reading digits -/

/-- The value of digits is the one that the standard library gives them. -/
theorem natOfDigits_eq (cs : List Char) : natOfDigits cs = Nat.ofDigitChars 10 cs 0 := by
  unfold natOfDigits Nat.ofDigitChars
  simp only [Nat.mul_comm]

/-- A character that a number can go on with. -/
def continuesNumber (c : Char) : Bool :=
  isAsciiDigit c || c == '.' || c == 'e' || c == 'E'

section

variable {rest : List Char}

/-- The digits of a number are read up to the first character that is none. -/
theorem digits_repr (n : Nat) (h : ∀ c ∈ rest.head?, isAsciiDigit c = false) :
    digits ((Nat.repr n).toList ++ rest) = ((Nat.repr n).toList, rest) := by
  have hdigits : ∀ c ∈ (Nat.repr n).toList, isAsciiDigit c = true := fun c hc => isAsciiDigit_of_mem_repr hc
  unfold digits
  rw [takeWhile_isAsciiDigit_append hdigits h, dropWhile_isAsciiDigit_append hdigits h]

/-- A number is written without zeros in front, so its digits are a whole part. -/
theorem wholePart?_repr (n : Nat) (h : ∀ c ∈ rest.head?, isAsciiDigit c = false) :
    wholePart? ((Nat.repr n).toList ++ rest) = some ((Nat.repr n).toList, rest) := by
  unfold wholePart?
  rw [digits_repr n h]
  split
  · rename_i heq
    exact absurd (congrArg Prod.fst heq) (repr_toList_ne_nil n)
  · rename_i heq
    exact absurd (congrArg Prod.fst heq) (repr_toList_ne_cons_zero n _ _)
  · rfl

/-- Without a dot there is no fraction. -/
theorem fractionPart?_eq (h : ∀ c ∈ rest.head?, c ≠ '.') : fractionPart? rest = some (none, rest) := by
  unfold fractionPart?
  split
  · exact absurd rfl (h '.' rfl)
  · rfl

/-- Without the letter of an exponent there is none. -/
theorem exponentPart?_eq (h : ∀ c ∈ rest.head?, (c == 'e' || c == 'E') = false) :
    exponentPart? rest = some (none, rest) := by
  cases rest with
  | nil => rfl
  | cons c rest =>
    unfold exponentPart?
    dsimp only
    rw [h c rfl, if_neg (by decide)]

end

/-! ## Whole numbers -/

/-- The text of an integer: a sign if it is negative, and the digits of its absolute value. -/
theorem toString_toList (n : Int) :
    (toString n).toList = (if n < 0 then ['-'] else []) ++ (Nat.repr n.natAbs).toList := by
  cases n with
  | ofNat k =>
    have hnonneg : ¬ Int.ofNat k < 0 := Int.not_lt.mpr (Int.natCast_nonneg k)
    rw [if_neg hnonneg]
    rfl
  | negSucc k =>
    have hneg : Int.negSucc k < 0 := Int.negSucc_lt_zero k
    rw [if_pos hneg]
    show ("-" ++ Nat.repr (k + 1)).toList = _
    rw [String.toList_append]
    rfl

/-- The characters of an integer's text. -/
def isIntegerChar (c : Char) : Bool :=
  c == '-' || isAsciiDigit c

/-- An integer's text consists of such characters. -/
theorem isIntegerChar_of_mem_toString {n : Int} {c : Char} (h : c ∈ (toString n).toList) : isIntegerChar c = true := by
  unfold isIntegerChar
  rw [toString_toList, List.mem_append] at h
  rw [Bool.or_eq_true, beq_iff_eq]
  rcases h with hsign | hdigit
  · split at hsign
    · exact Or.inl (List.mem_singleton.mp hsign)
    · exact absurd hsign List.not_mem_nil
  · exact Or.inr (isAsciiDigit_of_mem_repr hdigit)

/-- The text of an integer has one of them at least. -/
theorem exists_toString_eq_cons (n : Int) : ∃ c cs, (toString n).toList = c :: cs ∧ isIntegerChar c = true := by
  have hne : (toString n).toList ≠ [] := by
    rw [toString_toList]
    exact List.append_ne_nil_of_right_ne_nil _ (repr_toList_ne_nil n.natAbs)
  obtain ⟨c, cs, h⟩ := List.exists_cons_of_ne_nil hne
  exact ⟨c, cs, h, isIntegerChar_of_mem_toString (by rw [h]; exact List.mem_cons_self)⟩

/-! ## Numbers as they are written -/

/-- The sign of a number. -/
def signText (negative : Bool) : List Char :=
  if negative then ['-'] else []

/-- The number of a sign, of digits and of an exponent, if there is one. -/
def Numeral.ofParts (negative : Bool) (n : Nat) : Option Int → Numeral
  | none => if negative && n == 0 then .negativeZero else .whole (if negative then -n else n)
  | some exponent => .decimal negative n exponent

/-- **A number without a fraction** is read part by part. -/
theorem numeral?_parts {negative : Bool} {n : Nat} {exponent : Option Int} {tail rest : List Char}
    (hdigit : ∀ c ∈ tail.head?, isAsciiDigit c = false) (hdot : ∀ c ∈ tail.head?, c ≠ '.')
    (hexponent : exponentPart? tail = some (exponent, rest))
    (hfinite : (Numeral.ofParts negative n exponent).isFinite = true) :
    numeral? (signText negative ++ ((Nat.repr n).toList ++ tail)) = some (.ofParts negative n exponent, rest) := by
  have hwhole := wholePart?_repr n hdigit
  have hfraction := fractionPart?_eq hdot
  have hvalue : natOfDigits (Nat.repr n).toList = n := by
    rw [natOfDigits_eq, ofDigitChars_repr]
  cases negative with
  | true =>
    simp only [signText, if_true, numeral?, List.cons_append, List.nil_append, hwhole, hfraction, hexponent, hvalue,
      Option.bind_eq_bind, Option.bind_some]
    cases exponent with
    | none => exact if_pos hfinite
    | some e =>
      simp only [Option.getD_none, Option.getD_some, List.append_nil, List.length_nil, hvalue, Int.natCast_zero,
        Int.sub_zero]
      exact if_pos hfinite
  | false =>
    obtain ⟨c, cs, hcons, hc⟩ := exists_repr_eq_cons n
    -- no digit is a sign
    have hminus : c ≠ '-' := by
      rintro rfl
      exact absurd hc (by decide)
    rw [hcons] at hvalue
    rw [hcons, List.cons_append] at hwhole ⊢
    simp only [signText, Bool.false_eq_true, if_false, List.nil_append, numeral?, hminus, List.cons.injEq, false_and,
      imp_self, implies_true, hwhole, hfraction, hexponent, hvalue, Option.bind_eq_bind, Option.bind_some]
    cases exponent with
    | none => exact if_pos hfinite
    | some e =>
      simp only [Option.getD_none, Option.getD_some, List.append_nil, List.length_nil, hvalue, Int.natCast_zero,
        Int.sub_zero]
      exact if_pos hfinite

/-- An exponent is read with its sign. -/
theorem exponentPart?_toString (e : Int) {rest : List Char} (h : ∀ c ∈ rest.head?, isAsciiDigit c = false) :
    exponentPart? ('e' :: ((toString e).toList ++ rest)) = some (some e, rest) := by
  have hread := digits_repr e.natAbs h
  have hvalue : natOfDigits (Nat.repr e.natAbs).toList = e.natAbs := by
    rw [natOfDigits_eq, ofDigitChars_repr]
  obtain ⟨c, cs, hcons, hc⟩ := exists_repr_eq_cons e.natAbs
  rw [toString_toList]
  by_cases hneg : e < 0
  · have hsigned : -(e.natAbs : Int) = e := by omega
    rw [if_pos hneg]
    simp only [exponentPart?, List.cons_append, List.nil_append, hread, beq_self_eq_true, Bool.true_or, if_true]
    rw [hcons] at hvalue ⊢
    simp only [hvalue, hsigned]
  · have hunsigned : (e.natAbs : Int) = e := by omega
    -- no digit is a sign
    have hminus : c ≠ '-' := by
      rintro rfl
      exact absurd hc (by decide)
    have hplus : c ≠ '+' := by
      rintro rfl
      exact absurd hc (by decide)
    rw [if_neg hneg, List.nil_append]
    rw [hcons] at hvalue
    rw [hcons, List.cons_append] at hread ⊢
    simp only [exponentPart?, beq_self_eq_true, Bool.true_or, if_true, hminus, hplus, List.cons.injEq, false_and,
      imp_self, implies_true, hread, hvalue, Bool.false_eq_true, if_false, hunsigned]

/-- The text of a whole number is its sign and its digits. -/
theorem whole_text_toList (n : Int) :
    (Numeral.whole n).text.toList = signText (decide (n < 0)) ++ (Nat.repr n.natAbs).toList := by
  show (toString n).toList = _
  rw [toString_toList]
  by_cases h : n < 0
  · rw [if_pos h, decide_eq_true h]
    rfl
  · rw [if_neg h, decide_eq_false h]
    rfl

/-- The text of a decimal is its sign, its digits, and an exponent behind them. -/
theorem decimal_text_toList (negative : Bool) (digits : Nat) (exponent : Int) :
    (Numeral.decimal negative digits exponent).text.toList =
      signText negative ++ ((Nat.repr digits).toList ++ 'e' :: (toString exponent).toList) := by
  unfold Numeral.text
  rw [String.toList_append, String.toList_append, String.toList_append, List.append_assoc, List.append_assoc]
  cases negative with
  | true => rfl
  | false => rfl

/-- A number starts with its sign or with a digit. -/
theorem exists_text_eq_cons (n : Numeral) : ∃ c cs, n.text.toList = c :: cs ∧ isIntegerChar c = true := by
  cases n with
  | whole value => exact exists_toString_eq_cons value
  | negativeZero => exact ⟨'-', ['0'], by decide, by decide⟩
  | decimal negative digits exponent =>
    obtain ⟨c, cs, hcons, hc⟩ := exists_repr_eq_cons digits
    rw [decimal_text_toList, hcons]
    cases negative with
    | true => exact ⟨'-', _, rfl, by decide⟩
    | false => exact ⟨c, _, rfl, by rw [isIntegerChar, hc, Bool.or_true]⟩

/-- **A number is read as it was written**, up to the first character that it cannot go on with, if it is small enough to
    be read at all. -/
theorem numeral?_text {n : Numeral} (hn : n.isFinite = true) {rest : List Char}
    (hrest : ∀ c ∈ rest.head?, continuesNumber c = false) : numeral? (n.text.toList ++ rest) = some (n, rest) := by
  simp only [continuesNumber, Bool.or_eq_false_iff, beq_eq_false_iff_ne] at hrest
  have hdigit : ∀ c ∈ rest.head?, isAsciiDigit c = false := fun c hc => (hrest c hc).1.1.1
  have hdot : ∀ c ∈ rest.head?, c ≠ '.' := fun c hc => (hrest c hc).1.1.2
  have hexponent : exponentPart? rest = some (none, rest) := exponentPart?_eq fun c hc => by
    simp [(hrest c hc).1.2, (hrest c hc).2]
  cases n with
  | whole value =>
    -- `-0` is no whole number, and zero is written without a sign
    have hparts : Numeral.ofParts (decide (value < 0)) value.natAbs none = .whole value := by
      by_cases hneg : value < 0
      · have hnonzero : (value.natAbs == 0) = false := beq_eq_false_iff_ne.mpr (by omega)
        have hsigned : -(value.natAbs : Int) = value := by omega
        simp only [Numeral.ofParts, decide_eq_true hneg, hnonzero, Bool.and_false, Bool.false_eq_true, if_false, if_true,
          hsigned]
      · have hunsigned : (value.natAbs : Int) = value := by omega
        simp only [Numeral.ofParts, decide_eq_false hneg, Bool.false_and, Bool.false_eq_true, if_false, hunsigned]
    have hread := numeral?_parts hdigit hdot hexponent (hparts ▸ hn)
    rw [whole_text_toList, List.append_assoc, hread, hparts]
  | negativeZero =>
    have hfinite : (Numeral.ofParts true 0 none).isFinite = true := hn
    exact numeral?_parts hdigit hdot hexponent hfinite
  | decimal negative digits exponent =>
    have htail : exponentPart? ('e' :: ((toString exponent).toList ++ rest)) = some (some exponent, rest) :=
      exponentPart?_toString exponent hdigit
    rw [decimal_text_toList, List.append_assoc, List.append_assoc, List.cons_append]
    refine numeral?_parts ?_ ?_ htail hn
    · rintro c ⟨⟩
      decide
    · rintro c ⟨⟩
      decide

/-! ## Values -/

/-- White space, and the characters that other values than numbers start with. -/
def otherStarts : List Char :=
  [' ', '\n', '\t', '\r', 'n', 't', 'f', '"', '[', '\x7b']

/-- A value that starts with none of these can only be a number. -/
theorem readValue?_eq_numeral? {c : Char} {cs : List Char} (h : ∀ d ∈ otherStarts, c ≠ d) (fuel : Nat) :
    readValue? (fuel + 1) (c :: cs) = (numeral? (c :: cs)).map fun (n, rest) => (.number n, rest) := by
  have hspace : skipSpace (c :: cs) = c :: cs := by
    have hc : isSpace c = false := by
      simp [isSpace, h ' ' (by decide), h '\n' (by decide), h '\t' (by decide), h '\r' (by decide)]
    exact List.dropWhile_cons_of_neg (by simp [hc])
  unfold readValue?
  rw [hspace]
  split
  · rename_i heq
    exact absurd (List.cons.inj heq).1 (h 'n' (by decide))
  · rename_i heq
    exact absurd (List.cons.inj heq).1 (h 't' (by decide))
  · rename_i heq
    exact absurd (List.cons.inj heq).1 (h 'f' (by decide))
  · rename_i heq
    exact absurd (List.cons.inj heq).1 (h '"' (by decide))
  · rename_i heq
    exact absurd (List.cons.inj heq).1 (h '[' (by decide))
  · rename_i heq
    exact absurd (List.cons.inj heq).1 (h '\x7b' (by decide))
  · rfl

/-- **A number is the value of its text.** -/
theorem readValue?_text {n : Numeral} (hn : n.isFinite = true) (fuel : Nat) {rest : List Char}
    (hrest : ∀ c ∈ rest.head?, continuesNumber c = false) :
    readValue? (fuel + 1) (n.text.toList ++ rest) = some (.number n, rest) := by
  obtain ⟨c, cs, hcons, hc⟩ := exists_text_eq_cons n
  have hstart : ∀ d ∈ otherStarts, c ≠ d := by
    have hother : otherStarts.all (fun d => !isIntegerChar d) = true := by decide
    intro d hd heq
    have hd' := List.all_eq_true.mp hother d hd
    rw [← heq, hc] at hd'
    exact absurd hd' (by decide)
  have hread := numeral?_text hn hrest
  rw [hcons, List.cons_append] at hread ⊢
  rw [readValue?_eq_numeral? hstart, hread]
  rfl

/-- **A JSON text of a whole number** is read as this number. -/
theorem parse?_toString {n : Int} (hn : n.natAbs < 10 ^ 308) : parse? (toString n) = some (.number (.whole n)) := by
  have hend : ∀ c ∈ ([] : List Char).head?, continuesNumber c = false := by simp
  have hread := readValue?_text (isFinite_whole hn) (toString n).toList.length hend
  rw [List.append_nil] at hread
  exact parse?_eq_some hread

/-- None of these characters has to be escaped. -/
theorem isVerbatim_of_isIntegerChar {c : Char} (h : isIntegerChar c = true) : isVerbatim c = true := by
  rw [isIntegerChar, Bool.or_eq_true, beq_iff_eq] at h
  rcases h with rfl | hdigit
  · rfl
  · have hrange := isAsciiDigit_iff.mp hdigit
    simp only [isVerbatim, Bool.and_eq_true, decide_eq_true_eq, bne_iff_ne]
    refine ⟨⟨by omega, ?_⟩, ?_⟩
    · rintro rfl
      exact absurd hdigit (by decide)
    · rintro rfl
      exact absurd hdigit (by decide)

/-- **A JSON text of an integer's text** is read as this text. -/
theorem parse?_quoted_toString (n : Int) : parse? ("\"" ++ toString n ++ "\"") = some (.string (toString n)) := by
  have hverbatim : ∀ c ∈ (toString n).toList, isVerbatim c = true := fun c hc =>
    isVerbatim_of_isIntegerChar (isIntegerChar_of_mem_toString hc)
  rw [← stringText_of_isVerbatim hverbatim]
  exact parse?_stringText (toString n)

end RecordGate.Json
