import RecordGate.Json.Parser
import RecordGate.Json.Printer

/-!
# `RecordGate.Proofs.Json.Text` — texts between quotation marks

A text in JSON is written character by character: most stand for themselves, and the others are escaped by a letter or
by four hexadecimal digits. Each of these forms is read as the character that it was written for
(`stringBody?_escapedChar`), so a text is read back as it is, up to the quotation mark that closes it
(`stringBody?_escaped`).
-/

namespace RecordGate.Json

/-! ## Characters -/

/-- A character that stands for itself between quotation marks. -/
def isVerbatim (c : Char) : Bool :=
  0x20 ≤ c.toNat && c != '"' && c != '\\'

/-- Such a character is read as itself. -/
theorem stringBody?_cons {c : Char} (h : isVerbatim c = true) (fuel : Nat) (cs : List Char) :
    stringBody? (fuel + 1) (c :: cs) = (stringBody? fuel cs).map fun (body, rest) => (c :: body, rest) := by
  simp only [isVerbatim, Bool.and_eq_true, decide_eq_true_eq, bne_iff_ne] at h
  obtain ⟨⟨hprintable, hquote⟩, hslash⟩ := h
  conv => lhs; unfold stringBody?
  split
  · rename_i heq
    exact absurd heq (List.cons_ne_nil c cs)
  · rename_i heq
    exact absurd (List.cons.inj heq).1 hquote
  · rename_i heq
    exact absurd (List.cons.inj heq).1 hslash
  · rename_i heq
    exact absurd (List.cons.inj heq).1 hslash
  · rename_i heq
    obtain ⟨rfl, rfl⟩ := List.cons.inj heq
    have hplain : (decide (c.toNat < 0x20) || c == '\\') = false := by
      rw [Bool.or_eq_false_iff, decide_eq_false_iff_not, beq_eq_false_iff_ne]
      exact ⟨Nat.not_lt.mpr hprintable, hslash⟩
    rw [hplain, if_neg (by decide)]
    cases stringBody? fuel cs with
    | none => rfl
    | some read => rfl

/-- An escape with a letter stands for the character of this letter. -/
theorem stringBody?_letter {c letter : Char} (h : letterEscape? letter = some c) (fuel : Nat) (cs : List Char) :
    stringBody? (fuel + 1) ('\\' :: letter :: cs) =
      (stringBody? fuel cs).map fun (body, rest) => (c :: body, rest) := by
  -- `u` is no letter of an escape, it announces four digits
  have hne : letter ≠ 'u' := by
    rintro rfl
    have hnone : letterEscape? 'u' = none := by decide
    exact absurd (hnone.symm.trans h) (by simp)
  conv => lhs; unfold stringBody?
  split
  · rename_i heq
    exact absurd heq (List.cons_ne_nil _ _)
  · rename_i heq
    exact absurd (List.cons.inj heq).1 (by decide)
  · rename_i heq
    exact absurd (List.cons.inj (List.cons.inj heq).2).1 hne
  · rename_i heq
    obtain ⟨rfl, rfl⟩ := List.cons.inj (List.cons.inj heq).2
    rw [h]
    cases stringBody? fuel cs with
    | none => rfl
    | some read => rfl
  · rename_i hslash heq
    obtain ⟨rfl, rfl⟩ := List.cons.inj heq
    exact (hslash letter cs rfl rfl).elim

/-- A hexadecimal digit is read as the number that it was written for. -/
theorem hexDigit?_hexDigit : ∀ n < 16, hexDigit? (hexDigit n) = some n := by
  decide

/-- Four hexadecimal digits stand for the control character of this number. -/
theorem unicodeEscape?_of_lt {c : Char} (h : c.toNat < 0x20) (cs : List Char) :
    unicodeEscape? ('0' :: '0' :: hexDigit (c.toNat / 16) :: hexDigit (c.toNat % 16) :: cs) = some (c, cs) := by
  have hzero : hexDigit? '0' = some 0 := by decide
  have hhigh := hexDigit?_hexDigit (c.toNat / 16) (by omega)
  have hlow := hexDigit?_hexDigit (c.toNat % 16) (by omega)
  have hread : hex4? ('0' :: '0' :: hexDigit (c.toNat / 16) :: hexDigit (c.toNat % 16) :: cs) = some (c.toNat, cs) := by
    have hvalue : ((0 * 16 + 0) * 16 + c.toNat / 16) * 16 + c.toNat % 16 = c.toNat := by omega
    simp only [hex4?, hzero, hhigh, hlow, Option.bind_eq_bind, Option.bind_some, hvalue]
  have hsurrogate : (decide (0xD800 ≤ c.toNat) && decide (c.toNat < 0xDC00)) = false := by
    rw [Bool.and_eq_false_iff, decide_eq_false_iff_not]
    exact Or.inl (by omega)
  have hlower : (decide (0xDC00 ≤ c.toNat) && decide (c.toNat < 0xE000)) = false := by
    rw [Bool.and_eq_false_iff, decide_eq_false_iff_not]
    exact Or.inl (by omega)
  simp only [unicodeEscape?, hread, Option.bind_eq_bind, Option.bind_some, hsurrogate, hlower, Bool.false_eq_true,
    if_false, Char.ofNat_toNat]

/-- The characters that are escaped by a letter. -/
def letterEscaped : List Char :=
  ['"', '\\', '\n', '\r', '\t', '\x08', '\x0C']

/-- **A character is written in one of three forms.** -/
theorem escapedChar_cases (c : Char) :
    (c ∈ letterEscaped ∧ ∃ letter, letterEscape? letter = some c ∧ escapedChar c = ['\\', letter]) ∨
      (c.toNat < 0x20 ∧
        escapedChar c = ['\\', 'u', '0', '0', hexDigit (c.toNat / 16), hexDigit (c.toNat % 16)]) ∨
      isVerbatim c = true ∧ escapedChar c = [c] := by
  by_cases hmem : c ∈ letterEscaped
  · have hletters : (letterEscaped.all fun c => ['"', '\\', 'n', 'r', 't', 'b', 'f'].any fun letter =>
        letterEscape? letter == some c && escapedChar c == ['\\', letter]) = true := by decide
    obtain ⟨letter, -, h⟩ := List.any_eq_true.mp (List.all_eq_true.mp hletters c hmem)
    simp only [Bool.and_eq_true, beq_iff_eq] at h
    exact Or.inl ⟨hmem, letter, h⟩
  · simp only [letterEscaped, List.mem_cons, List.not_mem_nil, or_false, not_or, ← beq_eq_false_iff_ne] at hmem
    obtain ⟨hquote, hslash, hline, hreturn, htab, hback, hfeed⟩ := hmem
    have hform : escapedChar c = if c.toNat < 0x20 then
        ['\\', 'u', '0', '0', hexDigit (c.toNat / 16), hexDigit (c.toNat % 16)] else [c] := by
      simp only [escapedChar, hquote, hslash, hline, hreturn, htab, hback, hfeed, Bool.or_self, Bool.false_eq_true,
        if_false]
    by_cases hcontrol : c.toNat < 0x20
    · exact Or.inr (Or.inl ⟨hcontrol, by rw [hform, if_pos hcontrol]⟩)
    · have hverbatim : isVerbatim c = true := by
        simp only [isVerbatim, bne, hquote, hslash, Bool.not_false, Bool.and_true, decide_eq_true_eq]
        exact Nat.not_lt.mp hcontrol
      exact Or.inr (Or.inr ⟨hverbatim, by rw [hform, if_neg hcontrol]⟩)

/-- **A character is read as it was written**, whether it was escaped or not. -/
theorem stringBody?_escapedChar (c : Char) (fuel : Nat) (cs : List Char) :
    stringBody? (fuel + 1) (escapedChar c ++ cs) = (stringBody? fuel cs).map fun (body, rest) => (c :: body, rest) := by
  rcases escapedChar_cases c with ⟨-, letter, hletter, hform⟩ | ⟨hcontrol, hform⟩ | ⟨hverbatim, hform⟩
  · rw [hform]
    exact stringBody?_letter hletter fuel cs
  · rw [hform]
    simp only [List.cons_append, List.nil_append, stringBody?, unicodeEscape?_of_lt hcontrol, Option.bind_eq_bind,
      Option.bind_some]
    cases stringBody? fuel cs with
    | none => rfl
    | some read => rfl
  · rw [hform]
    exact stringBody?_cons hverbatim fuel cs

/-! ## Texts -/

/-- **A text is read back as it is**, up to the quotation mark that closes it. -/
theorem stringBody?_escaped (cs rest : List Char) {fuel : Nat} (hfuel : cs.length < fuel) :
    stringBody? fuel (cs.flatMap escapedChar ++ '"' :: rest) = some (cs, rest) := by
  induction cs generalizing fuel with
  | nil =>
    obtain ⟨fuel, rfl⟩ := Nat.exists_eq_succ_of_ne_zero (Nat.ne_of_gt hfuel)
    rfl
  | cons c cs ih =>
    obtain ⟨fuel, rfl⟩ := Nat.exists_eq_succ_of_ne_zero (Nat.ne_of_gt (Nat.zero_lt_of_lt hfuel))
    rw [List.flatMap_cons, List.append_assoc, stringBody?_escapedChar, ih (Nat.lt_of_succ_lt_succ hfuel)]
    rfl

/-! ## Values -/

/-- What is read is the value of the whole text if nothing is left of it. -/
theorem parse?_eq_some {s : String} {value : Json} (h : readValue? (s.toList.length + 1) s.toList = some (value, [])) :
    parse? s = some value := by
  unfold parse?
  dsimp only
  rw [h]
  rfl

/-- Behind a quotation mark comes a text. -/
theorem readValue?_quote (fuel : Nat) (cs : List Char) :
    readValue? (fuel + 1) ('"' :: cs) =
      (stringBody? (cs.length + 1) cs).map fun (body, rest) => (.string (String.ofList body), rest) := by
  unfold readValue?
  rfl

/-- A text is written with its characters escaped, between quotation marks. -/
theorem stringText_toList (s : String) : (stringText s).toList = '"' :: (s.toList.flatMap escapedChar ++ ['"']) := by
  unfold stringText
  rw [String.toList_ofList]
  rfl

/-- The body of a text is not longer than the text with its escapes. -/
theorem length_le_flatMap_escapedChar (cs : List Char) : cs.length ≤ (cs.flatMap escapedChar).length := by
  induction cs with
  | nil => exact Nat.le_refl 0
  | cons c cs ih =>
    have hone : 1 ≤ (escapedChar c).length := by
      rcases escapedChar_cases c with ⟨-, letter, -, hform⟩ | ⟨-, hform⟩ | ⟨-, hform⟩
      all_goals rw [hform]; simp only [List.length_cons]; omega
    rw [List.flatMap_cons, List.length_append, List.length_cons]
    omega

/-- There is enough fuel for a text if there is some for each character that is left. -/
theorem stringBody?_text (s : String) (rest : List Char) :
    stringBody? ((s.toList.flatMap escapedChar ++ '"' :: rest).length + 1)
      (s.toList.flatMap escapedChar ++ '"' :: rest) = some (s.toList, rest) := by
  have hlength := length_le_flatMap_escapedChar s.toList
  refine stringBody?_escaped s.toList rest ?_
  rw [List.length_append]
  omega

/-- **A text in quotation marks is the value of this text.** -/
theorem readValue?_stringText (s : String) (fuel : Nat) (rest : List Char) :
    readValue? (fuel + 1) ((stringText s).toList ++ rest) = some (.string s, rest) := by
  rw [stringText_toList, List.cons_append, List.append_assoc, List.singleton_append, readValue?_quote,
    stringBody?_text]
  exact congrArg (fun text => some (Json.string text, rest)) String.ofList_toList

/-- **A text is read back from its JSON text.** -/
theorem parse?_stringText (s : String) : parse? (stringText s) = some (.string s) := by
  have hread := readValue?_stringText s (stringText s).toList.length []
  rw [List.append_nil] at hread
  exact parse?_eq_some hread

/-- A character that stands for itself is written as it is. -/
theorem escapedChar_of_isVerbatim {c : Char} (h : isVerbatim c = true) : escapedChar c = [c] := by
  rcases escapedChar_cases c with ⟨hmem, -⟩ | ⟨hcontrol, -⟩ | ⟨-, hform⟩
  · have hnone : (letterEscaped.all fun c => !isVerbatim c) = true := by decide
    have hcovered := List.all_eq_true.mp hnone c hmem
    rw [h] at hcovered
    exact absurd hcovered (by decide)
  · simp only [isVerbatim, Bool.and_eq_true, decide_eq_true_eq] at h
    exact absurd h.1.1 (Nat.not_le.mpr hcontrol)
  · exact hform

/-- A text of such characters only gets quotation marks. -/
theorem stringText_of_isVerbatim {s : String} (h : ∀ c ∈ s.toList, isVerbatim c = true) :
    stringText s = "\"" ++ s ++ "\"" := by
  have hmap : s.toList.map escapedChar = s.toList.map fun c => [c] :=
    List.map_congr_left fun c hc => escapedChar_of_isVerbatim (h c hc)
  have hbody : s.toList.flatMap escapedChar = s.toList := by
    calc s.toList.flatMap escapedChar = (s.toList.map fun c => [c]).flatten := by rw [List.flatMap_def, hmap]
      _ = s.toList := List.flatMap_singleton' s.toList
  rw [← String.toList_inj, stringText_toList, hbody]
  simp

end RecordGate.Json
