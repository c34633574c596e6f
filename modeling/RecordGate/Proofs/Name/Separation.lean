import RecordGate.Proofs.Name.Passes

/-!
# `RecordGate.Proofs.Name.Separation` — snake case separates and lowers, and does nothing else

Each of the two rewritings behind snake case puts text together anew from the pieces of a match. Nothing is lost by
that: without underscores the text is the same before and after (`Marks.filter_replaceAll`). What is left to do changes
single characters. So without separators a name in snake case is the name itself in lower case (`filter_snake`),
whatever characters it consists of.

In snake case no upper-case letter is left at which a word could start, and no hyphen, so that a second time changes
nothing (`snake_snake`).
-/

namespace RecordGate.Name

open Text

/-- Whether a character separates words: in snake case an underscore, before that also a hyphen. -/
def isSeparator (c : Char) : Bool :=
  c == '_' || c == '-'

/-! ## What a rewriting keeps -/

/-- Marks are underscores. -/
theorem filter_marked {cut : Option Char → Char → Option Char → Bool} (before : Option Char) (cs : List Char) :
    (marked cut before cs).filter (· != '_') = cs.filter (· != '_') := by
  induction cs generalizing before with
  | nil => rfl
  | cons c cs ih =>
    cases hcut : cut before c cs.head? with
    | true =>
      rw [marked_cons_of_true hcut, List.filter_cons_of_neg (by decide), List.filter_cons, List.filter_cons, ih]
    | false => rw [marked_cons_of_false hcut, List.filter_cons, List.filter_cons, ih]

/-- **A rewriting loses no character**, repeats none, and leaves all of them in their order. -/
theorem Marks.filter_replaceAll {found? : List Char → Option (List Char × List Char)}
    {cut : Option Char → Char → Option Char → Bool} (h : Marks found? cut) (cs : List Char) :
    (replaceAll found? cs).filter (· != '_') = cs.filter (· != '_') := by
  rw [h.replaceAll_eq, filter_marked]

/-- The characters that are no separators are among those that are no underscores. -/
theorem filter_isSeparator_eq (cs : List Char) :
    cs.filter (!isSeparator ·) = (cs.filter (· != '_')).filter (!isSeparator ·) := by
  rw [List.filter_filter]
  refine List.filter_congr fun c _ => ?_
  by_cases h : c = '_'
  · simp [h, isSeparator]
  · simp [h]

/-! ## What becomes of single characters -/

/-- A character that is no hyphen goes to lower case. -/
theorem snakeChar_of_ne {c : Char} (h : c ≠ '-') : snakeChar c = lower c := by
  simp [snakeChar, h]

/-- Separators become underscores, and nothing else does. -/
theorem snakeChar_eq_underscore_iff {c : Char} : snakeChar c = '_' ↔ isSeparator c = true := by
  by_cases h : c = '-'
  · simp [h, snakeChar, isSeparator]
  · rw [snakeChar_of_ne h, lower_eq_iff (by decide)]
    simp [h, isSeparator]

/-- Case does not matter for whether a character separates. -/
theorem isSeparator_lower (c : Char) : isSeparator (lower c) = isSeparator c := by
  have hunderscore : lower c = '_' ↔ c = '_' := lower_eq_iff (by decide)
  have hhyphen : lower c = '-' ↔ c = '-' := lower_eq_iff (by decide)
  rw [Bool.eq_iff_iff]
  simp only [isSeparator, Bool.or_eq_true, beq_iff_eq, hunderscore, hhyphen]

/-- What is left without underscores are the characters that were no separators, in lower case. -/
theorem filter_map_snakeChar (cs : List Char) :
    (cs.map snakeChar).filter (· != '_') = (cs.filter (!isSeparator ·)).map lower := by
  have hkept : cs.filter ((· != '_') ∘ snakeChar) = cs.filter (!isSeparator ·) := by
    refine List.filter_congr fun c _ => ?_
    show (snakeChar c != '_') = !isSeparator c
    rw [Bool.eq_iff_iff, bne_iff_ne, ne_eq, snakeChar_eq_underscore_iff, Bool.not_eq_true', Bool.not_eq_true]
  rw [List.filter_map, hkept]
  refine List.map_congr_left fun c hc => snakeChar_of_ne ?_
  rintro rfl
  exact absurd (List.mem_filter.mp hc).2 (by decide)

/-- Separators may be dropped before or after the change to lower case. -/
theorem filter_map_lower (cs : List Char) :
    (cs.map lower).filter (!isSeparator ·) = (cs.filter (!isSeparator ·)).map lower := by
  rw [List.filter_map]
  exact congrArg (List.map lower) (List.filter_congr fun c _ => congrArg Bool.not (isSeparator_lower c))

/-- A character that has been changed stays. -/
theorem snakeChar_snakeChar (c : Char) : snakeChar (snakeChar c) = snakeChar c := by
  by_cases h : c = '-'
  · rw [h]
    decide
  · have hlower : lower c ≠ '-' := fun he => h ((lower_eq_iff (by decide)).mp he)
    rw [snakeChar_of_ne h, snakeChar_of_ne hlower, lower_lower]

/-! ## Snake case -/

/-- **Without separators, a name in snake case is the name in lower case.** -/
theorem filter_snake (cs : List Char) :
    (snake cs).filter (· != '_') = (cs.map lower).filter (!isSeparator ·) := by
  have hkept : (replaceAll seam? (replaceAll acronym? cs)).filter (· != '_') = cs.filter (· != '_') := by
    rw [marks_seam?.filter_replaceAll, marks_acronym?.filter_replaceAll]
  rw [snake_eq_passes, filter_map_snakeChar, filter_map_lower, filter_isSeparator_eq, hkept, ← filter_isSeparator_eq]

/-- There are no separators among letters and digits, so that snake case only adds some. -/
theorem filter_snake_of_isAlphanumeric {cs : List Char} (h : ∀ c ∈ cs, isAlphanumeric c = true) :
    (snake cs).filter (· != '_') = cs.map lower := by
  have hno : ∀ c ∈ cs, isSeparator c = false := by
    intro c hc
    rw [Bool.eq_false_iff]
    intro hsep
    rw [isSeparator, Bool.or_eq_true, beq_iff_eq, beq_iff_eq] at hsep
    rcases hsep with rfl | rfl
    · exact absurd (h _ hc) (by decide)
    · exact absurd (h _ hc) (by decide)
  rw [filter_snake, filter_map_lower, List.filter_eq_self.mpr fun c hc => by rw [hno c hc]; rfl]

/-- The characters of a name in snake case are as snake case has them. -/
theorem snakeChar_of_mem_snake {cs : List Char} {c : Char} (h : c ∈ snake cs) : snakeChar c = c := by
  rw [snake_eq_passes] at h
  obtain ⟨d, -, rfl⟩ := List.mem_map.mp h
  exact snakeChar_snakeChar d

/-- **A name in snake case is in snake case.** -/
theorem snake_snake (cs : List Char) : snake (snake cs) = snake cs :=
  snake_eq_self fun _ => snakeChar_of_mem_snake

/-- **Snake case separates words and lowers letters**, and does nothing else to a text. -/
structure SeparatesAndLowers (x : String) : Prop where
  /-- Snake case is what the two patterns make of the text, one after the other, with single characters changed at the
      end. -/
  passes : (snakeCase x).toList = (replaceAll seam? (replaceAll acronym? x.toList)).map snakeChar
  /-- The first pattern adds underscores only. -/
  acronyms : (replaceAll acronym? x.toList).filter (· != '_') = x.toList.filter (· != '_')
  /-- So does the second one, in what the first one leaves. -/
  seams : (replaceAll seam? (replaceAll acronym? x.toList)).filter (· != '_') =
    (replaceAll acronym? x.toList).filter (· != '_')
  /-- Without underscores it is the text in lower case, without underscores and hyphens. -/
  letters : (snakeCase x).toList.filter (· != '_') = (lowered x).toList.filter fun c => c != '_' && c != '-'
  /-- A second time changes nothing. -/
  settled : snakeCase (snakeCase x) = snakeCase x

/-- **Snake case separates and lowers**, for every text. -/
theorem separatesAndLowers_snakeCase (x : String) : SeparatesAndLowers x where
  passes := by
    unfold snakeCase
    rw [String.toList_ofList, snake_eq_passes]
  acronyms := marks_acronym?.filter_replaceAll x.toList
  seams := marks_seam?.filter_replaceAll _
  letters := by
    have hseparator : (fun c : Char => c != '_' && c != '-') = fun c => !isSeparator c := by
      funext c
      rw [isSeparator, Bool.not_or]
      rfl
    unfold snakeCase lowered
    rw [String.toList_ofList, String.toList_ofList, filter_snake, hseparator]
  settled := by
    unfold snakeCase
    rw [String.toList_ofList, snake_snake]

example : ["HTMLPage-2B", "ab\u00c9C\u0663D", "__Ab-"].map snakeCase =
    ["html_page_2_b", "ab\u00c9c\u0663_d", "__ab_"] := by
  decide +kernel

end RecordGate.Name
