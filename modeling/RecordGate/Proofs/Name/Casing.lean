import RecordGate.Proofs.Name.Constant

/-!
# `RecordGate.Proofs.Name.Casing` — from words to a constant and back

Camel case writes the words of a name one after the other and marks where each of them starts. Snake case looks for
these marks. What can go wrong is that a mark is not seen: an upper-case letter behind another one starts a word only
if a lower-case letter follows, since `HTML` is one word. A constant in which no mark is hidden in this way is *legible*
(`isLegible`), and these are the constants that snake case and camel case reproduce (`camel_snake_eq_self_iff`).

Words of two characters or more hide nothing: joined by underscores, written in camel case and read back, they are the
same words again (`snake_camel_intercalate`).
-/

namespace RecordGate.Name

open Text

/-! ## Words -/

/-- A character of a word: an ASCII lower-case letter or an ASCII digit. -/
def isWordPart (c : Char) : Bool :=
  isLower c || isAsciiDigit c

section

variable {c : Char}

theorem isWordPart_iff : isWordPart c = true ↔ isLower c = true ∨ isAsciiDigit c = true := by
  simp only [isWordPart, Bool.or_eq_true]

/-- What stands in snake case is part of a word, or separates two. -/
theorem isSnakePart_iff_isWordPart : isSnakePart c = true ↔ isWordPart c = true ∨ c = '_' := by
  rw [isSnakePart_iff, isWordPart_iff, or_assoc]

theorem isSnakePart_of_isWordPart (h : isWordPart c = true) : isSnakePart c = true :=
  isSnakePart_iff_isWordPart.mpr (Or.inl h)

/-- No word has an underscore in it. -/
theorem ne_underscore_of_isWordPart (h : isWordPart c = true) : c ≠ '_' := by
  rintro rfl
  exact absurd h (by decide)

theorem lower_of_isWordPart (h : isWordPart c = true) : lower c = c :=
  lower_of_not_isUpper (not_isUpper_of_isSnakePart (isSnakePart_of_isWordPart h))

theorem underscore_not_mem_of_isWordPart {cs : List Char} (h : ∀ c ∈ cs, isWordPart c = true) : '_' ∉ cs :=
  fun hmem => ne_underscore_of_isWordPart (h '_' hmem) rfl

/-- ASCII letters are either upper case or parts of words, and digits are parts of words. -/
theorem isWordPart_of_isAlphanumeric (h : isAlphanumeric c = true) (hu : isUpper c = false) : isWordPart c = true := by
  rw [isWordPart_iff]
  rcases isAlphanumeric_iff.mp h with h | h | h
  · exact Or.inl h
  · rw [hu] at h
    exact absurd h (by decide)
  · exact Or.inr h

end

/-! ## Camel case -/

/-- An underscore goes, and leaves that a word starts. -/
theorem camelFrom_cons_underscore (initial : Bool) (cs : List Char) :
    camelFrom initial ('_' :: cs) = camelFrom true cs := by
  simp [camelFrom]

/-- Any other character stays, in upper case where a word starts. -/
theorem camelFrom_cons_of_ne {c : Char} (h : c ≠ '_') (initial : Bool) (cs : List Char) :
    camelFrom initial (c :: cs) = (if initial then upper c else lower c) :: camelFrom false cs := by
  simp [camelFrom, h]

/-- **An underscore separates**: what stands behind it is written as if it stood alone. -/
theorem camelFrom_append_cons_underscore (initial : Bool) (cs ds : List Char) :
    camelFrom initial (cs ++ '_' :: ds) = camelFrom initial cs ++ camel ds := by
  induction cs generalizing initial with
  | nil => exact camelFrom_cons_underscore initial ds
  | cons c cs ih =>
    rw [List.cons_append]
    by_cases hc : c = '_'
    · rw [hc, camelFrom_cons_underscore, camelFrom_cons_underscore, ih]
    · rw [camelFrom_cons_of_ne hc, camelFrom_cons_of_ne hc, ih, List.cons_append]

/-- **Words are written one after the other.** -/
theorem camel_append_cons_underscore (cs ds : List Char) : camel (cs ++ '_' :: ds) = camel cs ++ camel ds :=
  camelFrom_append_cons_underscore true cs ds

/-- The words of a name in camel case are the last one and those before it. -/
theorem camel_splitLast (cs : List Char) : camel (splitLast cs).1 ++ camel (splitLast cs).2 = camel cs := by
  obtain ⟨-, hjoin | ⟨hhead, hlast⟩⟩ := splitLast_cases cs
  · rw [← camel_append_cons_underscore, ← hjoin]
  · rw [hhead, ← hlast]
    rfl

/-- Inside a word nothing changes. -/
theorem camelFrom_false_eq_self {cs : List Char} (h : ∀ c ∈ cs, isWordPart c = true) : camelFrom false cs = cs := by
  induction cs with
  | nil => rfl
  | cons c cs ih =>
    have hc := h c List.mem_cons_self
    rw [camelFrom_cons_of_ne (ne_underscore_of_isWordPart hc), ih fun d hd => h d (List.mem_cons_of_mem c hd),
      if_neg Bool.false_ne_true, lower_of_isWordPart hc]

/-- A word in camel case has its first letter in upper case. -/
theorem camel_cons {c : Char} {cs : List Char} (hc : isWordPart c = true) (hcs : ∀ d ∈ cs, isWordPart d = true) :
    camel (c :: cs) = upper c :: cs := by
  unfold camel
  rw [camelFrom_cons_of_ne (ne_underscore_of_isWordPart hc), camelFrom_false_eq_self hcs, if_pos rfl]

/-- Camel case changes the case of letters and drops the underscores. -/
theorem map_lower_camelFrom (initial : Bool) (cs : List Char) :
    (camelFrom initial cs).map lower = (cs.filter (· != '_')).map lower := by
  induction cs generalizing initial with
  | nil => rfl
  | cons c cs ih =>
    by_cases hc : c = '_'
    · rw [hc, camelFrom_cons_underscore, ih, List.filter_cons_of_neg (by decide)]
    · have hkeep : (c :: cs).filter (· != '_') = c :: cs.filter (· != '_') :=
        List.filter_cons_of_pos (bne_iff_ne.mpr hc)
      rw [camelFrom_cons_of_ne hc, hkeep, List.map_cons, List.map_cons, ih]
      cases initial with
      | true => rw [if_pos rfl, lower_upper]
      | false => rw [if_neg Bool.false_ne_true, lower_lower]

/-! ## Snake case -/

/-- Where a word starts, an underscore is written in front of it. -/
theorem snakeFrom_cons_of_isBoundary {before : Option Char} {c : Char} {cs : List Char}
    (h : isBoundary before c cs.head? = true) :
    snakeFrom before (c :: cs) = '_' :: snakeChar c :: snakeFrom (some c) cs := by
  rw [snakeFrom, if_pos h]

/-- Inside a word characters only change one by one. -/
theorem snakeFrom_cons_of_not_isBoundary {before : Option Char} {c : Char} {cs : List Char}
    (h : isBoundary before c cs.head? = false) :
    snakeFrom before (c :: cs) = snakeChar c :: snakeFrom (some c) cs := by
  rw [snakeFrom, if_neg (Bool.eq_false_iff.mp h)]

/-- A word starts with an upper-case letter, or it is not seen to start. -/
theorem isBoundary_of_not_isUpper {before : Option Char} {c : Char} {after : Option Char} (h : isUpper c = false) :
    isBoundary before c after = false := by
  simp [isBoundary, h]

/-- An ASCII letter or digit in snake case. -/
theorem snakeChar_of_isAlphanumeric {c : Char} (h : isAlphanumeric c = true) : snakeChar c = lower c :=
  snakeChar_eq_lower (isNamePart_iff.mpr (Or.inl h))

theorem isWordPart_lower {c : Char} (h : isAlphanumeric c = true) : isWordPart (lower c) = true := by
  refine isWordPart_of_isAlphanumeric (isAlphanumeric_lower h) ?_
  rw [← lower_eq_self_iff, lower_lower]

/-- Among ASCII characters the digits are those of ASCII. -/
theorem isDigit_of_isAlphanumeric {c : Char} (h : isAlphanumeric c = true) : isDigit c = isAsciiDigit c := by
  have hlt : c.toNat < 0x80 := by
    rw [isAlphanumeric_iff, isLower_iff, isUpper_iff, isAsciiDigit_iff] at h
    omega
  rw [isDigit, if_pos hlt]

/-- **Where a word starts**: at every upper-case letter, unless another one stands before it and no lower-case letter
    behind it. -/
theorem isBoundary_iff {b c : Char} {after : Option Char} (hb : isAlphanumeric b = true) :
    isBoundary (some b) c after = true ↔
      isUpper c = true ∧ (isUpper b = true → after.any isLower = true) := by
  simp only [isBoundary, Bool.and_eq_true, Bool.or_eq_true, isDigit_of_isAlphanumeric hb]
  refine and_congr_right fun _ => ?_
  cases hu : isUpper b with
  | true =>
    -- an upper-case letter is no part of a word
    have hnot : ¬ (isLower b = true ∨ isAsciiDigit b = true) := by
      rw [isLower_iff, isAsciiDigit_iff]
      rw [isUpper_iff] at hu
      omega
    simp only [hnot, false_or, true_and, forall_const]
  | false =>
    have hpart := isWordPart_iff.mp (isWordPart_of_isAlphanumeric hb hu)
    simp only [hpart, true_or, Bool.false_eq_true, false_implies]

/-- What is read before a character does not depend on what follows behind it, but for the case of one letter. -/
theorem exists_snakeFrom_append (before : Option Char) (cs : List Char) (b : Char) (ds : List Char) :
    ∃ u, snakeFrom before (cs ++ b :: ds) = u ++ snakeFrom (some b) ds := by
  induction cs generalizing before with
  | nil =>
    cases hbound : isBoundary before b ds.head? with
    | true => exact ⟨['_', snakeChar b], snakeFrom_cons_of_isBoundary hbound⟩
    | false => exact ⟨[snakeChar b], snakeFrom_cons_of_not_isBoundary hbound⟩
  | cons c cs ih =>
    obtain ⟨u, hu⟩ := ih (some c)
    rw [List.cons_append]
    cases hbound : isBoundary before c (cs ++ b :: ds).head? with
    | true =>
      refine ⟨'_' :: snakeChar c :: u, ?_⟩
      rw [snakeFrom_cons_of_isBoundary hbound, hu]
      rfl
    | false =>
      refine ⟨snakeChar c :: u, ?_⟩
      rw [snakeFrom_cons_of_not_isBoundary hbound, hu]
      rfl

/-- A run of word characters is written as it is, and no word is seen to start in it. -/
theorem snakeFrom_append_of_isWordPart {before : Option Char} {cs ds : List Char} {b : Char}
    (hcs : ∀ c ∈ cs, isWordPart c = true) (hb : isWordPart b = true) :
    snakeFrom before (cs ++ b :: ds) = cs ++ b :: snakeFrom (some b) ds := by
  have hstep : ∀ {before : Option Char} {c : Char} {es : List Char}, isWordPart c = true →
      snakeFrom before (c :: es) = c :: snakeFrom (some c) es := by
    intro before c es hc
    have hpart := isSnakePart_of_isWordPart hc
    rw [snakeFrom_cons_of_not_isBoundary (isBoundary_of_not_isUpper (not_isUpper_of_isSnakePart hpart)),
      snakeChar_eq_self hpart]
  induction cs generalizing before with
  | nil => exact hstep hb
  | cons c cs ih =>
    rw [List.cons_append, hstep (hcs c List.mem_cons_self), ih fun d hd => hcs d (List.mem_cons_of_mem c hd)]
    rfl

/-! ## Legible constants -/

/-- Whether every upper-case letter starts a word: one that stands behind another is followed by a lower-case letter. -/
def isLegible : List Char → Bool
  | b :: c :: cs => (!(isUpper b && isUpper c) || cs.head?.any isLower) && isLegible (c :: cs)
  | _ => true

/-- Whether a constant is legible is a matter of three characters in a row. -/
theorem isLegible_cons_cons_iff {b c : Char} {cs : List Char} : isLegible (b :: c :: cs) = true ↔
    (isUpper b = true → isUpper c = true → cs.head?.any isLower = true) ∧ isLegible (c :: cs) = true := by
  simp only [isLegible, Bool.and_eq_true, Bool.or_eq_true, Bool.not_eq_true']
  refine and_congr_left fun _ => ?_
  cases isUpper b <;> cases isUpper c <;> simp

/-- The back of a legible constant is legible. -/
theorem isLegible_of_append {as bs : List Char} (h : isLegible (as ++ bs) = true) : isLegible bs = true := by
  induction as with
  | nil => exact h
  | cons a as ih =>
    refine ih ?_
    cases hrest : as ++ bs with
    | nil => rfl
    | cons c cs =>
      rw [List.cons_append, hrest] at h
      exact (isLegible_cons_cons_iff.mp h).2

/-- The crux, behind a character that is already written: what was read is written again exactly if it is legible. -/
theorem camelFrom_snakeFrom_eq_self_iff {b : Char} {cs : List Char} (hb : isAlphanumeric b = true)
    (hcs : ∀ c ∈ cs, isAlphanumeric c = true) :
    camelFrom false (snakeFrom (some b) cs) = cs ↔ isLegible (b :: cs) = true := by
  induction cs generalizing b with
  | nil => simp [snakeFrom, camelFrom, isLegible]
  | cons c cs ih =>
    have hc := hcs c List.mem_cons_self
    have hne : lower c ≠ '_' := ne_underscore_of_isWordPart (isWordPart_lower hc)
    rw [isLegible_cons_cons_iff, ← ih hc fun d hd => hcs d (List.mem_cons_of_mem c hd)]
    cases hbound : isBoundary (some b) c cs.head? with
    | true =>
      -- a word starts, and its first letter is in upper case again
      obtain ⟨hu, hafter⟩ := (isBoundary_iff hb).mp hbound
      rw [snakeFrom_cons_of_isBoundary hbound, camelFrom_cons_underscore, snakeChar_of_isAlphanumeric hc,
        camelFrom_cons_of_ne hne, if_pos rfl, upper_lower_of_isUpper hu, List.cons.injEq]
      simp only [true_and, hu, forall_const]
      exact ⟨fun h => ⟨hafter, h⟩, fun h => h.2⟩
    | false =>
      -- no word starts, and the letter is in lower case whatever it was before
      have hnot : ¬ (isUpper c = true ∧ (isUpper b = true → cs.head?.any isLower = true)) := by
        rw [← isBoundary_iff hb, hbound]
        decide
      rw [snakeFrom_cons_of_not_isBoundary hbound, snakeChar_of_isAlphanumeric hc, camelFrom_cons_of_ne hne,
        if_neg Bool.false_ne_true, lower_lower, List.cons.injEq, lower_eq_self_iff]
      refine and_congr_left fun _ => ?_
      cases hu : isUpper c with
      | true =>
        have hlast : ¬ (isUpper b = true → cs.head?.any isLower = true) := fun h => hnot ⟨hu, h⟩
        simp only [Bool.true_eq_false, false_iff, forall_const]
        exact hlast
      | false => simp

/-- **Legible constants** are those that are the same again after their words are told apart and joined. -/
theorem camel_snake_eq_self_iff {cs : List Char} (h : isConstant cs = true) :
    camel (snake cs) = cs ↔ isLegible cs = true := by
  obtain ⟨c, ds, rfl, hc, hds⟩ := isConstant_iff.mp h
  have halnum : isAlphanumeric c = true := isAlphanumeric_of_isConstant h c List.mem_cons_self
  have hne : lower c ≠ '_' := ne_underscore_of_isWordPart (isWordPart_lower halnum)
  unfold camel
  rw [snake_cons, snakeChar_of_isAlphanumeric halnum, camelFrom_cons_of_ne hne, if_pos rfl, upper_lower_of_isUpper hc,
    List.cons.injEq, ← camelFrom_snakeFrom_eq_self_iff halnum hds]
  exact and_iff_right rfl

/-! ## Words of two characters or more -/

/-- An ASCII lower-case letter, then at least one ASCII lower-case letter or digit. -/
def IsLongWord (cs : List Char) : Prop :=
  ∃ c d ds, cs = c :: d :: ds ∧ isLower c = true ∧ ∀ e ∈ d :: ds, isWordPart e = true

theorem IsLongWord.isSnakePart {cs : List Char} (h : IsLongWord cs) : ∀ e ∈ cs, isSnakePart e = true := by
  obtain ⟨c, d, ds, rfl, hc, hds⟩ := h
  intro e he
  rcases List.mem_cons.mp he with rfl | he
  · exact isSnakePart_of_isLower hc
  · exact isSnakePart_of_isWordPart (hds e he)

/-- The first character of a long word is not the last one. -/
theorem IsLongWord.exists_ends {cs : List Char} (h : IsLongWord cs) :
    ∃ c es e, cs = c :: (es ++ [e]) ∧ isLower c = true ∧ (∀ x ∈ es, isWordPart x = true) ∧ isWordPart e = true := by
  obtain ⟨c, d, ds, rfl, hc, hds⟩ := h
  rcases List.eq_nil_or_concat (d :: ds) with hnil | ⟨es, e, hes⟩
  · exact absurd hnil (List.cons_ne_nil d ds)
  · rw [List.concat_eq_append] at hes
    rw [hes] at hds ⊢
    exact ⟨c, es, e, rfl, hc, fun x hx => hds x (List.mem_append_left _ hx), hds e (by simp)⟩

/-- The first letter of a word goes to upper case and comes back. -/
theorem snakeChar_upper {c : Char} (hc : isLower c = true) : snakeChar (upper c) = c := by
  rw [snakeChar_of_isAlphanumeric (isAlphanumeric_upper (isAlphanumeric_iff.mpr (Or.inl hc))),
    lower_upper_of_isLower hc]

section

variable {c e : Char} {es : List Char}

/-- A word in camel case has its first letter in upper case, and is otherwise the same. -/
theorem camel_of_ends (hc : isLower c = true) (hes : ∀ x ∈ es, isWordPart x = true) (he : isWordPart e = true) :
    camel (c :: (es ++ [e])) = upper c :: (es ++ [e]) := by
  refine camel_cons (isWordPart_iff.mpr (Or.inl hc)) fun x hx => ?_
  rcases List.mem_append.mp hx with hx | hx
  · exact hes x hx
  · rw [List.mem_singleton.mp hx]
    exact he

/-- Behind a part of a word every upper-case letter starts a word. -/
theorem isBoundary_upper {b : Char} (hb : isWordPart b = true) (hc : isLower c = true) (after : Option Char) :
    isBoundary (some b) (upper c) after = true := by
  have halnum : isAlphanumeric b = true := isAlphanumeric_iff.mpr ((isWordPart_iff.mp hb).imp id Or.inr)
  have hlow : isUpper b = false := not_isUpper_of_isSnakePart (isSnakePart_of_isWordPart hb)
  rw [isBoundary_iff halnum, hlow]
  exact ⟨isUpper_upper hc, fun hfalse => absurd hfalse (by decide)⟩

end

/-- The words after the first one in camel case, read back: each has an underscore before it. -/
theorem snakeFrom_flatMap_camel {b : Char} {words : List (List Char)} (hb : isWordPart b = true)
    (h : ∀ w ∈ words, IsLongWord w) :
    snakeFrom (some b) (words.flatMap camel) = words.flatMap ('_' :: ·) := by
  induction words generalizing b with
  | nil => rfl
  | cons w words ih =>
    obtain ⟨c, es, e, rfl, hc, hes, he⟩ := (h w List.mem_cons_self).exists_ends
    have htail := ih he fun w hw => h w (List.mem_cons_of_mem _ hw)
    rw [List.flatMap_cons, List.flatMap_cons, camel_of_ends hc hes he, List.cons_append,
      snakeFrom_cons_of_isBoundary (isBoundary_upper hb hc _), snakeChar_upper hc, List.append_assoc,
      List.singleton_append, snakeFrom_append_of_isWordPart hes he, htail]
    simp

/-- Joined words are written in camel case one by one. -/
theorem camel_intercalate (words : List (List Char)) : camel (['_'].intercalate words) = words.flatMap camel := by
  induction words with
  | nil => rfl
  | cons w words ih =>
    cases words with
    | nil => simp [List.intercalate]
    | cons v words =>
      rw [List.intercalate_cons_cons, List.append_assoc, List.singleton_append, camel_append_cons_underscore, ih]
      rfl

/-- All words but the first have an underscore in front. -/
theorem intercalate_cons (w : List Char) (words : List (List Char)) :
    ['_'].intercalate (w :: words) = w ++ words.flatMap ('_' :: ·) := by
  induction words generalizing w with
  | nil => simp [List.intercalate]
  | cons v words ih =>
    rw [List.intercalate_cons_cons, ih, List.flatMap_cons, List.append_assoc]
    rfl

/-- **Long words are read back** from camel case. -/
theorem snake_camel_intercalate {words : List (List Char)} (h : ∀ w ∈ words, IsLongWord w) :
    snake (camel (['_'].intercalate words)) = ['_'].intercalate words := by
  cases words with
  | nil => rfl
  | cons w words =>
    obtain ⟨c, es, e, rfl, hc, hes, he⟩ := (h w List.mem_cons_self).exists_ends
    have htail := snakeFrom_flatMap_camel he fun w hw => h w (List.mem_cons_of_mem _ hw)
    rw [camel_intercalate, List.flatMap_cons, camel_of_ends hc hes he, List.cons_append, snake_cons,
      snakeChar_upper hc, List.append_assoc, List.singleton_append, snakeFrom_append_of_isWordPart hes he, htail,
      intercalate_cons]
    simp

/-! ## Names of collections and constants -/

/-- A constant is an acceptable name of a collection itself. -/
theorem isCollection_of_isConstant {cs : List Char} (h : isConstant cs = true) : isCollection cs = true := by
  obtain ⟨c, ds, rfl, hc, hds⟩ := isConstant_iff.mp h
  simp only [isCollection, Bool.and_eq_true, List.all_eq_true]
  exact ⟨isLetter_iff.mpr (Or.inr hc), fun d hd => isNamePart_iff.mpr (Or.inl (hds d hd))⟩

/-- A name in snake case is a constant in camel case. -/
theorem isConstant_camel_of_isCollection {cs : List Char} (h : isCollection cs = true)
    (hparts : ∀ c ∈ cs, isSnakePart c = true) : isConstant (camel cs) = true := by
  cases cs with
  | nil => exact absurd h (by decide)
  | cons c cs =>
    simp only [isCollection, Bool.and_eq_true] at h
    have hlow : isUpper c = false := not_isUpper_of_isSnakePart (hparts c List.mem_cons_self)
    have hc : isLower c = true := by
      rcases isLetter_iff.mp h.1 with hl | hu
      · exact hl
      · rw [hlow] at hu
        exact absurd hu (by decide)
    exact isConstant_camel hc fun d hd => isNamePart_of_isSnakePart (hparts d (List.mem_cons_of_mem c hd))

/-- Only the words of a name matter for its entity. -/
theorem entity_congr {cs ds : List Char} (h : snake (trim cs) = snake (trim ds)) : entity cs = entity ds := by
  unfold entity
  rw [h]

end RecordGate.Name
