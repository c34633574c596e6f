import RecordGate.Name.Entity
import RecordGate.Proofs.Name.Singular
import RecordGate.Proofs.Text.Character
import RecordGate.Proofs.Text.Trim

/-!
# `RecordGate.Proofs.Name.Constant` — an entity is named by a constant

A constant is an ASCII upper-case letter followed by ASCII letters and digits. The name of the entity of every
acceptable collection is one (`isConstant_entity`). The proof follows a name through the three stages of `entity`:
in snake case it consists of lower-case letters, digits and underscores and starts with a letter; the singular of
its last word keeps both properties; and camel case drops the underscores and lifts the first letter.
-/

namespace RecordGate.Name

open Text

/-- An ASCII upper-case letter, then ASCII letters and digits. -/
def isConstant : List Char → Bool
  | [] => false
  | c :: cs => isUpper c && cs.all isAlphanumeric

/-- A constant is an upper-case letter, then letters and digits. -/
theorem isConstant_iff {cs : List Char} :
    isConstant cs = true ↔ ∃ c ds, cs = c :: ds ∧ isUpper c = true ∧ ∀ d ∈ ds, isAlphanumeric d = true := by
  cases cs with
  | nil => simp [isConstant]
  | cons c cs => simp [isConstant, and_assoc]

/-- A constant may go on with any letters and digits. -/
theorem isConstant_append {cs ds : List Char} (hcs : isConstant cs = true)
    (hds : ∀ c ∈ ds, isAlphanumeric c = true) : isConstant (cs ++ ds) = true := by
  obtain ⟨c, es, rfl, hc, hes⟩ := isConstant_iff.mp hcs
  exact isConstant_iff.mpr ⟨c, es ++ ds, rfl, hc, fun d hd => (List.mem_append.mp hd).elim (hes d) (hds d)⟩

theorem isAlphanumeric_of_isConstant {cs : List Char} (h : isConstant cs = true) :
    ∀ c ∈ cs, isAlphanumeric c = true := by
  obtain ⟨c, ds, rfl, hc, hds⟩ := isConstant_iff.mp h
  intro d hd
  rcases List.mem_cons.mp hd with rfl | hd
  · exact isAlphanumeric_iff.mpr (Or.inr (Or.inl hc))
  · exact hds d hd

/-! ## Snake case -/

/-- A character of a name in snake case: an ASCII lower-case letter, an ASCII digit or `_`. -/
def isSnakePart (c : Char) : Bool :=
  isLower c || isAsciiDigit c || c == '_'

/-- In snake case there are lower-case letters, digits and underscores. -/
theorem isSnakePart_iff {c : Char} :
    isSnakePart c = true ↔ isLower c = true ∨ isAsciiDigit c = true ∨ c = '_' := by
  simp only [isSnakePart, Bool.or_eq_true, beq_iff_eq, or_assoc]

theorem isNamePart_of_isSnakePart {c : Char} (h : isSnakePart c = true) : isNamePart c = true := by
  rw [isNamePart_iff, isAlphanumeric_iff]
  rcases isSnakePart_iff.mp h with h | h | h
  · exact Or.inl (Or.inl h)
  · exact Or.inl (Or.inr (Or.inr h))
  · exact Or.inr h

theorem isSnakePart_of_isLower {c : Char} (h : isLower c = true) : isSnakePart c = true :=
  isSnakePart_iff.mpr (Or.inl h)

/-- A character that a name may have is written in lower case. -/
theorem snakeChar_eq_lower {c : Char} (h : isNamePart c = true) : snakeChar c = lower c := by
  have hne : (c == '-') = false := by
    rw [beq_eq_false_iff_ne]
    rintro rfl
    exact absurd h (by decide)
  simp only [snakeChar, hne, Bool.false_eq_true, if_false]

theorem not_isUpper_of_isSnakePart {c : Char} (h : isSnakePart c = true) : isUpper c = false := by
  rcases isSnakePart_iff.mp h with h | h | rfl
  · exact not_isUpper_of_isLower h
  · rw [Bool.eq_false_iff, ne_eq, isUpper_iff]
    rw [isAsciiDigit_iff] at h
    omega
  · decide

/-- Such a character is in snake case already. -/
theorem snakeChar_eq_self {c : Char} (h : isSnakePart c = true) : snakeChar c = c := by
  rw [snakeChar_eq_lower (isNamePart_of_isSnakePart h), lower_of_not_isUpper (not_isUpper_of_isSnakePart h)]

theorem isLower_snakeChar {c : Char} (h : isLetter c = true) : isLower (snakeChar c) = true := by
  rw [snakeChar_eq_lower (isNamePart_of_isLetter h), isLower_lower_iff]
  exact h

/-- A character of a name is changed to one of snake case. -/
theorem isSnakePart_snakeChar {c : Char} (h : isNamePart c = true) : isSnakePart (snakeChar c) = true := by
  cases hl : isLetter c with
  | true => exact isSnakePart_of_isLower (isLower_snakeChar hl)
  | false =>
    -- what is no letter stays as it is
    simp only [isNamePart_iff, isAlphanumeric, hl, Bool.false_or] at h
    have hpart : isSnakePart c = true := isSnakePart_iff.mpr (Or.inr h)
    rwa [snakeChar_eq_self hpart]

/-- **A name in snake case has no other characters**, as only underscores are added. -/
theorem isSnakePart_of_mem_snakeFrom {before : Option Char} {cs : List Char}
    (h : ∀ c ∈ cs, isNamePart c = true) : ∀ c ∈ snakeFrom before cs, isSnakePart c = true := by
  induction cs generalizing before with
  | nil => intro c hc; exact absurd hc (by simp [snakeFrom])
  | cons d ds ih =>
    have hd : isSnakePart (snakeChar d) = true := isSnakePart_snakeChar (h d List.mem_cons_self)
    have htail : ∀ c ∈ snakeFrom (some d) ds, isSnakePart c = true :=
      ih fun c hc => h c (List.mem_cons_of_mem d hc)
    intro c hc
    unfold snakeFrom at hc
    split at hc
    · -- at a boundary an underscore is written first
      rcases List.mem_cons.mp hc with rfl | hc
      · rfl
      · exact (List.mem_cons.mp hc).elim (fun he => he ▸ hd) (htail c)
    · exact (List.mem_cons.mp hc).elim (fun he => he ▸ hd) (htail c)

/-- No word boundary stands before the first character of a name. -/
theorem snake_cons (c : Char) (cs : List Char) : snake (c :: cs) = snakeChar c :: snakeFrom (some c) cs := by
  simp [snake, snakeFrom, isBoundary]

/-- What snake case keeps as it is, is no upper-case letter. -/
theorem not_isUpper_of_snakeChar_eq_self {c : Char} (h : snakeChar c = c) : isUpper c = false := by
  by_cases hhyphen : c = '-'
  · rw [hhyphen]
    decide
  · rw [snakeChar, if_neg (by simpa using hhyphen)] at h
    exact lower_eq_self_iff.mp h

/-- A text whose characters are all as snake case has them is left as it is, as no word is seen to start. -/
theorem snakeFrom_eq_self {before : Option Char} {cs : List Char} (h : ∀ c ∈ cs, snakeChar c = c) :
    snakeFrom before cs = cs := by
  induction cs generalizing before with
  | nil => rfl
  | cons c cs ih =>
    have hc := h c List.mem_cons_self
    unfold snakeFrom
    rw [if_neg (by simp [isBoundary, not_isUpper_of_snakeChar_eq_self hc]), hc,
      ih fun d hd => h d (List.mem_cons_of_mem c hd)]

/-- **A name whose characters are as snake case has them** is left as it is. -/
theorem snake_eq_self {cs : List Char} (h : ∀ c ∈ cs, snakeChar c = c) : snake cs = cs :=
  snakeFrom_eq_self h

/-! ## The last word -/

/-- Reading up to the first underscore passes over any text that has none. -/
theorem takeWhile_append_of_not_mem {cs ds : List Char} (h : '_' ∉ cs) :
    (cs ++ ds).takeWhile (· != '_') = cs ++ ds.takeWhile (· != '_') := by
  refine List.takeWhile_append_of_pos fun c hc => bne_iff_ne.mpr ?_
  rintro rfl
  exact h hc

/-- Without an underscore the whole name is the last word. -/
theorem splitLast_of_not_mem {cs : List Char} (h : '_' ∉ cs) : splitLast cs = ([], cs) := by
  have hrev : '_' ∉ cs.reverse := fun hm => h (List.mem_reverse.mp hm)
  have htake : cs.reverse.takeWhile (· != '_') = cs.reverse := by
    have happ := @takeWhile_append_of_not_mem cs.reverse [] hrev
    simpa using happ
  simp [splitLast, htake]

/-- The last word stands behind the last underscore. -/
theorem splitLast_append {head last : List Char} (h : '_' ∉ last) :
    splitLast (head ++ '_' :: last) = (head, last) := by
  have hlast : '_' ∉ last.reverse := fun hm => h (List.mem_reverse.mp hm)
  have htake : (head ++ '_' :: last).reverse.takeWhile (· != '_') = last.reverse := by
    have happ := @takeWhile_append_of_not_mem last.reverse ('_' :: head.reverse) hlast
    simpa using happ
  have hlen : (head ++ '_' :: last).length - last.length - 1 = head.length := by
    rw [List.length_append, List.length_cons]
    omega
  unfold splitLast
  dsimp only
  rw [htake, List.reverse_reverse, hlen, List.take_left]

/-- **A name is its words joined by underscores.** The last word has none; before it stands the rest of the name
    and an underscore, or nothing at all. -/
theorem splitLast_cases (cs : List Char) :
    '_' ∉ (splitLast cs).2 ∧
      (cs = (splitLast cs).1 ++ '_' :: (splitLast cs).2 ∨ (splitLast cs).1 = [] ∧ cs = (splitLast cs).2) := by
  by_cases hmem : '_' ∈ cs
  · -- the last underscore is the first one of the reversed name
    obtain ⟨last, head, hrev, hlast⟩ := List.eq_append_cons_of_mem (List.mem_reverse.mpr hmem)
    have hcs : cs = head.reverse ++ '_' :: last.reverse := by
      have h := congrArg List.reverse hrev
      simpa using h
    have hlast' : '_' ∉ last.reverse := fun hm => hlast (List.mem_reverse.mp hm)
    rw [hcs, splitLast_append hlast']
    exact ⟨hlast', Or.inl rfl⟩
  · rw [splitLast_of_not_mem hmem]
    exact ⟨hmem, Or.inr ⟨rfl, rfl⟩⟩

/-! ## Camel case -/

/-- Camel case drops underscores and changes case, so only letters and digits are left. -/
theorem isAlphanumeric_of_mem_camelFrom {initial : Bool} {cs : List Char}
    (h : ∀ c ∈ cs, isNamePart c = true) : ∀ c ∈ camelFrom initial cs, isAlphanumeric c = true := by
  induction cs generalizing initial with
  | nil => intro c hc; exact absurd hc (by simp [camelFrom])
  | cons d ds ih =>
    have htail : ∀ {b : Bool}, ∀ c ∈ camelFrom b ds, isAlphanumeric c = true :=
      ih fun c hc => h c (List.mem_cons_of_mem d hc)
    intro c hc
    unfold camelFrom at hc
    split at hc
    · -- an underscore is dropped
      exact htail c hc
    · rename_i hd
      rcases List.mem_cons.mp hc with rfl | hc
      · have hd' : isAlphanumeric d = true :=
          (isNamePart_iff.mp (h d List.mem_cons_self)).resolve_right (by simpa using hd)
        split
        · exact isAlphanumeric_upper hd'
        · exact isAlphanumeric_lower hd'
      · exact htail c hc

/-- A name that starts with a letter is a constant in camel case. -/
theorem isConstant_camel {c : Char} {cs : List Char} (hc : isLower c = true)
    (hcs : ∀ d ∈ cs, isNamePart d = true) : isConstant (camel (c :: cs)) = true := by
  have hne : (c == '_') = false := by
    rw [beq_eq_false_iff_ne]
    rintro rfl
    exact absurd hc (by decide)
  have heq : camel (c :: cs) = upper c :: camelFrom false cs := by
    simp [camel, camelFrom, hne]
  exact isConstant_iff.mpr ⟨upper c, camelFrom false cs, heq, isUpper_upper hc, isAlphanumeric_of_mem_camelFrom hcs⟩

/-! ## Entities -/

/-- The name of a collection consists of characters of names, the first letter included. -/
theorem isNamePart_of_isCollection {cs : List Char} (h : isCollection cs = true) :
    ∀ c ∈ cs, isNamePart c = true := by
  cases cs with
  | nil => exact absurd h (by simp [isCollection])
  | cons c cs =>
    simp only [isCollection, Bool.and_eq_true, List.all_eq_true] at h
    intro d hd
    rcases List.mem_cons.mp hd with rfl | hd
    · exact isNamePart_of_isLetter h.1
    · exact h.2 d hd

/-- There is no white space in a name that trimming could remove. -/
theorem trim_of_isNamePart {cs : List Char} (h : ∀ c ∈ cs, isNamePart c = true) : trim cs = cs := by
  refine trim_eq_self fun c hc => ?_
  rw [Bool.eq_false_iff]
  intro hb
  exact absurd (h c hc) (by simp [not_isNamePart_of_isBlank hb])

/-- The words of an acceptable collection name: lower-case letters, digits and underscores after a letter. -/
theorem snake_of_isCollection {cs : List Char} (h : isCollection cs = true) :
    ∃ c ds, snake cs = c :: ds ∧ isLower c = true ∧ ∀ d ∈ ds, isSnakePart d = true := by
  cases cs with
  | nil => exact absurd h (by simp [isCollection])
  | cons c cs =>
    have hparts := isNamePart_of_isCollection h
    simp only [isCollection, Bool.and_eq_true] at h
    refine ⟨snakeChar c, snakeFrom (some c) cs, snake_cons c cs, isLower_snakeChar h.1, ?_⟩
    exact isSnakePart_of_mem_snakeFrom fun d hd => hparts d (List.mem_cons_of_mem c hd)

/-- The singular of a word in snake case has only characters of names. -/
theorem isNamePart_of_mem_singular {cs : List Char} (h : ∀ c ∈ cs, isSnakePart c = true) :
    ∀ c ∈ singular cs, isNamePart c = true := by
  intro c hc
  refine isNamePart_of_isSnakePart ?_
  rcases mem_singular hc with hc | hc
  · exact h c hc
  · exact isSnakePart_of_isLower hc

/-- **The entity of a collection in snake case**: only its last word is put into the singular. -/
theorem entity_append {head last : List Char} (hhead : ∀ c ∈ head, isSnakePart c = true)
    (hlast : ∀ c ∈ last, isSnakePart c = true) (hword : '_' ∉ last) :
    entity (head ++ '_' :: last) = camel head ++ camel (singular last) := by
  have hall : ∀ c ∈ head ++ '_' :: last, isSnakePart c = true := by
    intro c hc
    rcases List.mem_append.mp hc with hc | hc
    · exact hhead c hc
    · exact (List.mem_cons.mp hc).elim (fun he => he ▸ rfl) (hlast c)
  unfold entity
  rw [trim_of_isNamePart fun c hc => isNamePart_of_isSnakePart (hall c hc),
    snake_eq_self fun c hc => snakeChar_eq_self (hall c hc), splitLast_append hword]

/-- **The entity of an acceptable collection is named by a constant.** -/
theorem isConstant_entity {cs : List Char} (h : isCollection cs = true) : isConstant (entity cs) = true := by
  obtain ⟨c, ds, hsnake, hc, hds⟩ := snake_of_isCollection h
  have hall : ∀ d ∈ c :: ds, isSnakePart d = true := by
    intro d hd
    rcases List.mem_cons.mp hd with rfl | hd
    · exact isSnakePart_of_isLower hc
    · exact hds d hd
  have hentity : entity cs = camel (splitLast (c :: ds)).1 ++ camel (singular (splitLast (c :: ds)).2) := by
    unfold entity
    rw [trim_of_isNamePart (isNamePart_of_isCollection h), hsnake]
  rw [hentity]
  obtain ⟨-, hjoin | ⟨hhead, hlast⟩⟩ := splitLast_cases (c :: ds)
  · -- several words: the first one is not empty, since an underscore is no letter
    generalize (splitLast (c :: ds)).1 = head at hjoin ⊢
    generalize (splitLast (c :: ds)).2 = last at hjoin ⊢
    have hmem : ∀ d, d ∈ head ∨ d ∈ last → isSnakePart d = true := by
      intro d hd
      refine hall d ?_
      rw [hjoin]
      exact hd.elim (List.mem_append_left _) fun hd => List.mem_append_right _ (List.mem_cons_of_mem _ hd)
    cases head with
    | nil =>
      obtain ⟨rfl, -⟩ := List.cons.inj hjoin
      exact absurd hc (by decide)
    | cons e es =>
      obtain ⟨rfl, -⟩ := List.cons.inj hjoin
      refine isConstant_append (isConstant_camel hc ?_) ?_
      · exact fun d hd => isNamePart_of_isSnakePart (hmem d (Or.inl (List.mem_cons_of_mem _ hd)))
      · exact isAlphanumeric_of_mem_camelFrom (isNamePart_of_mem_singular fun d hd => hmem d (Or.inr hd))
  · -- one word: its singular starts as it does
    rw [hhead, ← hlast]
    have hfirst : (singular (c :: ds)).head? = some c := head?_singular (c :: ds)
    obtain ⟨es, hes⟩ := List.head?_eq_some_iff.mp hfirst
    have hparts := isNamePart_of_mem_singular hall
    rw [hes] at hparts ⊢
    exact isConstant_camel hc fun d hd => hparts d (List.mem_cons_of_mem c hd)

end RecordGate.Name
