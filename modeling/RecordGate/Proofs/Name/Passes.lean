import RecordGate.Proofs.Name.Casing

/-!
# `RecordGate.Proofs.Name.Passes` — snake case as two rewritings

Snake case is often described by two patterns, each of which is replaced from left to right wherever it is found, and
never in text that belongs to a replacement already. The first pattern separates an acronym from the word behind it, the
second a word from the next one. `snake` reads a name once instead, and looks at three characters at a time.

The two come to the same (`snake_eq_passes`). A match of the first pattern may be long, but it is cut in one place, which
its neighbours determine (`marked_acronym`). So each rewriting marks the characters that one condition picks out
(`marks_acronym?`, `marks_seam?`), and the two conditions together are that of a word boundary.
-/

namespace RecordGate.Name

open Text

/-! ## Rewriting from left to right -/

/-- Replaces what `found?` finds: the replacement of a match at the start of a text, and the rest behind the match.
    Not more than `fuel` characters are looked at. -/
def replaceFrom (found? : List Char → Option (List Char × List Char)) : Nat → List Char → List Char
  | 0, cs => cs
  | _ + 1, [] => []
  | fuel + 1, c :: cs =>
    match found? (c :: cs) with
    | some (replacement, rest) => replacement ++ replaceFrom found? fuel rest
    | none => c :: replaceFrom found? fuel cs

/-- Replaces all matches in a text. -/
def replaceAll (found? : List Char → Option (List Char × List Char)) (cs : List Char) : List Char :=
  replaceFrom found? cs.length cs

/-- A character of an acronym. -/
def isAcronymPart (c : Char) : Bool :=
  isUpper c || isDigit c

/-- The match of an acronym and the start of a word behind it, after the first `n` characters: an underscore is put
    between the two. -/
def acronymOf? (cs : List Char) (n : Nat) : Option (List Char × List Char) :=
  match cs.drop n with
  | c :: d :: rest => if isUpper c && isLower d then some (cs.take n ++ ['_', c, d], rest) else none
  | _ => none

/-- The match of an acronym and the start of a word behind it, with the longest acronym possible. -/
def acronym? (cs : List Char) : Option (List Char × List Char) :=
  (List.range' 1 (cs.takeWhile isAcronymPart).length).reverse.findSome? (acronymOf? cs)

/-- The match of the end of one word and the start of the next. -/
def seam? : List Char → Option (List Char × List Char)
  | b :: c :: rest => if (isLower b || isDigit b) && isUpper c then some ([b, '_', c], rest) else none
  | _ => none

/-! ## Marks -/

/-- Puts an underscore before each character that `cut` picks out by itself and by its neighbours. -/
def marked (cut : Option Char → Char → Option Char → Bool) (before : Option Char) : List Char → List Char
  | [] => []
  | c :: cs => (if cut before c cs.head? then ['_', c] else [c]) ++ marked cut (some c) cs

/-- Whether a word starts at `c` behind an acronym. -/
def isAcronymEnd (before : Option Char) (c : Char) (after : Option Char) : Bool :=
  isUpper c && before.any isAcronymPart && after.any isLower

/-- Whether a word starts at `c` behind another one. -/
def isSeam (before : Option Char) (c : Char) (_after : Option Char) : Bool :=
  isUpper c && before.any fun b => isLower b || isDigit b

/-- **Words start in two kinds of places**, one for each pattern. -/
theorem isBoundary_eq (before : Option Char) (c : Char) (after : Option Char) :
    isBoundary before c after = (isAcronymEnd before c after || isSeam before c after) := by
  cases before with
  | none => simp [isBoundary, isAcronymEnd, isSeam]
  | some b =>
    simp only [isBoundary, isAcronymEnd, isSeam, isAcronymPart, Option.any_some]
    cases isUpper c <;> cases isLower b <;> cases isDigit b <;> cases isUpper b <;> cases after.any isLower <;> rfl

/-- No ASCII letter is a digit. -/
theorem isDigit_of_isLetter {c : Char} (h : isLetter c = true) : isDigit c = false := by
  have hcase := isLetter_iff.mp h
  have halnum : isAlphanumeric c = true := isAlphanumeric_iff.mpr (hcase.imp id Or.inl)
  rw [isDigit_of_isAlphanumeric halnum, Bool.eq_false_iff, ne_eq, isAsciiDigit_iff]
  rw [isLower_iff, isUpper_iff] at hcase
  omega

/-- A lower-case letter ends an acronym. -/
theorem isAcronymPart_of_isLower {c : Char} (h : isLower c = true) : isAcronymPart c = false := by
  rw [isAcronymPart, not_isUpper_of_isLower h, isDigit_of_isLetter (isLetter_iff.mpr (Or.inl h))]
  rfl

section

variable {cut : Option Char → Char → Option Char → Bool}

/-- Where there is no cut, the next character stands next. -/
theorem marked_cons_of_false {before : Option Char} {c : Char} {cs : List Char} (h : cut before c cs.head? = false) :
    marked cut before (c :: cs) = c :: marked cut (some c) cs := by
  rw [marked, h]
  rfl

/-- Where there is one, an underscore stands between. -/
theorem marked_cons_of_true {before : Option Char} {c : Char} {cs : List Char} (h : cut before c cs.head? = true) :
    marked cut before (c :: cs) = '_' :: c :: marked cut (some c) cs := by
  rw [marked, h]
  rfl

/-- The character before a text matters for its first mark only. -/
theorem marked_congr {before before' : Option Char} {cs : List Char}
    (h : ∀ c ∈ cs.head?, cut before c cs.tail.head? = cut before' c cs.tail.head?) :
    marked cut before cs = marked cut before' cs := by
  cases cs with
  | nil => rfl
  | cons c cs =>
    have hc : cut before c cs.head? = cut before' c cs.head? := h c rfl
    rw [marked, marked, hc]

end

/-- Replacing what `found?` finds comes to putting the marks of `cut`. -/
structure Marks (found? : List Char → Option (List Char × List Char)) (cut : Option Char → Char → Option Char → Bool) :
    Prop where
  /-- A replacement is the text that it stands for with its marks, and no mark behind it depends on that text. -/
  found : ∀ cs replacement rest, found? cs = some (replacement, rest) →
    rest.length < cs.length ∧ marked cut none cs = replacement ++ marked cut none rest
  /-- Where nothing is found, the next mark does not depend on the character that is passed. -/
  passed : ∀ c cs, found? (c :: cs) = none → marked cut none (c :: cs) = c :: marked cut none cs

/-- With enough fuel the matches that are found from left to right are all the cuts. -/
theorem Marks.replaceFrom_eq {found? : List Char → Option (List Char × List Char)}
    {cut : Option Char → Char → Option Char → Bool} (h : Marks found? cut) {fuel : Nat} {cs : List Char}
    (hfuel : cs.length ≤ fuel) : replaceFrom found? fuel cs = marked cut none cs := by
  induction fuel generalizing cs with
  | zero =>
    rw [List.length_eq_zero_iff.mp (Nat.le_zero.mp hfuel)]
    rfl
  | succ fuel ih =>
    cases cs with
    | nil => rfl
    | cons c cs =>
      rw [replaceFrom]
      split
      case h_1 replacement rest hmatch =>
        obtain ⟨hlength, hmarked⟩ := h.found (c :: cs) replacement rest hmatch
        rw [ih (by omega), hmarked]
      case h_2 hmatch =>
        rw [List.length_cons] at hfuel
        rw [ih (by omega), h.passed c cs hmatch]

/-- **Rewriting all matches marks all cuts.** -/
theorem Marks.replaceAll_eq {found? : List Char → Option (List Char × List Char)}
    {cut : Option Char → Char → Option Char → Bool} (h : Marks found? cut) (cs : List Char) :
    replaceAll found? cs = marked cut none cs :=
  h.replaceFrom_eq (Nat.le_refl cs.length)

/-! ## The first pattern -/

/-- An acronym does not end as long as it goes on. -/
theorem isAcronymEnd_of_isAcronymPart {before : Option Char} {c d : Char} (hd : isAcronymPart d = true) :
    isAcronymEnd before c (some d) = false := by
  have hlower : isLower d = false := by
    rw [Bool.eq_false_iff]
    intro hl
    rw [isAcronymPart_of_isLower hl] at hd
    exact absurd hd (by decide)
  rw [isAcronymEnd, Option.any_some, hlower, Bool.and_false]

/-- The characters of an acronym take no mark, whatever stands before it. The one behind it takes the mark. -/
theorem marked_acronym {before : Option Char} {p rest : List Char} {c d : Char}
    (hp : ∀ x ∈ p, isAcronymPart x = true) (hc : isUpper c = true) (hd : isLower d = true)
    (hbefore : p = [] → before.any isAcronymPart = true) :
    marked isAcronymEnd before (p ++ c :: d :: rest) = p ++ '_' :: c :: d :: marked isAcronymEnd none rest := by
  induction p generalizing before with
  | nil =>
    have hcut : isAcronymEnd before c (some d) = true := by
      rw [isAcronymEnd, hc, hbefore rfl, Option.any_some, hd]
      rfl
    have hkeep : isAcronymEnd (some c) d rest.head? = false := by
      rw [isAcronymEnd, not_isUpper_of_isLower hd]
      rfl
    have hbehind : marked isAcronymEnd (some d) rest = marked isAcronymEnd none rest :=
      marked_congr fun e _ => by
        rw [isAcronymEnd, isAcronymEnd, Option.any_some, isAcronymPart_of_isLower hd]
        rfl
    rw [List.nil_append, marked_cons_of_true hcut, marked_cons_of_false hkeep, hbehind]
    rfl
  | cons x p ih =>
    -- what follows `x` is part of the acronym too, so nothing is cut off in front of `x`
    have hnext : ∃ y, (p ++ c :: d :: rest).head? = some y ∧ isAcronymPart y = true := by
      cases p with
      | nil => exact ⟨c, rfl, by rw [isAcronymPart, hc]; rfl⟩
      | cons y p => exact ⟨y, rfl, hp y (by simp)⟩
    obtain ⟨y, hy, hpart⟩ := hnext
    have hx : isAcronymEnd before x (p ++ c :: d :: rest).head? = false := by
      rw [hy, isAcronymEnd_of_isAcronymPart hpart]
    have hrest : marked isAcronymEnd (some x) (p ++ c :: d :: rest) =
        p ++ '_' :: c :: d :: marked isAcronymEnd none rest :=
      ih (fun z hz => hp z (List.mem_cons_of_mem x hz)) fun _ => hp x List.mem_cons_self
    rw [List.cons_append, marked_cons_of_false hx, hrest]
    rfl

/-- What is taken from the front of a run has what all of the run has. -/
theorem mem_take_takeWhile {α : Type} {q : α → Bool} {xs : List α} {n : Nat} (hn : n ≤ (xs.takeWhile q).length) :
    ∀ x ∈ xs.take n, q x = true := by
  intro x hx
  have htake : xs.take n = (xs.takeWhile q).take n := by
    conv => lhs; rw [← List.takeWhile_append_dropWhile (p := q) (l := xs)]
    rw [List.take_append_of_le_length hn]
  rw [htake] at hx
  exact List.all_eq_true.mp List.all_takeWhile x (List.mem_of_mem_take hx)

/-- A match of the first pattern is an acronym and the first two letters of the word behind it. -/
theorem split_of_acronym? {cs replacement rest : List Char} (h : acronym? cs = some (replacement, rest)) :
    ∃ p c d, cs = p ++ c :: d :: rest ∧ replacement = p ++ ['_', c, d] ∧ p ≠ [] ∧
      (∀ x ∈ p, isAcronymPart x = true) ∧ isUpper c = true ∧ isLower d = true := by
  obtain ⟨n, hmem, hn⟩ := List.exists_of_findSome?_eq_some h
  have hrange := List.mem_range'_1.mp (List.mem_reverse.mp hmem)
  rw [acronymOf?] at hn
  split at hn
  case h_2 => exact absurd hn (by simp)
  case h_1 c d rest' hdrop =>
    split at hn
    case isFalse => exact absurd hn (by simp)
    case isTrue hletters =>
      obtain ⟨rfl, rfl⟩ : cs.take n ++ ['_', c, d] = replacement ∧ rest' = rest := by simpa using hn
      rw [Bool.and_eq_true] at hletters
      refine ⟨cs.take n, c, d, ?_, rfl, ?_, mem_take_takeWhile (by omega), hletters.1, hletters.2⟩
      · rw [← hdrop, List.take_append_drop]
      · intro hnil
        have hcs : cs ≠ [] := by
          rintro rfl
          simp at hdrop
        rcases List.take_eq_nil_iff.mp hnil with hzero | hempty
        · omega
        · exact hcs hempty

/-- Where the first pattern does not match, the second character takes no mark. -/
theorem isAcronymEnd_of_acronym? {b c : Char} {rest : List Char} (h : acronym? (b :: c :: rest) = none) :
    isAcronymEnd (some b) c rest.head? = false := by
  cases rest with
  | nil => simp [isAcronymEnd]
  | cons d rest =>
    rw [Bool.eq_false_iff]
    intro hcut
    simp only [isAcronymEnd, Bool.and_eq_true, Option.any_some, List.head?_cons] at hcut
    obtain ⟨⟨hc, hb⟩, hd⟩ := hcut
    -- the first character alone would be an acronym
    have hmem : 1 ∈ (List.range' 1 ((b :: c :: d :: rest).takeWhile isAcronymPart).length).reverse := by
      rw [List.mem_reverse, List.mem_range'_1, List.takeWhile_cons_of_pos hb, List.length_cons]
      omega
    have hmatch : acronymOf? (b :: c :: d :: rest) 1 = some ([b, '_', c, d], rest) :=
      if_pos (by rw [hc, hd]; rfl)
    have hnone := List.findSome?_eq_none_iff.mp h 1 hmem
    rw [hmatch] at hnone
    exact absurd hnone (by simp)

/-- A match of the first pattern is replaced by itself with its cut marked. -/
theorem marked_of_acronym? {cs replacement rest : List Char} (h : acronym? cs = some (replacement, rest)) :
    rest.length < cs.length ∧ marked isAcronymEnd none cs = replacement ++ marked isAcronymEnd none rest := by
  obtain ⟨p, c, d, rfl, rfl, hne, hp, hc, hd⟩ := split_of_acronym? h
  constructor
  · simp only [List.length_append, List.length_cons]
    omega
  · rw [marked_acronym hp hc hd fun hnil => absurd hnil hne]
    simp

/-- Where the first pattern does not match, there is no cut behind the next character. -/
theorem marked_of_acronym?_eq_none {b : Char} {cs : List Char} (h : acronym? (b :: cs) = none) :
    marked isAcronymEnd none (b :: cs) = b :: marked isAcronymEnd none cs := by
  have hfirst : isAcronymEnd none b cs.head? = false := by simp [isAcronymEnd]
  rw [marked_cons_of_false hfirst]
  refine congrArg (b :: ·) (marked_congr fun c hc => ?_)
  cases cs with
  | nil => exact absurd hc (by simp)
  | cons c' rest =>
    obtain rfl := Option.some.inj hc
    rw [List.tail_cons, isAcronymEnd_of_acronym? h]
    simp [isAcronymEnd]

/-- **The first pattern marks the ends of acronyms.** -/
theorem marks_acronym? : Marks acronym? isAcronymEnd :=
  ⟨fun _ _ _ => marked_of_acronym?, fun _ _ => marked_of_acronym?_eq_none⟩

/-! ## The second pattern -/

/-- A match of the second pattern is two characters with a mark between them. -/
theorem marked_of_seam? {cs replacement rest : List Char} (h : seam? cs = some (replacement, rest)) :
    rest.length < cs.length ∧ marked isSeam none cs = replacement ++ marked isSeam none rest := by
  unfold seam? at h
  split at h
  case h_2 => exact absurd h (by simp)
  case h_1 b c rest' =>
    split at h
    case isFalse => exact absurd h (by simp)
    case isTrue hseam =>
      obtain ⟨rfl, rfl⟩ : [b, '_', c] = replacement ∧ rest' = rest := by simpa using h
      obtain ⟨hb, hc⟩ := (Bool.and_eq_true _ _).mp hseam
      have hfirst : isSeam none b (some c) = false := by simp [isSeam]
      have hcut : isSeam (some b) c rest'.head? = true := by rw [isSeam, hc, Option.any_some, hb]; rfl
      -- the letter behind the seam ends no word
      have hlower : isLower c = false := by
        rw [Bool.eq_false_iff]
        intro hl
        rw [not_isUpper_of_isLower hl] at hc
        exact absurd hc (by decide)
      have hdigit : isDigit c = false := isDigit_of_isLetter (isLetter_iff.mpr (Or.inr hc))
      have hbehind : marked isSeam (some c) rest' = marked isSeam none rest' :=
        marked_congr fun d _ => by simp [isSeam, hlower, hdigit]
      constructor
      · simp only [List.length_cons]
        omega
      · rw [marked_cons_of_false hfirst, marked_cons_of_true hcut, hbehind]
        rfl

/-- Where the second pattern does not match, there is no cut behind the next character. -/
theorem marked_of_seam?_eq_none {b : Char} {cs : List Char} (h : seam? (b :: cs) = none) :
    marked isSeam none (b :: cs) = b :: marked isSeam none cs := by
  have hfirst : isSeam none b cs.head? = false := by simp [isSeam]
  rw [marked_cons_of_false hfirst]
  refine congrArg (b :: ·) (marked_congr fun c hc => ?_)
  cases cs with
  | nil => exact absurd hc (by simp)
  | cons c' rest =>
    obtain rfl := Option.some.inj hc
    have hseam : ((isLower b || isDigit b) && isUpper c') = false := by simpa [seam?] using h
    rw [Bool.and_comm] at hseam
    rw [isSeam, isSeam, Option.any_some, Option.any_none, hseam, Bool.and_false]

/-- **The second pattern marks the seams** between a lower-case letter or a digit and an upper-case letter. -/
theorem marks_seam? : Marks seam? isSeam :=
  ⟨fun _ _ _ => marked_of_seam?, fun _ _ => marked_of_seam?_eq_none⟩

/-! ## Both patterns -/

/-- No word is seen to start at or behind an underscore that an earlier rewriting has put in. -/
theorem marked_isSeam_marked_isAcronymEnd (before : Option Char) (cs : List Char) :
    marked isSeam before (marked isAcronymEnd before cs) = marked isBoundary before cs := by
  induction cs generalizing before with
  | nil => rfl
  | cons c cs ih =>
    have hboundary := isBoundary_eq before c cs.head?
    cases hcut : isAcronymEnd before c cs.head? with
    | true =>
      rw [hcut, Bool.true_or] at hboundary
      have hunderscore (after : Option Char) : isSeam before '_' after = false := rfl
      have hc (after : Option Char) : isSeam (some '_') c after = false := by
        rw [isSeam, show Option.any _ (some '_') = false by decide, Bool.and_false]
      rw [marked_cons_of_true hcut, marked_cons_of_false (hunderscore _), marked_cons_of_false (hc _), ih,
        marked_cons_of_true hboundary]
    | false =>
      rw [hcut, Bool.false_or] at hboundary
      rw [marked_cons_of_false hcut, marked, marked, ih, hboundary]
      rfl

/-- Snake case marks where words start, and changes characters one by one. -/
theorem snakeFrom_eq_map_marked (before : Option Char) (cs : List Char) :
    snakeFrom before cs = (marked isBoundary before cs).map snakeChar := by
  induction cs generalizing before with
  | nil => rfl
  | cons c cs ih =>
    cases hcut : isBoundary before c cs.head? with
    | true =>
      rw [snakeFrom, if_pos hcut, marked_cons_of_true hcut, ih]
      rfl
    | false =>
      rw [snakeFrom, if_neg (Bool.eq_false_iff.mp hcut), marked_cons_of_false hcut, ih]
      rfl

/-- Snake case is what the two patterns make of a name, one after the other, with hyphens turned into underscores and
    letters into lower case at the end. -/
theorem snake_eq_passes (cs : List Char) :
    snake cs = (replaceAll seam? (replaceAll acronym? cs)).map snakeChar := by
  rw [marks_acronym?.replaceAll_eq, marks_seam?.replaceAll_eq, marked_isSeam_marked_isAcronymEnd, ← snakeFrom_eq_map_marked]
  rfl

end RecordGate.Name
