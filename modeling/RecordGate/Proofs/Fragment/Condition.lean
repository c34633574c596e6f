import RecordGate.Fragment.Condition
import RecordGate.Proofs.Text.Character
import RecordGate.Proofs.Text.Trim

/-!
# `RecordGate.Proofs.Fragment.Condition` — safe text, its characters and its pieces

A refused construct is refused wherever it starts, so safety is a property of every position of a text
(`safeFrom_eq_false_iff`). Two consequences: a safe text has no backslash and no NUL (`not_mem_of_isSafe`), and a
piece of a safe text is safe when no word of the text runs across its ends (`IsPiece`, `isSafe_of_isPiece`). The
second one needs that a refused construct stays refused whatever follows it, as long as the word it ends in is not
continued (`startsRefused_append`).
-/

namespace RecordGate.Fragment

open Text

/-! ## What starts at a position -/

/-- A keyword starts here if the characters spell it up to case and no word character comes next. -/
theorem startsKeyword_iff {w : String} {cs : List Char} :
    startsKeyword w cs = true ↔ ∃ u b, cs = u ++ b ∧ u.map fold = w.toList ∧ startsWord b = false := by
  simp only [startsKeyword, any_afterWord?_iff, Bool.not_eq_true']

/-- The mark of a system procedure counts only if the word goes on behind it. -/
theorem startsProcedure_iff {cs : List Char} :
    startsProcedure cs = true ↔ ∃ u b, cs = u ++ b ∧ u.map fold = procedureMark.toList ∧ startsWord b = true :=
  any_afterWord?_iff

/-- A word comes next behind any amount of white space. -/
theorem startsWord_trimStart_iff {cs : List Char} :
    startsWord (trimStart cs) = true ↔
      ∃ blanks c b, cs = blanks ++ c :: b ∧ (∀ x ∈ blanks, isBlank x = true) ∧ isWord c = true := by
  constructor
  · intro h
    obtain ⟨blanks, hcs, hblanks⟩ := exists_append_trimStart cs
    cases ht : trimStart cs with
    | nil =>
      rw [ht] at h
      exact absurd h (by simp [startsWord])
    | cons c b =>
      rw [ht] at h hcs
      exact ⟨blanks, c, b, hcs, hblanks, h⟩
  · rintro ⟨blanks, c, b, rfl, hblanks, hc⟩
    have hne : isBlank c = false := by
      rw [Bool.eq_false_iff]
      intro hblank
      rw [not_isWord_of_isBlank hblank] at hc
      exact absurd hc (by decide)
    rw [trimStart_append_left hblanks, trimStart_cons_of_not_isBlank hne]
    exact hc

/-- **The refused constructs that are no words**: a statement behind a semicolon, two kinds of comments, a backslash and
    NUL. -/
theorem startsMark_iff {cs : List Char} :
    startsMark cs = true ↔
      (∃ ds, cs = ';' :: ds ∧ startsWord (trimStart ds) = true) ∨ (∃ ds, cs = ['-', '-'] ++ ds) ∨
        (∃ ds, cs = ['/', '*'] ++ ds) ∨ (∃ ds, cs = '\\' :: ds) ∨ ∃ ds, cs = '\x00' :: ds := by
  constructor
  · intro h
    unfold startsMark at h
    split at h
    · exact Or.inl ⟨_, rfl, h⟩
    · exact Or.inr (Or.inl ⟨_, rfl⟩)
    · exact Or.inr (Or.inr (Or.inl ⟨_, rfl⟩))
    · simp only [Bool.or_eq_true, beq_iff_eq] at h
      rcases h with rfl | rfl
      · exact Or.inr (Or.inr (Or.inr (Or.inl ⟨_, rfl⟩)))
      · exact Or.inr (Or.inr (Or.inr (Or.inr ⟨_, rfl⟩)))
    · exact absurd h (by simp)
  · rintro (⟨ds, rfl, h⟩ | ⟨ds, rfl⟩ | ⟨ds, rfl⟩ | ⟨ds, rfl⟩ | ⟨ds, rfl⟩)
    · exact h
    · rfl
    · rfl
    · rfl
    · rfl

theorem startsRefused_nil (inWord : Bool) : startsRefused inWord [] = false := by
  cases inWord with
  | false => decide
  | true => decide

/-- Marks are refused also inside words. -/
theorem startsRefused_of_startsMark (inWord : Bool) {cs : List Char} (h : startsMark cs = true) :
    startsRefused inWord cs = true := by
  unfold startsRefused
  rw [h, Bool.or_true]

/-! ## Positions of a text -/

/-- Whether a word character stands right before the end of `cs`, read after `inWord`. -/
def endsInWord (inWord : Bool) (cs : List Char) : Bool :=
  cs.foldl (fun _ c => isWord c) inWord

/-- Whether a text ends in a word is found from left to right. -/
theorem endsInWord_append (inWord : Bool) (cs ds : List Char) :
    endsInWord inWord (cs ++ ds) = endsInWord (endsInWord inWord cs) ds :=
  List.foldl_append

/-- **A text is unsafe if a refused construct starts at one of its positions.** -/
theorem safeFrom_eq_false_iff {inWord : Bool} {cs : List Char} :
    safeFrom inWord cs = false ↔ ∃ a b, cs = a ++ b ∧ startsRefused (endsInWord inWord a) b = true := by
  induction cs generalizing inWord with
  | nil =>
    simp only [safeFrom, reduceCtorEq, false_iff]
    rintro ⟨a, b, hab, hr⟩
    obtain ⟨rfl, rfl⟩ := List.append_eq_nil_iff.mp hab.symm
    rw [startsRefused_nil] at hr
    exact absurd hr (by decide)
  | cons c cs ih =>
    simp only [safeFrom, Bool.and_eq_false_iff, Bool.not_eq_false', ih]
    constructor
    · rintro (hr | ⟨a, b, rfl, hr⟩)
      · exact ⟨[], c :: cs, rfl, hr⟩
      · exact ⟨c :: a, b, rfl, hr⟩
    · rintro ⟨a, b, hab, hr⟩
      cases a with
      | nil => exact Or.inl (by rw [hab]; exact hr)
      | cons d a =>
        obtain ⟨rfl, rfl⟩ := List.cons.inj hab
        exact Or.inr ⟨a, b, rfl, hr⟩

/-! ## Refused constructs and what follows them -/

theorem startsWord_append {cs ds : List Char} (h : startsWord cs = true) : startsWord (cs ++ ds) = true := by
  cases cs with
  | nil => exact absurd h (by simp [startsWord])
  | cons c cs => exact h

theorem startsWord_append_of_false {cs ds : List Char} (hcs : startsWord cs = false)
    (hds : startsWord ds = false) : startsWord (cs ++ ds) = false := by
  cases cs with
  | nil => exact hds
  | cons c cs => exact hcs

/-- What follows a keyword does not hide it, unless it continues the word. -/
theorem startsKeyword_append {w : String} {cs ds : List Char} (hds : startsWord ds = false)
    (h : startsKeyword w cs = true) : startsKeyword w (cs ++ ds) = true := by
  obtain ⟨u, b, rfl, hu, hb⟩ := startsKeyword_iff.mp h
  exact startsKeyword_iff.mpr ⟨u, b ++ ds, List.append_assoc u b ds, hu, startsWord_append_of_false hb hds⟩

/-- Nothing hides the mark of a system procedure, as its word goes on anyway. -/
theorem startsProcedure_append {cs ds : List Char} (h : startsProcedure cs = true) :
    startsProcedure (cs ++ ds) = true := by
  obtain ⟨u, b, rfl, hu, hb⟩ := startsProcedure_iff.mp h
  exact startsProcedure_iff.mpr ⟨u, b ++ ds, List.append_assoc u b ds, hu, startsWord_append hb⟩

/-- Nothing that follows a mark hides it. -/
theorem startsMark_append {cs ds : List Char} (h : startsMark cs = true) : startsMark (cs ++ ds) = true := by
  rcases startsMark_iff.mp h with ⟨es, rfl, hes⟩ | ⟨es, rfl⟩ | ⟨es, rfl⟩ | ⟨es, rfl⟩ | ⟨es, rfl⟩
  · -- the word behind the semicolon is found before `ds` is reached
    obtain ⟨blanks, c, b, rfl, hblanks, hc⟩ := startsWord_trimStart_iff.mp hes
    refine startsMark_iff.mpr (Or.inl ⟨_, rfl, startsWord_trimStart_iff.mpr ⟨blanks, c, b ++ ds, ?_, hblanks, hc⟩⟩)
    exact List.append_assoc blanks (c :: b) ds
  · rfl
  · rfl
  · rfl
  · rfl

/-- **What follows a refused construct does not save it**, unless it continues a word. -/
theorem startsRefused_append {inWord : Bool} {cs ds : List Char} (hds : startsWord ds = false)
    (h : startsRefused inWord cs = true) : startsRefused inWord (cs ++ ds) = true := by
  simp only [startsRefused, Bool.or_eq_true, Bool.and_eq_true, List.any_eq_true] at h ⊢
  -- of the three kinds of construct, only a keyword looks at what follows it
  rcases h with ⟨hout, ⟨w, hw, hk⟩ | hp⟩ | hm
  · exact Or.inl ⟨hout, Or.inl ⟨w, hw, startsKeyword_append hds hk⟩⟩
  · exact Or.inl ⟨hout, Or.inr (startsProcedure_append hp)⟩
  · exact Or.inr (startsMark_append hm)

/-! ## Pieces of a safe text -/

/-- The front of a safe text is safe if the text is not cut inside a word. -/
theorem safeFrom_of_append_left {inWord : Bool} {cs ds : List Char} (hds : startsWord ds = false)
    (h : safeFrom inWord (cs ++ ds) = true) : safeFrom inWord cs = true := by
  rw [← Bool.not_eq_false, safeFrom_eq_false_iff] at h ⊢
  -- what is refused in the piece would be refused there in the longer text as well
  rintro ⟨a, b, rfl, hr⟩
  exact h ⟨a, b ++ ds, List.append_assoc a b ds, startsRefused_append hds hr⟩

/-- The back of a safe text is safe, read with what stands before it. -/
theorem safeFrom_of_append_right {inWord : Bool} {cs ds : List Char} (h : safeFrom inWord (cs ++ ds) = true) :
    safeFrom (endsInWord inWord cs) ds = true := by
  rw [← Bool.not_eq_false, safeFrom_eq_false_iff] at h ⊢
  rintro ⟨a, b, rfl, hr⟩
  refine h ⟨cs ++ a, b, (List.append_assoc cs a b).symm, ?_⟩
  rw [endsInWord_append]
  exact hr

theorem endsInWord_of_not_isWord {cs : List Char} (h : ∀ c ∈ cs, isWord c = false) :
    endsInWord false cs = false := by
  induction cs with
  | nil => rfl
  | cons c cs ih =>
    show endsInWord (isWord c) cs = false
    rw [h c List.mem_cons_self]
    exact ih fun d hd => h d (List.mem_cons_of_mem c hd)

theorem startsWord_of_not_isWord {cs : List Char} (h : ∀ c ∈ cs, isWord c = false) : startsWord cs = false := by
  cases cs with
  | nil => rfl
  | cons c cs => exact h c List.mem_cons_self

/-- `t` is a contiguous piece of `s`, and no word of `s` runs across its ends. -/
def IsPiece (t s : List Char) : Prop :=
  ∃ a b, s = a ++ t ++ b ∧ endsInWord false a = false ∧ startsWord b = false

/-- A piece of a piece is a piece of the whole. -/
theorem IsPiece.trans {t s u : List Char} (hts : IsPiece t s) (hsu : IsPiece s u) : IsPiece t u := by
  obtain ⟨a, b, rfl, ha, hb⟩ := hts
  obtain ⟨a', b', rfl, ha', hb'⟩ := hsu
  refine ⟨a' ++ a, b ++ b', by simp, ?_, startsWord_append_of_false hb hb'⟩
  rw [endsInWord_append, ha']
  exact ha

/-- A text between characters that are no word characters is a piece of the whole. -/
theorem isPiece_of_not_isWord {t a b : List Char} (ha : ∀ c ∈ a, isWord c = false)
    (hb : ∀ c ∈ b, isWord c = false) : IsPiece t (a ++ t ++ b) :=
  ⟨a, b, rfl, endsInWord_of_not_isWord ha, startsWord_of_not_isWord hb⟩

/-- A text without the white space around it is a piece of it, since white space belongs to no word. -/
theorem isPiece_trim (cs : List Char) : IsPiece (trim cs) cs := by
  obtain ⟨a, b, hcs, ha, hb⟩ := exists_append_trim_append cs
  have hpiece : IsPiece (trim cs) (a ++ trim cs ++ b) :=
    isPiece_of_not_isWord (fun c hc => not_isWord_of_isBlank (ha c hc)) fun c hc => not_isWord_of_isBlank (hb c hc)
  rwa [← hcs] at hpiece

/-- **A piece of a safe text is safe.** -/
theorem isSafe_of_isPiece {s t : String} (hp : IsPiece t.toList s.toList) (h : isSafe s = true) :
    isSafe t = true := by
  obtain ⟨a, b, hs, ha, hb⟩ := hp
  unfold isSafe at h ⊢
  rw [hs, List.append_assoc] at h
  -- what precedes the piece ends outside of a word, as the beginning of a text does
  have hright := safeFrom_of_append_right h
  rw [ha] at hright
  exact safeFrom_of_append_left hb hright

/-! ## Characters of a safe text -/

/-- A backslash or NUL would be refused wherever it stands. -/
theorem not_mem_of_safeFrom {inWord : Bool} {cs : List Char} (h : safeFrom inWord cs = true) :
    '\\' ∉ cs ∧ '\x00' ∉ cs := by
  rw [← Bool.not_eq_false, safeFrom_eq_false_iff] at h
  -- each of the two is a refused construct by itself
  refine ⟨?_, ?_⟩
  · intro hmem
    obtain ⟨a, b, rfl⟩ := List.append_of_mem hmem
    exact h ⟨a, _, rfl, startsRefused_of_startsMark _ rfl⟩
  · intro hmem
    obtain ⟨a, b, rfl⟩ := List.append_of_mem hmem
    exact h ⟨a, _, rfl, startsRefused_of_startsMark _ rfl⟩

/-- **A safe text has no backslash and no NUL.** -/
theorem not_mem_of_isSafe {s : String} (h : isSafe s = true) : '\\' ∉ s.toList ∧ '\x00' ∉ s.toList :=
  not_mem_of_safeFrom h

end RecordGate.Fragment
