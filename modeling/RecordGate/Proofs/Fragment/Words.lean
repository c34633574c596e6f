import RecordGate.Proofs.Fragment.Condition

/-!
# `RecordGate.Proofs.Fragment.Words` — safe text, word by word

The filter looks for refused constructs at every position of a text. A reader who cuts the text into words, its
maximal runs of word characters, and compares whole words comes to the same verdict: `Offends` says in these terms
what is refused, and `isSafe_eq_false_iff` that nothing else is. So a word that only contains a refused word is
accepted, and a refused word is refused wherever it stands (`readByWords`).
-/

namespace RecordGate.Fragment

open Text

/-! ## Words of a text -/

/-- `run` is a maximal run of word characters of `cs`. -/
def IsWordIn (run cs : List Char) : Prop :=
  run ≠ [] ∧ (∀ c ∈ run, isWord c = true) ∧
    ∃ a b, cs = a ++ run ++ b ∧ (∀ c ∈ a.getLast?, isWord c = false) ∧ ∀ c ∈ b.head?, isWord c = false

/-- Equality under simple case folding, where one of the two is ASCII. -/
def EqualUpToCase (a b : List Char) : Prop :=
  a.map fold = b.map fold

/-- The words that no text may contain, in any case of their letters. -/
def refusedWords : List String :=
  ["DROP", "DELETE", "UPDATE", "INSERT", "ALTER", "CREATE", "TRUNCATE", "EXEC"]

/-- What is refused of a text, said of its words and of its other characters. -/
inductive Offends (cs : List Char) : Prop where
  /-- A word of the text is one of the refused words. -/
  | keyword (run : List Char) (w : String) (isWordIn : IsWordIn run cs) (mem : w ∈ refusedWords)
      (equal : EqualUpToCase run w.toList)
  /-- A word of the text starts with `sp_`, and goes on. -/
  | procedure (mark name : List Char) (isWordIn : IsWordIn (mark ++ name) cs)
      (equal : EqualUpToCase mark "sp_".toList) (ne_nil : name ≠ [])
  /-- A semicolon is followed by a word character, perhaps with white space between them. -/
  | statement (a blanks b : List Char) (c : Char) (eq : cs = a ++ ';' :: (blanks ++ c :: b))
      (isBlank : ∀ x ∈ blanks, isBlank x = true) (isWord : isWord c = true)
  /-- A comment up to the end of a line starts. -/
  | lineComment (isInfix : ['-', '-'] <:+: cs)
  /-- A comment between marks starts. -/
  | blockComment (isInfix : ['/', '*'] <:+: cs)
  /-- The text contains a backslash. -/
  | backslash (mem : '\\' ∈ cs)
  /-- The text contains a NUL. -/
  | nul (mem : '\x00' ∈ cs)

/-! ## Words that start at a position -/

/-- Whether a text ends in a word is a matter of its last character. -/
theorem endsInWord_eq_false_iff {cs : List Char} :
    endsInWord false cs = false ↔ ∀ c ∈ cs.getLast?, isWord c = false := by
  rcases List.eq_nil_or_concat cs with rfl | ⟨init, last, rfl⟩
  · simp [endsInWord]
  · rw [List.concat_eq_append, endsInWord_append, List.getLast?_concat]
    simp [endsInWord]

/-- Whether a text starts with a word is a matter of its first character. -/
theorem startsWord_eq_false_iff {cs : List Char} :
    startsWord cs = false ↔ ∀ c ∈ cs.head?, isWord c = false := by
  cases cs with
  | nil => simp [startsWord]
  | cons c cs => simp [startsWord]

/-- A word of a text is a run of word characters with none before it and none behind. -/
theorem isWordIn_iff {run cs : List Char} :
    IsWordIn run cs ↔ run ≠ [] ∧ (∀ c ∈ run, isWord c = true) ∧
      ∃ a b, cs = a ++ (run ++ b) ∧ endsInWord false a = false ∧ startsWord b = false := by
  simp only [IsWordIn, endsInWord_eq_false_iff, startsWord_eq_false_iff, List.append_assoc]

/-- Whether `l` may stand in a word that is refused up to case, written as it folds. -/
def isFolded (l : Char) : Bool :=
  isLower l || l == '_'

/-- What is folded to a word of ASCII letters is a word itself. -/
theorem isWord_of_map_fold {u w : List Char} (hu : u.map fold = w) (hw : w.all isFolded = true) :
    ∀ c ∈ u, isWord c = true := by
  intro c hc
  have hfolded : isFolded (fold c) = true := List.all_eq_true.mp hw _ (hu ▸ List.mem_map_of_mem hc)
  simp only [isFolded, Bool.or_eq_true, beq_iff_eq] at hfolded
  rcases hfolded with hl | hl
  · exact isWord_of_isLower_fold hl
  · rw [eq_of_fold_eq_underscore hl]
    decide

/-- The keywords are words as they come out of folding. -/
theorem isFolded_of_keyword : ∀ w ∈ keywords, w.toList ≠ [] ∧ w.toList.all isFolded = true := by
  decide

theorem isFolded_procedureMark : procedureMark.toList.all isFolded = true := by
  decide

/-- Every keyword of the reader is a refused word. -/
theorem exists_refusedWord : ∀ w ∈ keywords, ∃ r ∈ refusedWords, r.toList.map fold = w.toList := by
  decide

/-- Every refused word is a keyword of the reader. -/
theorem exists_keyword : ∀ r ∈ refusedWords, ∃ w ∈ keywords, r.toList.map fold = w.toList := by
  decide

/-- A keyword in any case is a run of word characters. -/
theorem isWord_of_keyword {u : List Char} {w : String} (hw : w ∈ keywords) (hu : u.map fold = w.toList) :
    u ≠ [] ∧ ∀ c ∈ u, isWord c = true := by
  obtain ⟨hne, hfolded⟩ := isFolded_of_keyword w hw
  refine ⟨?_, isWord_of_map_fold hu hfolded⟩
  rintro rfl
  exact hne hu.symm

/-- The word that starts a text, and what follows it. -/
theorem exists_word_append {cs : List Char} (h : startsWord cs = true) :
    ∃ v b, cs = v ++ b ∧ v ≠ [] ∧ (∀ c ∈ v, isWord c = true) ∧ startsWord b = false := by
  refine ⟨cs.takeWhile isWord, cs.dropWhile isWord, List.takeWhile_append_dropWhile.symm, ?_, ?_, ?_⟩
  · cases cs with
    | nil => exact absurd h (by simp [startsWord])
    | cons c cs =>
      have hc : isWord c = true := h
      rw [List.takeWhile_cons_of_pos hc]
      exact List.cons_ne_nil _ _
  · intro c hc
    exact List.all_eq_true.mp List.all_takeWhile c hc
  · rw [startsWord_eq_false_iff]
    intro c hc
    exact eq_false_of_mem_head?_dropWhile hc

/-! ## Positions and words -/

/-- A mark offends wherever it stands. -/
theorem offends_of_startsMark {a b : List Char} (h : startsMark b = true) : Offends (a ++ b) := by
  rcases startsMark_iff.mp h with ⟨ds, rfl, hds⟩ | ⟨ds, rfl⟩ | ⟨ds, rfl⟩ | ⟨ds, rfl⟩ | ⟨ds, rfl⟩
  · obtain ⟨blanks, c, rest, rfl, hblanks, hc⟩ := startsWord_trimStart_iff.mp hds
    exact .statement a blanks rest c rfl hblanks hc
  · exact .lineComment ⟨a, ds, List.append_assoc a _ ds⟩
  · exact .blockComment ⟨a, ds, List.append_assoc a _ ds⟩
  · exact .backslash (List.mem_append_right a List.mem_cons_self)
  · exact .nul (List.mem_append_right a List.mem_cons_self)

/-- **A construct refused at a position is an offence of the whole text.** -/
theorem offends_of_startsRefused {a b : List Char} (h : startsRefused (endsInWord false a) b = true) :
    Offends (a ++ b) := by
  simp only [startsRefused, Bool.or_eq_true, Bool.and_eq_true, Bool.not_eq_true', List.any_eq_true] at h
  rcases h with ⟨hout, ⟨w, hw, hk⟩ | hp⟩ | hm
  · -- the keyword is followed by no word character, so it is a word
    obtain ⟨u, c, rfl, hu, hc⟩ := startsKeyword_iff.mp hk
    obtain ⟨r, hr, hrw⟩ := exists_refusedWord w hw
    obtain ⟨hne, hword⟩ := isWord_of_keyword hw hu
    exact .keyword u r (isWordIn_iff.mpr ⟨hne, hword, a, c, rfl, hout, hc⟩) hr (hu.trans hrw.symm)
  · -- the word goes on behind the mark, up to the first character that is no word character
    obtain ⟨u, c, rfl, hu, hc⟩ := startsProcedure_iff.mp hp
    obtain ⟨v, d, rfl, hv, hvword, hd⟩ := exists_word_append hc
    refine .procedure u v (isWordIn_iff.mpr ⟨?_, ?_, a, d, by rw [List.append_assoc], hout, hd⟩) hu hv
    · exact fun hnil => hv (List.append_eq_nil_iff.mp hnil).2
    · intro x hx
      rcases List.mem_append.mp hx with hx | hx
      · exact isWord_of_map_fold hu isFolded_procedureMark x hx
      · exact hvword x hx
  · exact offends_of_startsMark hm

/-- **An offence is a construct refused at some position.** -/
theorem exists_startsRefused {cs : List Char} (h : Offends cs) :
    ∃ a b, cs = a ++ b ∧ startsRefused (endsInWord false a) b = true := by
  cases h with
  | keyword run r hrun hr hequal =>
    obtain ⟨-, -, a, b, rfl, ha, hb⟩ := isWordIn_iff.mp hrun
    obtain ⟨w, hw, hrw⟩ := exists_keyword r hr
    refine ⟨a, run ++ b, rfl, ?_⟩
    have hk : startsKeyword w (run ++ b) = true := startsKeyword_iff.mpr ⟨run, b, rfl, hequal.trans hrw, hb⟩
    simp only [startsRefused, ha, Bool.not_false, Bool.true_and, Bool.or_eq_true, List.any_eq_true]
    exact Or.inl (Or.inl ⟨w, hw, hk⟩)
  | procedure mark name hrun hequal hname =>
    obtain ⟨-, hword, a, b, rfl, ha, -⟩ := isWordIn_iff.mp hrun
    refine ⟨a, mark ++ name ++ b, rfl, ?_⟩
    obtain ⟨c, name, rfl⟩ := List.exists_cons_of_ne_nil hname
    have hc : isWord c = true := hword c (List.mem_append_right mark List.mem_cons_self)
    have hp : startsProcedure (mark ++ c :: name ++ b) = true :=
      startsProcedure_iff.mpr ⟨mark, c :: name ++ b, List.append_assoc mark _ b, hequal, hc⟩
    simp only [startsRefused, ha, hp, Bool.not_false, Bool.true_and, Bool.or_true, Bool.true_or]
  | statement a blanks b c heq hblanks hc =>
    refine ⟨a, ';' :: (blanks ++ c :: b), heq, startsRefused_of_startsMark _ ?_⟩
    exact startsMark_iff.mpr (Or.inl ⟨_, rfl, startsWord_trimStart_iff.mpr ⟨blanks, c, b, rfl, hblanks, hc⟩⟩)
  | lineComment hpart =>
    obtain ⟨a, b, rfl⟩ := hpart
    exact ⟨a, ['-', '-'] ++ b, List.append_assoc a _ b, startsRefused_of_startsMark _ rfl⟩
  | blockComment hpart =>
    obtain ⟨a, b, rfl⟩ := hpart
    exact ⟨a, ['/', '*'] ++ b, List.append_assoc a _ b, startsRefused_of_startsMark _ rfl⟩
  | backslash hmem =>
    obtain ⟨a, b, rfl⟩ := List.append_of_mem hmem
    exact ⟨a, '\\' :: b, rfl, startsRefused_of_startsMark _ rfl⟩
  | nul hmem =>
    obtain ⟨a, b, rfl⟩ := List.append_of_mem hmem
    exact ⟨a, '\x00' :: b, rfl, startsRefused_of_startsMark _ rfl⟩

/-- **What the reader refuses is what offends.** -/
theorem isSafe_eq_false_iff {s : String} : isSafe s = false ↔ Offends s.toList := by
  unfold isSafe
  rw [safeFrom_eq_false_iff]
  constructor
  · rintro ⟨a, b, hab, hr⟩
    rw [hab]
    exact offends_of_startsRefused hr
  · exact exists_startsRefused

/-! ## Texts that are one word -/

/-- A text of word characters is one word. -/
theorem isWordIn_unique {run cs : List Char} (h : IsWordIn run cs) (hcs : ∀ c ∈ cs, isWord c = true) :
    run = cs := by
  obtain ⟨-, -, a, b, rfl, ha, hb⟩ := h
  -- what stands around the word ends and starts with no word character, so there is nothing
  have hanil : a = [] := by
    rcases List.eq_nil_or_concat a with rfl | ⟨a, c, rfl⟩
    · rfl
    · rw [List.concat_eq_append] at ha hcs
      have hc := ha c List.getLast?_concat
      rw [hcs c (by simp)] at hc
      exact absurd hc (by decide)
  have hbnil : b = [] := by
    cases b with
    | nil => rfl
    | cons c b =>
      have hc := hb c rfl
      rw [hcs c (by simp)] at hc
      exact absurd hc (by decide)
  rw [hanil, hbnil, List.nil_append, List.append_nil]

/-! ## The verdict -/

/-- **The filter reads a text by its words.** -/
structure ReadByWords (s : String) : Prop where
  /-- It refuses exactly the texts that offend. -/
  verdict : isSafe s = false ↔ Offends s.toList
  /-- A word is accepted unless the whole of it is refused: it may well contain refused words. -/
  identifier : (∀ c ∈ s.toList, isWord c = true) →
    (∀ w ∈ refusedWords, ¬ EqualUpToCase s.toList w.toList) →
    (∀ mark name, s.toList = mark ++ name → name ≠ [] → ¬ EqualUpToCase mark "sp_".toList) → isSafe s = true
  /-- A refused word is refused wherever it stands, if no word character stands next to it. -/
  keyword : ∀ a u b : List Char, s.toList = a ++ u ++ b → ∀ w ∈ refusedWords, EqualUpToCase u w.toList →
    (∀ c ∈ a.getLast?, isWord c = false) → (∀ c ∈ b.head?, isWord c = false) → isSafe s = false

/-- **A single word is safe** unless it is a refused word or names a system procedure. -/
theorem isSafe_of_isWord {s : String} (hs : ∀ c ∈ s.toList, isWord c = true)
    (hkeyword : ∀ w ∈ refusedWords, ¬ EqualUpToCase s.toList w.toList)
    (hprocedure : ∀ mark name, s.toList = mark ++ name → name ≠ [] → ¬ EqualUpToCase mark "sp_".toList) :
    isSafe s = true := by
  rw [← Bool.not_eq_false, isSafe_eq_false_iff]
  intro h
  have hmark : ∀ c, isWord c = false → c ∉ s.toList := by
    intro c hc hmem
    rw [hs c hmem] at hc
    exact absurd hc (by decide)
  cases h with
  | keyword run w hrun hw hequal =>
    rw [isWordIn_unique hrun hs] at hequal
    exact hkeyword w hw hequal
  | procedure mark name hrun hequal hname =>
    exact hprocedure mark name (isWordIn_unique hrun hs).symm hname hequal
  -- everything else that is refused contains a character that is no word character
  | statement a blanks b c heq => exact hmark ';' (by decide) (by rw [heq]; simp)
  | lineComment hpart => exact hmark '-' (by decide) (hpart.subset (by simp))
  | blockComment hpart => exact hmark '/' (by decide) (hpart.subset (by simp))
  | backslash hmem => exact hmark '\\' (by decide) hmem
  | nul hmem => exact hmark '\x00' (by decide) hmem

/-- **A refused word is refused wherever it stands as a word.** -/
theorem isSafe_eq_false_of_refusedWord {s : String} {a u b : List Char} {w : String}
    (hs : s.toList = a ++ u ++ b) (hw : w ∈ refusedWords) (hu : EqualUpToCase u w.toList)
    (ha : ∀ c ∈ a.getLast?, isWord c = false) (hb : ∀ c ∈ b.head?, isWord c = false) : isSafe s = false := by
  obtain ⟨k, hk, hwk⟩ := exists_keyword w hw
  obtain ⟨hne, hword⟩ := isWord_of_keyword hk (hu.trans hwk)
  exact isSafe_eq_false_iff.mpr (.keyword u w ⟨hne, hword, a, b, hs, ha, hb⟩ hw hu)

/-- **Every text is read by its words**: the verdict on it is that on its maximal runs of word characters, and on
    the marks between them. -/
theorem readByWords (s : String) : ReadByWords s where
  verdict := isSafe_eq_false_iff
  identifier := isSafe_of_isWord
  keyword := fun _ _ _ hs _ hw hu ha hb => isSafe_eq_false_of_refusedWord hs hw hu ha hb

example : isSafe "deleted = 0 AND updated_at < executed_at OR asp_net > 1" = true := by decide +kernel

example : isSafe "id = 1 OR (tRunCate)" = false ∧ isSafe "\u017fp_who" = false := by decide +kernel

end RecordGate.Fragment
