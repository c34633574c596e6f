import RecordGate.Text.Blank

/-!
# `RecordGate.Proofs.Text.Trim` — what trimming removes

Trimming cuts a text into three pieces, of which the outer two are white space (`exists_append_trim_append`).
A text is blank exactly when nothing is left of it (`trim_eq_nil_iff`), and a text without white space is left as
it is (`trim_eq_self`).
-/

namespace RecordGate.Text

/-! ## The pieces of a text -/

/-- Trimming the start takes away a run of blanks. -/
theorem exists_append_trimStart (cs : List Char) :
    ∃ a, cs = a ++ trimStart cs ∧ ∀ c ∈ a, isBlank c = true := by
  refine ⟨cs.takeWhile isBlank, List.takeWhile_append_dropWhile.symm, ?_⟩
  intro c hc
  exact List.all_eq_true.mp List.all_takeWhile c hc

/-- What stands behind the longest run of some characters starts with another one. -/
theorem eq_false_of_mem_head?_dropWhile {p : Char → Bool} {cs : List Char} {c : Char}
    (h : c ∈ (cs.dropWhile p).head?) : p c = false := by
  have hnot := List.head?_dropWhile_not p cs
  rw [Option.mem_def.mp h] at hnot
  exact hnot

/-- Trimming the end takes away a run of blanks. -/
theorem exists_trimEnd_append (cs : List Char) :
    ∃ b, cs = trimEnd cs ++ b ∧ ∀ c ∈ b, isBlank c = true := by
  -- the end of a text is the beginning of its reversal
  obtain ⟨a, ha, hall⟩ := exists_append_trimStart cs.reverse
  refine ⟨a.reverse, ?_, fun c hc => hall c (List.mem_reverse.mp hc)⟩
  unfold trimEnd
  unfold trimStart at ha
  rw [← List.reverse_append, ← ha, List.reverse_reverse]

/-- **Trimming removes white space at the ends and nothing else.** -/
theorem exists_append_trim_append (cs : List Char) :
    ∃ a b, cs = a ++ trim cs ++ b ∧ (∀ c ∈ a, isBlank c = true) ∧ ∀ c ∈ b, isBlank c = true := by
  obtain ⟨a, ha, halla⟩ := exists_append_trimStart cs
  obtain ⟨b, hb, hallb⟩ := exists_trimEnd_append (trimStart cs)
  refine ⟨a, b, ?_, halla, hallb⟩
  unfold trim
  rw [List.append_assoc, ← hb]
  exact ha

theorem mem_of_mem_trim {cs : List Char} {c : Char} (h : c ∈ trim cs) : c ∈ cs := by
  obtain ⟨a, b, hcs, -, -⟩ := exists_append_trim_append cs
  rw [hcs]
  exact List.mem_append_left b (List.mem_append_right a h)

/-! ## Texts that trimming leaves alone, and texts of which it leaves nothing -/

/-- Blanks in front make no difference to the trimmed text. -/
theorem trimStart_append_left {a cs : List Char} (ha : ∀ c ∈ a, isBlank c = true) :
    trimStart (a ++ cs) = trimStart cs :=
  List.dropWhile_append_of_pos ha

theorem trimStart_eq_nil {cs : List Char} (h : ∀ c ∈ cs, isBlank c = true) : trimStart cs = [] := by
  rw [← List.append_nil cs, trimStart_append_left h]
  rfl

theorem trimStart_cons_of_not_isBlank {c : Char} {cs : List Char} (h : isBlank c = false) :
    trimStart (c :: cs) = c :: cs :=
  List.dropWhile_cons_of_neg (Bool.eq_false_iff.mp h)

/-- A text that does not start with a blank is not trimmed at its start. -/
theorem trimStart_eq_self_of_head {cs : List Char} (h : ∀ c ∈ cs.head?, isBlank c = false) : trimStart cs = cs := by
  cases cs with
  | nil => rfl
  | cons c cs => exact trimStart_cons_of_not_isBlank (h c rfl)

theorem trimStart_eq_self {cs : List Char} (h : ∀ c ∈ cs, isBlank c = false) : trimStart cs = cs :=
  trimStart_eq_self_of_head fun c hc => h c (List.mem_of_mem_head? hc)

/-- A text without blanks is not trimmed. -/
theorem trim_eq_self {cs : List Char} (h : ∀ c ∈ cs, isBlank c = false) : trim cs = cs := by
  have hrev : cs.reverse.dropWhile isBlank = cs.reverse :=
    trimStart_eq_self fun c hc => h c (List.mem_reverse.mp hc)
  unfold trim
  rw [trimStart_eq_self h]
  unfold trimEnd
  rw [hrev, List.reverse_reverse]

/-- Nothing is left exactly of the blank texts. -/
theorem trim_eq_nil_iff {cs : List Char} : trim cs = [] ↔ ∀ c ∈ cs, isBlank c = true := by
  constructor
  · intro h c hc
    obtain ⟨a, b, hcs, ha, hb⟩ := exists_append_trim_append cs
    rw [h, List.append_nil] at hcs
    rw [hcs] at hc
    rcases List.mem_append.mp hc with hc | hc
    · exact ha c hc
    · exact hb c hc
  · intro h
    unfold trim
    rw [trimStart_eq_nil h]
    rfl

/-! ## White space added at the ends -/

/-- Trimming the start of a text that is not blank leaves what follows it alone. -/
theorem trimStart_append_of_ne_nil {cs : List Char} (h : trimStart cs ≠ []) (ds : List Char) :
    trimStart (cs ++ ds) = trimStart cs ++ ds := by
  unfold trimStart at h ⊢
  rw [List.dropWhile_append, if_neg (by rwa [List.isEmpty_iff])]

/-- A blank text goes, and trimming goes on behind it. -/
theorem trimStart_append_of_eq_nil {cs : List Char} (h : trimStart cs = []) (ds : List Char) :
    trimStart (cs ++ ds) = trimStart ds := by
  unfold trimStart at h ⊢
  rw [List.dropWhile_append, if_pos (by rw [h]; rfl)]

/-- Blanks behind make no difference to the trimmed text. -/
theorem trimEnd_append_right {b cs : List Char} (hb : ∀ c ∈ b, isBlank c = true) :
    trimEnd (cs ++ b) = trimEnd cs := by
  unfold trimEnd
  rw [List.reverse_append, List.dropWhile_append_of_pos fun c hc => hb c (List.mem_reverse.mp hc)]

/-- Trimming the end of a text that is not blank leaves what precedes it alone. -/
theorem trimEnd_append_of_ne_nil (cs : List Char) {ds : List Char} (h : trimEnd ds ≠ []) :
    trimEnd (cs ++ ds) = cs ++ trimEnd ds := by
  unfold trimEnd at h ⊢
  have hne : ¬ (ds.reverse.dropWhile isBlank).isEmpty = true := by
    rw [List.isEmpty_iff]
    intro hnil
    exact h (by rw [hnil]; rfl)
  rw [List.reverse_append, List.dropWhile_append, if_neg hne, List.reverse_append, List.reverse_reverse]

/-- **White space around a text makes no difference to what is left of it.** -/
theorem trim_append_append {a cs b : List Char} (ha : ∀ c ∈ a, isBlank c = true)
    (hb : ∀ c ∈ b, isBlank c = true) : trim (a ++ cs ++ b) = trim cs := by
  unfold trim
  rw [List.append_assoc, trimStart_append_left ha]
  by_cases hcs : trimStart cs = []
  · -- nothing is left of the text, and so nothing of what follows it
    rw [trimStart_append_of_eq_nil hcs, trimStart_eq_nil hb, hcs]
  · rw [trimStart_append_of_ne_nil hcs, trimEnd_append_right hb]

/-! ## Texts that are present -/

theorem isBlankText_iff {s : String} : isBlankText s = true ↔ trim s.toList = [] := by
  unfold isBlankText
  rw [List.all_eq_true, trim_eq_nil_iff]

/-- A text is not blank exactly if some character of it is no blank. -/
theorem isBlankText_eq_false_iff {s : String} : isBlankText s = false ↔ ∃ c ∈ s.toList, isBlank c = false := by
  simp only [isBlankText, List.all_eq_false, Bool.not_eq_true]

/-- What is kept is the given text, and it is not blank. -/
theorem nonBlank?_eq_some_iff {o : Option String} {s : String} :
    nonBlank? o = some s ↔ o = some s ∧ isBlankText s = false := by
  simp only [nonBlank?, Option.filter_eq_some_iff, Bool.not_eq_true']

/-- Nothing is kept where no text is given or the text is blank. -/
theorem nonBlank?_eq_none_iff {o : Option String} :
    nonBlank? o = none ↔ ∀ s, o = some s → trim s.toList = [] := by
  simp only [nonBlank?, Option.filter_eq_none_iff, Bool.not_eq_true', Bool.not_eq_false, isBlankText_iff]

/-- The text is present, and not all of it is white space. -/
def IsGiven (o : Option String) (s : String) : Prop :=
  o = some s ∧ ∃ c ∈ s.toList, isBlank c = false

/-- A field counts as given exactly if its text is kept. -/
theorem isGiven_iff {o : Option String} {s : String} : IsGiven o s ↔ nonBlank? o = some s := by
  rw [nonBlank?_eq_some_iff, isBlankText_eq_false_iff]
  rfl

theorem nonBlank?_eq_none_iff_isGiven {o : Option String} : nonBlank? o = none ↔ ¬ ∃ s, IsGiven o s := by
  simp only [isGiven_iff, Option.eq_none_iff_forall_ne_some, not_exists, ne_eq]

theorem trimmed_ne_empty {s : String} (h : isBlankText s = false) : trimmed s ≠ "" := by
  intro he
  have hnil : trim s.toList = [] := by rw [← trimmed_toList, he]; rfl
  rw [isBlankText_iff.mpr hnil] at h
  exact absurd h (by simp)

end RecordGate.Text
