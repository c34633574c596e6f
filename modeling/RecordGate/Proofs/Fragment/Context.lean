import RecordGate.Proofs.Fragment.Words

/-!
# `RecordGate.Proofs.Fragment.Context` — refused text in longer texts and in other letters

The filter does not see the case of ASCII letters (`isSafe_eq_of_lowered_eq`), and what is refused in a piece of a text
is refused in the whole. So a refused text cannot be hidden by changing its letters and putting it between others
(`staysRefused`).

For the converse one has to know what may run across the place where two texts are joined: a word, one of the two marks
of a comment, or a semicolon with the statement behind it. Where none of them does (`Apart`), two safe texts make a safe one
(`isSafe_append`).
-/

namespace RecordGate.Fragment

open Text

/-! ## Letters in another case -/

/-- All marks are seen in one character and those behind it. -/
theorem startsMark_cons (c : Char) (cs : List Char) :
    startsMark (c :: cs) = ((c == ';' && startsWord (trimStart cs)) || (c == '-' && cs.head? == some '-') ||
      (c == '/' && cs.head? == some '*') || c == '\\' || c == '\x00') := by
  unfold startsMark
  split
  · rename_i heq
    obtain ⟨rfl, rfl⟩ := List.cons.inj heq
    simp
  · rename_i heq
    obtain ⟨rfl, rfl⟩ := List.cons.inj heq
    simp
  · rename_i heq
    obtain ⟨rfl, rfl⟩ := List.cons.inj heq
    simp
  · rename_i hsemicolon hline hblock heq
    obtain ⟨rfl, rfl⟩ := List.cons.inj heq
    have hstatement : (c == ';') = false := beq_eq_false_iff_ne.mpr hsemicolon
    have hdash : (c == '-' && cs.head? == some '-') = false := by
      rw [Bool.eq_false_iff]
      intro h
      simp only [Bool.and_eq_true, beq_iff_eq] at h
      obtain ⟨ds, rfl⟩ := List.head?_eq_some_iff.mp h.2
      exact hline ds h.1 rfl
    have hslash : (c == '/' && cs.head? == some '*') = false := by
      rw [Bool.eq_false_iff]
      intro h
      simp only [Bool.and_eq_true, beq_iff_eq] at h
      obtain ⟨ds, rfl⟩ := List.head?_eq_some_iff.mp h.2
      exact hblock ds h.1 rfl
    rw [hstatement, hdash, hslash, Bool.false_and, Bool.or_self, Bool.or_self, Bool.false_or]
  · rename_i heq
    exact absurd heq (List.cons_ne_nil c cs)

theorem startsWord_map_lower (cs : List Char) : startsWord (cs.map lower) = startsWord cs := by
  cases cs with
  | nil => rfl
  | cons c cs => exact isWord_lower c

/-- No mark has a letter in it, and a word behind a semicolon is one in any case. -/
theorem startsMark_map_lower (cs : List Char) : startsMark (cs.map lower) = startsMark cs := by
  -- no mark is a letter, so each of them stands where it stood
  have hmark : ∀ {m : Char}, isLetter m = false → ∀ c, (lower c == m) = (c == m) := by
    intro m hm c
    rw [Bool.eq_iff_iff, beq_iff_eq, beq_iff_eq, lower_eq_iff hm]
  have hnext : ∀ {m : Char}, isLetter m = false → ∀ cs : List Char,
      ((cs.map lower).head? == some m) = (cs.head? == some m) := by
    intro m hm cs
    cases cs with
    | nil => rfl
    | cons c cs => exact hmark hm c
  have htrim : ∀ cs : List Char, trimStart (cs.map lower) = (trimStart cs).map lower := by
    intro cs
    have hblank : isBlank ∘ lower = isBlank := funext isBlank_lower
    unfold trimStart
    rw [List.dropWhile_map, hblank]
  cases cs with
  | nil => rfl
  | cons c cs =>
    rw [List.map_cons, startsMark_cons, startsMark_cons, htrim, startsWord_map_lower, hmark (by decide),
      hmark (by decide), hmark (by decide), hmark (by decide), hmark (by decide), hnext (by decide),
      hnext (by decide)]

/-- Keywords are compared by folding, which does not see the case of ASCII letters. -/
theorem startsRefused_map_lower (inWord : Bool) (cs : List Char) :
    startsRefused inWord (cs.map lower) = startsRefused inWord cs := by
  have hafter : ∀ (w : List Char), afterWord? w (cs.map lower) = (afterWord? w cs).map (List.map lower) := by
    intro w
    refine afterWord?_map fun l _ c _ => ?_
    unfold sameLetter
    rw [fold_lower]
  have hkeyword : ∀ w, startsKeyword w (cs.map lower) = startsKeyword w cs := by
    intro w
    unfold startsKeyword
    rw [hafter, Option.any_map]
    congr 1
    exact funext fun rest => congrArg Bool.not (startsWord_map_lower rest)
  have hprocedure : startsProcedure (cs.map lower) = startsProcedure cs := by
    unfold startsProcedure
    rw [hafter, Option.any_map]
    congr 1
    exact funext startsWord_map_lower
  unfold startsRefused
  rw [startsMark_map_lower, hprocedure]
  simp only [hkeyword]

theorem safeFrom_map_lower (inWord : Bool) (cs : List Char) :
    safeFrom inWord (cs.map lower) = safeFrom inWord cs := by
  induction cs generalizing inWord with
  | nil => rfl
  | cons c cs ih =>
    have hstart := startsRefused_map_lower inWord (c :: cs)
    rw [List.map_cons] at hstart ⊢
    rw [safeFrom, safeFrom, hstart, isWord_lower, ih]

/-- **The case of ASCII letters makes no difference.** -/
theorem isSafe_eq_of_lowered_eq {s t : String} (h : lowered s = lowered t) : isSafe s = isSafe t := by
  have hlists : s.toList.map lower = t.toList.map lower := String.ofList_injective h
  calc isSafe s = safeFrom false (s.toList.map lower) := (safeFrom_map_lower false s.toList).symm
    _ = safeFrom false (t.toList.map lower) := by rw [hlists]
    _ = isSafe t := safeFrom_map_lower false t.toList

/-! ## Two texts side by side -/

/-- No refused construct runs across the place where `a` ends and `b` starts. -/
structure Apart (a b : List Char) : Prop where
  /-- No word goes on from one to the other. -/
  word : endsInWord false a = false ∨ startsWord b = false
  /-- No comment up to the end of a line starts there, -/
  line : a.getLast? = some '-' → b.head? ≠ some '-'
  /-- nor one between marks. -/
  block : a.getLast? = some '/' → b.head? ≠ some '*'
  /-- No semicolon at the end of `a` has a statement behind it. -/
  statement : (trimEnd a).getLast? = some ';' → startsWord (trimStart b) = false

/-- What stands before a text does not matter for its end, unless the text is empty. -/
theorem endsInWord_eq_of_ne_nil {inWord : Bool} {cs : List Char} (h : cs ≠ []) :
    endsInWord inWord cs = endsInWord false cs := by
  cases cs with
  | nil => exact absurd rfl h
  | cons c cs => rfl

theorem endsInWord_of_isWord {cs : List Char} (hne : cs ≠ []) (h : ∀ c ∈ cs, isWord c = true) :
    endsInWord false cs = true := by
  rw [← Bool.not_eq_false, endsInWord_eq_false_iff]
  intro hlast
  have hmem := hlast _ (List.getLast?_eq_some_getLast hne)
  rw [h _ (List.getLast_mem hne)] at hmem
  exact absurd hmem (by decide)

/-- What is apart from the end of a text is apart from every end of it. -/
theorem Apart.of_append {x z b : List Char} (h : Apart (x ++ z) b) (hz : z ≠ []) : Apart z b where
  word := by
    have hword := h.word
    rwa [endsInWord_append, endsInWord_eq_of_ne_nil hz] at hword
  line := by
    intro hlast
    refine h.line ?_
    rw [List.getLast?_append, hlast, Option.some_or]
  block := by
    intro hlast
    refine h.block ?_
    rw [List.getLast?_append, hlast, Option.some_or]
  statement := by
    intro hlast
    refine h.statement ?_
    have hne : trimEnd z ≠ [] := by
      intro hnil
      rw [hnil] at hlast
      exact absurd hlast (by simp)
    rw [trimEnd_append_of_ne_nil x hne, List.getLast?_append, hlast, Option.some_or]

/-- A word that starts in `z` ends there if no word goes on into `b`. -/
theorem exists_append_of_word {u c z b : List Char} (hu : ∀ x ∈ u, isWord x = true) (hz : z ≠ [])
    (hseam : endsInWord false z = false ∨ startsWord b = false) (h : z ++ b = u ++ c) :
    ∃ v, z = u ++ v ∧ c = v ++ b := by
  rcases List.append_eq_append_iff.mp h with ⟨v, rfl, rfl⟩ | ⟨v, rfl, rfl⟩
  · -- if some of the word stood in `b`, all of `z` and the start of `b` would be one word
    cases v with
    | nil => exact ⟨[], by simp, rfl⟩
    | cons x v =>
      have hends : endsInWord false z = true :=
        endsInWord_of_isWord hz fun y hy => hu y (List.mem_append_left _ hy)
      have hstarts : startsWord (x :: v ++ c) = true := hu x (List.mem_append_right z List.mem_cons_self)
      rw [hends, hstarts] at hseam
      exact absurd hseam (by decide)
  · exact ⟨v, rfl, rfl⟩

section

variable {z b : List Char}

/-- A keyword that does not run across the seam was there before. -/
theorem startsKeyword_of_append (h : Apart z b) (hz : z ≠ []) {w : String} (hw : w ∈ keywords)
    (hk : startsKeyword w (z ++ b) = true) : startsKeyword w z = true := by
  obtain ⟨u, c, heq, hu, hc⟩ := startsKeyword_iff.mp hk
  obtain ⟨v, rfl, rfl⟩ := exists_append_of_word (isWord_of_keyword hw hu).2 hz h.word heq
  refine startsKeyword_iff.mpr ⟨u, v, rfl, hu, ?_⟩
  rw [Bool.eq_false_iff]
  intro hv
  rw [startsWord_append hv] at hc
  exact absurd hc (by decide)

/-- A system procedure that does not run across the seam was there before. -/
theorem startsProcedure_of_append (h : Apart z b) (hz : z ≠ []) (hp : startsProcedure (z ++ b) = true) :
    startsProcedure z = true := by
  obtain ⟨u, c, heq, hu, hc⟩ := startsProcedure_iff.mp hp
  have hword := isWord_of_map_fold hu isFolded_procedureMark
  obtain ⟨v, rfl, rfl⟩ := exists_append_of_word hword hz h.word heq
  refine startsProcedure_iff.mpr ⟨u, v, rfl, hu, ?_⟩
  cases v with
  | cons x v => exact hc
  | nil =>
    -- the mark itself is the end of a word, which would go on in `b`
    rw [List.append_nil] at hz h
    have hseam := h.word
    rw [endsInWord_of_isWord hz hword, show startsWord b = true from hc] at hseam
    exact absurd hseam (by decide)

theorem startsWord_append_of_ne_nil (h : z ≠ []) : startsWord (z ++ b) = startsWord z := by
  obtain ⟨c, z, rfl⟩ := List.exists_cons_of_ne_nil h
  rfl

/-- A statement behind a semicolon in `z` starts in `z`. -/
theorem startsWord_trimStart_of_append (h : Apart (';' :: z) b) (hs : startsWord (trimStart (z ++ b)) = true) :
    startsWord (trimStart z) = true := by
  by_cases hz : trimStart z = []
  · -- there is only white space behind the semicolon, so the statement would be found in `b`
    have hblank : ∀ c ∈ z, isBlank c = true := by
      intro c hc
      obtain ⟨a, ha, hblanks⟩ := exists_append_trimStart z
      rw [hz, List.append_nil] at ha
      exact hblanks c (ha ▸ hc)
    have hlast : (trimEnd (';' :: z)).getLast? = some ';' := by
      rw [← List.singleton_append, trimEnd_append_right hblank]
      decide
    rw [trimStart_append_of_eq_nil hz, h.statement hlast] at hs
    exact absurd hs (by decide)
  · rwa [trimStart_append_of_ne_nil hz, startsWord_append_of_ne_nil hz] at hs

/-- A mark that does not run across the seam was there before. Comments have two characters, and a semicolon looks ahead
    as far as the next word. -/
theorem startsMark_of_append (h : Apart z b) (hz : z ≠ []) (hm : startsMark (z ++ b) = true) :
    startsMark z = true := by
  obtain ⟨c, z, rfl⟩ := List.exists_cons_of_ne_nil hz
  rw [List.cons_append, startsMark_cons] at hm
  rw [startsMark_cons]
  simp only [Bool.or_eq_true, Bool.and_eq_true, beq_iff_eq] at hm ⊢
  rcases hm with (((⟨rfl, hs⟩ | ⟨rfl, hnext⟩) | ⟨rfl, hnext⟩) | hslash) | hnul
  · exact Or.inl (Or.inl (Or.inl (Or.inl ⟨rfl, startsWord_trimStart_of_append h hs⟩)))
  · cases z with
    | nil => exact absurd hnext (h.line rfl)
    | cons d z => exact Or.inl (Or.inl (Or.inl (Or.inr ⟨rfl, hnext⟩)))
  · cases z with
    | nil => exact absurd hnext (h.block rfl)
    | cons d z => exact Or.inl (Or.inl (Or.inr ⟨rfl, hnext⟩))
  · exact Or.inl (Or.inr hslash)
  · exact Or.inr hnul

/-- **A construct refused at a place in `z` is refused there without `b` as well.** -/
theorem startsRefused_of_append (h : Apart z b) (hz : z ≠ []) {inWord : Bool}
    (hr : startsRefused inWord (z ++ b) = true) : startsRefused inWord z = true := by
  simp only [startsRefused, Bool.or_eq_true, Bool.and_eq_true, List.any_eq_true] at hr ⊢
  rcases hr with ⟨hout, ⟨w, hw, hk⟩ | hp⟩ | hm
  · exact Or.inl ⟨hout, Or.inl ⟨w, hw, startsKeyword_of_append h hz hw hk⟩⟩
  · exact Or.inl ⟨hout, Or.inr (startsProcedure_of_append h hz hp)⟩
  · exact Or.inr (startsMark_of_append h hz hm)

end

/-- Inside a word fewer constructs are refused, since no keyword starts there. -/
theorem startsRefused_mono {inWord : Bool} {cs : List Char} (h : startsRefused inWord cs = true) :
    startsRefused false cs = true := by
  simp only [startsRefused, Bool.or_eq_true, Bool.and_eq_true] at h ⊢
  exact h.imp (fun hword => ⟨rfl, hword.2⟩) id

/-- **Safe texts that are apart make a safe text.** -/
theorem isSafe_append {s t : String} (h : Apart s.toList t.toList) (hs : isSafe s = true) (ht : isSafe t = true) :
    isSafe (s ++ t) = true := by
  unfold isSafe at hs ht ⊢
  rw [← Bool.not_eq_false, safeFrom_eq_false_iff] at hs ht ⊢
  rw [String.toList_append]
  -- a refused construct of both would start in `t`, or in an end `z` of `s`
  rintro ⟨x, y, hxy, hr⟩
  rcases List.append_eq_append_iff.mp hxy with ⟨v, rfl, hv⟩ | ⟨z, hz, rfl⟩
  · refine ht ⟨v, y, hv, ?_⟩
    rw [endsInWord_append] at hr
    by_cases hnil : v = []
    · rw [hnil] at hr ⊢
      exact startsRefused_mono hr
    · rwa [endsInWord_eq_of_ne_nil hnil] at hr
  · by_cases hnil : z = []
    · rw [hnil] at hr
      exact ht ⟨[], t.toList, rfl, startsRefused_mono hr⟩
    · rw [hz] at h
      exact hs ⟨x, z, hz, startsRefused_of_append (h.of_append hnil) hnil hr⟩

example : isSafe "id > 1; " = true ∧ isSafe "id < 9" = true ∧ isSafe "id > 1; id < 9" = false := by decide +kernel

/-! ## White space around a text -/

/-- There is no word and no mark in white space. -/
theorem isSafe_of_isBlankText {s : String} (h : isBlankText s = true) : isSafe s = true := by
  have hblank : ∀ c ∈ s.toList, isBlank c = true := List.all_eq_true.mp h
  have hmem : ∀ {c : Char}, isBlank c = false → c ∉ s.toList := by
    intro c hc hcs
    rw [hblank c hcs] at hc
    exact absurd hc (by decide)
  -- a word or a mark has a character that is no white space
  have hword : ∀ run, ¬ IsWordIn run s.toList := by
    rintro run ⟨hne, hrun, a, b, heq, -, -⟩
    obtain ⟨c, run, rfl⟩ := List.exists_cons_of_ne_nil hne
    exact hmem (not_isBlank_of_isWord (hrun c List.mem_cons_self)) (by rw [heq]; simp)
  rw [← Bool.not_eq_false, isSafe_eq_false_iff]
  intro ho
  cases ho with
  | keyword run w hrun => exact hword run hrun
  | procedure mark name hrun => exact hword (mark ++ name) hrun
  | statement a blanks b c heq => exact hmem (c := ';') (by decide) (by rw [heq]; simp)
  | lineComment hpart => exact hmem (c := '-') (by decide) (hpart.subset (by simp))
  | blockComment hpart => exact hmem (c := '/') (by decide) (hpart.subset (by simp))
  | backslash hslash => exact hmem (by decide) hslash
  | nul hnul => exact hmem (by decide) hnul

/-- White space runs into nothing that follows it. -/
theorem apart_of_isBlank_left {a : List Char} (h : ∀ c ∈ a, isBlank c = true) (b : List Char) : Apart a b := by
  have hlast : ∀ {c : Char}, isBlank c = false → a.getLast? ≠ some c := by
    intro c hc heq
    rw [h c (List.mem_of_getLast? heq)] at hc
    exact absurd hc (by decide)
  refine ⟨Or.inl (endsInWord_of_not_isWord fun c hc => not_isWord_of_isBlank (h c hc)), ?_, ?_, ?_⟩
  · exact fun heq => absurd heq (hlast (by decide))
  · exact fun heq => absurd heq (hlast (by decide))
  · have hnil : trimEnd a = [] := by
      rw [← List.nil_append a, trimEnd_append_right h]
      rfl
    rw [hnil]
    exact fun heq => absurd heq (by simp)

/-- Nothing runs into white space. -/
theorem apart_of_isBlank_right (a : List Char) {b : List Char} (h : ∀ c ∈ b, isBlank c = true) : Apart a b := by
  have hhead : ∀ {c : Char}, isBlank c = false → b.head? ≠ some c := by
    intro c hc heq
    rw [h c (List.mem_of_head? heq)] at hc
    exact absurd hc (by decide)
  refine ⟨Or.inr (startsWord_of_not_isWord fun c hc => not_isWord_of_isBlank (h c hc)), ?_, ?_, ?_⟩
  · exact fun _ => hhead (by decide)
  · exact fun _ => hhead (by decide)
  · intro _
    rw [trimStart_eq_nil h]
    rfl

/-! ## The verdict in context -/

/-- **No context hides a refused text**, and white space around an accepted one does no harm. -/
structure StaysRefused (s : String) : Prop where
  /-- A refused text is refused in any case of its ASCII letters and between any other texts, if no word goes on across
      its ends. -/
  context : isSafe s = false → ∀ a u b : String, lowered u = lowered s →
    (∀ c ∈ a.toList.getLast?, isWord c = false) → (∀ c ∈ b.toList.head?, isWord c = false) →
      isSafe (a ++ u ++ b) = false
  /-- A safe text stays safe with white space around it. -/
  padding : isSafe s = true → ∀ a b : String, (∀ c ∈ a.toList, isBlank c = true) →
    (∀ c ∈ b.toList, isBlank c = true) → isSafe (a ++ s ++ b) = true

/-- **A refused text stays refused between any two texts** that do not continue its words. -/
theorem isSafe_eq_false_of_piece {a u b : String} (hu : isSafe u = false)
    (ha : ∀ c ∈ a.toList.getLast?, isWord c = false) (hb : ∀ c ∈ b.toList.head?, isWord c = false) :
    isSafe (a ++ u ++ b) = false := by
  have hpiece : IsPiece u.toList (a ++ u ++ b).toList := by
    refine ⟨a.toList, b.toList, ?_, endsInWord_eq_false_iff.mpr ha, startsWord_eq_false_iff.mpr hb⟩
    rw [String.toList_append, String.toList_append]
  rw [Bool.eq_false_iff]
  intro hsafe
  rw [isSafe_of_isPiece hpiece hsafe] at hu
  exact absurd hu (by decide)

/-- White space around a safe text changes nothing. -/
theorem isSafe_append_append {a s b : String} (hs : isSafe s = true) (ha : ∀ c ∈ a.toList, isBlank c = true)
    (hb : ∀ c ∈ b.toList, isBlank c = true) : isSafe (a ++ s ++ b) = true := by
  have hfront : isSafe (a ++ s) = true :=
    isSafe_append (apart_of_isBlank_left ha s.toList) (isSafe_of_isBlankText (List.all_eq_true.mpr ha)) hs
  exact isSafe_append (apart_of_isBlank_right (a ++ s).toList hb) hfront (isSafe_of_isBlankText (List.all_eq_true.mpr hb))

/-- **Every refused text stays refused** in other letters and between other texts, and every safe text stays safe with
    white space around it. -/
theorem staysRefused (s : String) : StaysRefused s where
  context := by
    intro hs a u b hu ha hb
    rw [← isSafe_eq_of_lowered_eq hu] at hs
    exact isSafe_eq_false_of_piece hs ha hb
  padding := by
    intro hs a b ha hb
    exact isSafe_append_append hs ha hb

end RecordGate.Fragment
