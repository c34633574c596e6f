import RecordGate.Proofs.Name.Singular

/-!
# `RecordGate.Proofs.Name.Pattern` — patterns at the end of lower-case words

In a lower-case word a letter of a pattern fits that letter only, so a pattern that is spelled out fits one text
(`likes_iff_of_spells`). Of two patterns for the end of one word it can be computed whether they may both fit
(`mayEnd`), and whether one must fit where the other does (`mustEnd`).
-/

namespace RecordGate.Name

open Text

/-! ## Patterns and lower-case words -/

/-- Whether the pattern fits `cs` and no other lower-case text. -/
def spells : List Glyph → List Char → Bool
  | [], [] => true
  | .letter l :: gs, c :: cs => l == c && spells gs cs
  | _, _ => false

/-- Of lower-case letters a letter is like itself only. -/
theorem likes_letter_iff {l c : Char} (hc : isLower c = true) : (Glyph.letter l).likes c = true ↔ c = l := by
  simp only [Glyph.likes, sameLetter, fold_of_isLower hc, beq_iff_eq]

/-- A pattern that spells a word fits this word only. -/
theorem likes_iff_of_spells {gs : List Glyph} {cs x : List Char} (hx : spells gs x = true)
    (hcs : ∀ c ∈ cs, isLower c = true) : likes gs cs = true ↔ cs = x := by
  induction gs generalizing cs x with
  | nil =>
    cases x with
    | cons d ds => exact absurd hx (by simp [spells])
    | nil => exact likes_nil_iff
  | cons g gs ih =>
    -- a set of characters spells nothing, so there are letters only
    cases g with
    | oneOf ls => exact absurd hx (by simp [spells])
    | noneOf ls => exact absurd hx (by simp [spells])
    | letter l =>
      cases x with
      | nil => exact absurd hx (by simp [spells])
      | cons d ds =>
        simp only [spells, Bool.and_eq_true, beq_iff_eq] at hx
        obtain ⟨rfl, hds⟩ := hx
        rw [likes_cons_iff]
        constructor
        · rintro ⟨c, cs, rfl, hc, htail⟩
          rw [(likes_letter_iff (hcs c List.mem_cons_self)).mp hc,
            (ih hds fun e he => hcs e (List.mem_cons_of_mem c he)).mp htail]
        · rintro rfl
          exact ⟨l, ds, rfl, (likes_letter_iff (hcs l List.mem_cons_self)).mpr rfl,
            (ih hds fun e he => hcs e (List.mem_cons_of_mem l he)).mpr rfl⟩

/-- A word is spelled by its letters. -/
theorem spells_spelled (s : String) : spells (spelled s) s.toList = true := by
  unfold spelled
  induction s.toList with
  | nil => rfl
  | cons c cs ih =>
    rw [List.map_cons]
    simp only [spells, beq_self_eq_true, Bool.true_and]
    exact ih

/-- A pattern in two parts fits what can be cut into two parts that fit. -/
theorem likes_append_iff {gs hs : List Glyph} {cs : List Char} :
    likes (gs ++ hs) cs = true ↔ ∃ v w, cs = v ++ w ∧ likes gs v = true ∧ likes hs w = true := by
  induction gs generalizing cs with
  | nil =>
    simp only [List.nil_append, likes_nil_iff]
    constructor
    · intro h
      exact ⟨[], cs, rfl, rfl, h⟩
    · rintro ⟨_, w, rfl, rfl, hw⟩
      exact hw
  | cons g gs ih =>
    simp only [List.cons_append, likes_cons_iff, ih]
    constructor
    · rintro ⟨c, _, rfl, hc, v, w, rfl, hv, hw⟩
      exact ⟨c :: v, w, rfl, ⟨c, v, rfl, hc, hv⟩, hw⟩
    · rintro ⟨_, w, rfl, ⟨c, v, rfl, hc, hv⟩, hw⟩
      exact ⟨c, v ++ w, rfl, hc, v, w, rfl, hv, hw⟩

/-- The back of a pattern fits the back of what the pattern fits. -/
theorem likes_drop {gs : List Glyph} {cs : List Char} (n : Nat) (h : likes gs cs = true) :
    likes (gs.drop n) (cs.drop n) = true := by
  induction n generalizing gs cs with
  | zero => exact h
  | succ n ih =>
    cases gs with
    | nil =>
      rw [likes_nil_iff.mp h]
      rfl
    | cons g gs =>
      obtain ⟨c, cs, rfl, -, hcs⟩ := likes_cons_iff.mp h
      exact ih hcs

/-- A pattern fits the end of a word if the word has such an end. -/
theorem endsLike_iff {gs : List Glyph} {word : List Char} :
    endsLike gs word = true ↔ ∃ a v, word = a ++ v ∧ likes gs v = true := by
  constructor
  · intro h
    exact ⟨_, _, (List.take_append_drop _ word).symm, h⟩
  · rintro ⟨a, v, rfl, h⟩
    have hlength := length_of_likes h
    unfold endsLike
    rw [List.length_append, ← hlength, Nat.add_sub_cancel, List.drop_left]
    exact h

/-- A pattern in two parts fits an end in front of which the first part fits. -/
theorem endsLike_append_iff {gs hs : List Glyph} {word : List Char} :
    endsLike (gs ++ hs) word = true ↔ ∃ u w, word = u ++ w ∧ endsLike gs u = true ∧ likes hs w = true := by
  simp only [endsLike_iff, likes_append_iff]
  constructor
  · rintro ⟨a, x, rfl, v, w, rfl, hv, hw⟩
    exact ⟨a ++ v, w, (List.append_assoc a v w).symm, ⟨a, v, rfl, hv⟩, hw⟩
  · rintro ⟨u, w, rfl, ⟨a, v, rfl, hv⟩, hw⟩
    exact ⟨a, v ++ w, List.append_assoc a v w, v, w, rfl, hv, hw⟩

/-- A pattern that ends with letters fits the lower-case words that end with these letters. -/
theorem endsLike_append_spelled_iff {k : List Glyph} {d : String} {word : List Char}
    (hword : ∀ c ∈ word, isLower c = true) :
    endsLike (k ++ spelled d) word = true ↔ ∃ u, word = u ++ d.toList ∧ endsLike k u = true := by
  rw [endsLike_append_iff]
  constructor
  · rintro ⟨u, w, rfl, hu, hw⟩
    have hlower : ∀ c ∈ w, isLower c = true := fun c hc => hword c (List.mem_append_right u hc)
    rw [(likes_iff_of_spells (spells_spelled d) hlower).mp hw]
    exact ⟨u, rfl, hu⟩
  · rintro ⟨u, rfl, hu⟩
    have hlower : ∀ c ∈ d.toList, isLower c = true := fun c hc => hword c (List.mem_append_right u hc)
    exact ⟨u, d.toList, rfl, hu, (likes_iff_of_spells (spells_spelled d) hlower).mpr rfl⟩

/-- A pattern that fits a word fits its end, whether or not it has to be the whole word. -/
theorem endsLike_of_fits {whole : Bool} {pattern : List Glyph} {word : List Char}
    (h : fits whole pattern word = true) : endsLike pattern word = true := by
  cases whole with
  | false => exact h
  | true => exact endsLike_iff.mpr ⟨[], word, rfl, h⟩

/-! ## Two patterns at the end of a word -/

/-- The lower-case letters. -/
def letters : List Char :=
  ['a', 'b', 'c', 'd', 'e', 'f', 'g', 'h', 'i', 'j', 'k', 'l', 'm', 'n', 'o', 'p', 'q', 'r', 's', 't', 'u', 'v', 'w',
    'x', 'y', 'z']

/-- All lower-case letters are gone through. -/
theorem mem_letters {c : Char} (h : isLower c = true) : c ∈ letters := by
  have hall : ∀ n ∈ List.range' 97 26, Char.ofNat n ∈ letters := by decide
  rw [isLower_iff] at h
  rw [← Char.ofNat_toNat c]
  exact hall _ (List.mem_range'_1.mpr (by omega))

/-- Whether some lower-case letter fits both. -/
def Glyph.meets (g : Glyph) : Glyph → Bool
  | .letter l => g.likes l
  | h => letters.any fun l => h.likes l && g.likes l

/-- Whether every lower-case letter that fits the second fits the first. -/
def Glyph.covers (g : Glyph) : Glyph → Bool
  | .letter l => g.likes l
  | h => letters.all fun l => !h.likes l || g.likes l

section

variable {g h : Glyph} {c : Char}

/-- Glyphs that are both like one letter meet. -/
theorem meets_of_likes (hc : isLower c = true) (hg : g.likes c = true) (hh : h.likes c = true) :
    g.meets h = true := by
  have hany : (letters.any fun l => h.likes l && g.likes l) = true :=
    List.any_eq_true.mpr ⟨c, mem_letters hc, by rw [hg, hh, Bool.and_self]⟩
  cases h with
  | letter l => exact (likes_letter_iff hc).mp hh ▸ hg
  | oneOf ls => exact hany
  | noneOf ls => exact hany

/-- A glyph that covers another is like every letter that the other is like. -/
theorem likes_of_covers (hc : isLower c = true) (hg : g.covers h = true) (hh : h.likes c = true) :
    g.likes c = true := by
  have hall : (letters.all fun l => !h.likes l || g.likes l) = true → g.likes c = true := by
    intro hletters
    have hl := List.all_eq_true.mp hletters c (mem_letters hc)
    rwa [hh, Bool.not_true, Bool.false_or] at hl
  cases h with
  | letter l => exact ((likes_letter_iff hc).mp hh).symm ▸ hg
  | oneOf ls => exact hall hg
  | noneOf ls => exact hall hg

end

/-- Whether two patterns are related glyph by glyph. The last glyphs are looked at first. -/
def related (relation : Glyph → Glyph → Bool) : List Glyph → List Glyph → Bool
  | [], [] => true
  | g :: gs, h :: hs => related relation gs hs && relation g h
  | _, _ => false

/-- Nothing is related to nothing only. -/
theorem related_nil_iff {relation : Glyph → Glyph → Bool} {hs : List Glyph} :
    related relation [] hs = true ↔ hs = [] := by
  cases hs with
  | nil => simp [related]
  | cons h hs => simp [related]

/-- Patterns are related glyph by glyph. -/
theorem related_cons_iff {relation : Glyph → Glyph → Bool} {g : Glyph} {gs hs : List Glyph} :
    related relation (g :: gs) hs = true ↔
      ∃ i is, hs = i :: is ∧ related relation gs is = true ∧ relation g i = true := by
  cases hs with
  | nil => simp [related]
  | cons h hs => simp [related, and_assoc]

/-- So related patterns are equally long. -/
theorem length_eq_of_related {relation : Glyph → Glyph → Bool} {gs hs : List Glyph}
    (h : related relation gs hs = true) : gs.length = hs.length := by
  induction gs generalizing hs with
  | nil => rw [related_nil_iff.mp h]
  | cons g gs ih =>
    obtain ⟨i, is, rfl, his, -⟩ := related_cons_iff.mp h
    rw [List.length_cons, List.length_cons, ih his]

/-- Patterns that fit the same letters meet. -/
theorem related_meets_of_likes {gs hs : List Glyph} {cs : List Char} (hcs : ∀ c ∈ cs, isLower c = true)
    (hgs : likes gs cs = true) (hhs : likes hs cs = true) : related Glyph.meets gs hs = true := by
  induction gs generalizing hs cs with
  | nil =>
    obtain rfl := likes_nil_iff.mp hgs
    exact related_nil_iff.mpr (List.length_eq_zero_iff.mp (length_of_likes hhs).symm)
  | cons g gs ih =>
    obtain ⟨c, cs, rfl, hg, hgs⟩ := likes_cons_iff.mp hgs
    cases hs with
    | nil => exact absurd (likes_nil_iff.mp hhs) (List.cons_ne_nil c cs)
    | cons h hs =>
      simp only [likes, Bool.and_eq_true] at hhs
      have htail := ih (fun d hd => hcs d (List.mem_cons_of_mem c hd)) hgs hhs.2
      exact related_cons_iff.mpr ⟨h, hs, rfl, htail, meets_of_likes (hcs c List.mem_cons_self) hg hhs.1⟩

/-- A pattern that covers another fits whatever the other fits. -/
theorem likes_of_related_covers {gs hs : List Glyph} {cs : List Char} (hcs : ∀ c ∈ cs, isLower c = true)
    (hgs : related Glyph.covers gs hs = true) (hhs : likes hs cs = true) : likes gs cs = true := by
  induction gs generalizing hs cs with
  | nil =>
    obtain rfl := related_nil_iff.mp hgs
    exact hhs
  | cons g gs ih =>
    obtain ⟨h, hs, rfl, hgs, hcover⟩ := related_cons_iff.mp hgs
    obtain ⟨c, cs, rfl, hh, hhs⟩ := likes_cons_iff.mp hhs
    have htail := ih (fun d hd => hcs d (List.mem_cons_of_mem c hd)) hgs hhs
    exact likes_cons_iff.mpr ⟨c, cs, rfl, likes_of_covers (hcs c List.mem_cons_self) hcover hh, htail⟩

/-- Whether `pattern` and `ending`, written to end at the same place, agree as far as both go. -/
def mayEnd (pattern ending : List Glyph) : Bool :=
  related Glyph.meets (pattern.drop (pattern.length - ending.length)) (ending.drop (ending.length - pattern.length))

/-- Whether `pattern` fits whatever `ending` fits the end of. -/
def mustEnd (pattern ending : List Glyph) : Bool :=
  related Glyph.covers pattern (ending.drop (ending.length - pattern.length))

section

variable {pattern ending : List Glyph} {word : List Char}

/-- **Two ends of one word are compatible**, up to the shorter one. -/
theorem mayEnd_of_endsLike (hword : ∀ c ∈ word, isLower c = true) (hp : endsLike pattern word = true)
    (he : endsLike ending word = true) : mayEnd pattern ending = true := by
  have hpattern := likes_drop (pattern.length - ending.length) hp
  have hending := likes_drop (ending.length - pattern.length) he
  have hplength := length_le_of_endsLike hp
  have helength := length_le_of_endsLike he
  rw [List.drop_drop] at hpattern hending
  -- the two ends are cut to the length of the shorter one
  rw [show word.length - ending.length + (ending.length - pattern.length) =
    word.length - pattern.length + (pattern.length - ending.length) by omega] at hending
  exact related_meets_of_likes (fun c hc => hword c (List.mem_of_mem_drop hc)) hpattern hending

/-- **A word that has one end must have the other** if that is covered. -/
theorem endsLike_of_mustEnd (hword : ∀ c ∈ word, isLower c = true) (h : mustEnd pattern ending = true)
    (he : endsLike ending word = true) : endsLike pattern word = true := by
  have hending := likes_drop (ending.length - pattern.length) he
  have helength := length_le_of_endsLike he
  have hlength := length_eq_of_related h
  rw [List.length_drop] at hlength
  rw [List.drop_drop, show word.length - ending.length + (ending.length - pattern.length) =
    word.length - pattern.length by omega] at hending
  exact likes_of_related_covers (fun c hc => hword c (List.mem_of_mem_drop hc)) h hending

end

end RecordGate.Name
