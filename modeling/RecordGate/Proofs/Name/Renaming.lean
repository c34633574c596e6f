import RecordGate.Proofs.Name.Casing
import RecordGate.Proofs.Name.Singular

/-!
# `RecordGate.Proofs.Name.Renaming` — characters that the rules do not tell apart

A rule sees of a word only which of the letters that the rule mentions stand where. So a change of characters that no
rule notices may be made before or after the singular is formed (`singular_map`).

The rules mention no digit, and the letter `k` neither. With a `k` in place of each digit (`masked`) a word of letters
and digits becomes one of letters only, whose singular tells that of the word itself (`singular_map_masked`,
`singular_eq_self_of_masked`).
-/

namespace RecordGate.Name

open Text

/-! ## What a rule mentions -/

/-- The letters that a glyph mentions. -/
def Glyph.mentions : Glyph → List Char
  | .letter l => [l]
  | .oneOf ls => ls
  | .noneOf ls => ls

/-- The letters that a rule looks for. -/
def Rule.mentions : Rule → List Char
  | .ending _ kept dropped _ => kept.flatten.flatMap Glyph.mentions ++ dropped.flatMap String.toList
  | .opening kept dropped => kept.toList ++ dropped.toList

/-- Two letters are told apart by none of these letters if each of them takes both for the same. -/
theorem any_sameLetter_congr {ls : List Char} {c d : Char} (h : ∀ l ∈ ls, sameLetter l c = sameLetter l d) :
    ls.any (sameLetter · c) = ls.any (sameLetter · d) := by
  rw [Bool.eq_iff_iff, List.any_eq_true, List.any_eq_true]
  constructor
  · rintro ⟨l, hl, hc⟩
    exact ⟨l, hl, h l hl ▸ hc⟩
  · rintro ⟨l, hl, hd⟩
    exact ⟨l, hl, (h l hl).symm ▸ hd⟩

/-- A glyph is like two letters alike if it mentions no letter that tells them apart. -/
theorem likes_congr {g : Glyph} {c d : Char} (h : ∀ l ∈ g.mentions, sameLetter l c = sameLetter l d) :
    g.likes c = g.likes d := by
  cases g with
  | letter l => exact h l List.mem_cons_self
  | oneOf ls => exact any_sameLetter_congr h
  | noneOf ls => exact congrArg Bool.not (any_sameLetter_congr h)

/-! ## A change that is not noticed -/

section

variable {φ : Char → Char}

/-- A pattern of glyphs that do not notice a change fits the changed word as it fits the word. -/
theorem likes_map {gs : List Glyph} {cs : List Char} (h : ∀ g ∈ gs, ∀ c ∈ cs, g.likes (φ c) = g.likes c) :
    likes gs (cs.map φ) = likes gs cs := by
  induction gs generalizing cs with
  | nil => cases cs with
    | nil => rfl
    | cons c cs => rfl
  | cons g gs ih =>
    cases cs with
    | nil => rfl
    | cons c cs =>
      have htail := ih fun g' hg' c' hc' => h g' (List.mem_cons_of_mem g hg') c' (List.mem_cons_of_mem c hc')
      rw [List.map_cons, likes, likes, h g List.mem_cons_self c List.mem_cons_self, htail]

/-- So it does where it may have to be the whole word. -/
theorem fits_map {whole : Bool} {gs : List Glyph} {cs : List Char}
    (h : ∀ g ∈ gs, ∀ c ∈ cs, g.likes (φ c) = g.likes c) : fits whole gs (cs.map φ) = fits whole gs cs := by
  cases whole with
  | true => exact likes_map h
  | false =>
    show endsLike gs (cs.map φ) = endsLike gs cs
    unfold endsLike
    rw [List.length_map, ← List.map_drop]
    exact likes_map fun g hg c hc => h g hg c (List.mem_of_mem_drop hc)

/-- An end is replaced if one of the patterns fits, and which of them does makes no difference. -/
theorem replaceEnd?_eq_ite (whole : Bool) (kept : List (List Glyph)) (dropped added : String) (word : List Char) :
    replaceEnd? whole kept dropped added word =
      if kept.any (fun k => fits whole (k ++ spelled dropped) word) then
        some (word.take (word.length - dropped.length) ++ added.toList) else none :=
  rfl

/-- An end is replaced after a change as before it, if what is added does not change. -/
theorem replaceEnd?_map {whole : Bool} {kept : List (List Glyph)} {dropped added : String} {word : List Char}
    (hkept : ∀ k ∈ kept, ∀ g ∈ k ++ spelled dropped, ∀ c ∈ word, g.likes (φ c) = g.likes c)
    (hadded : ∀ c ∈ added.toList, φ c = c) :
    replaceEnd? whole kept dropped added (word.map φ) = (replaceEnd? whole kept dropped added word).map (List.map φ) := by
  have hends : kept.any (fun k => fits whole (k ++ spelled dropped) (word.map φ)) =
      kept.any (fun k => fits whole (k ++ spelled dropped) word) := by
    rw [Bool.eq_iff_iff, List.any_eq_true, List.any_eq_true]
    refine exists_congr fun k => and_congr_right fun hk => ?_
    rw [fits_map (hkept k hk)]
  have hsame : added.toList.map φ = added.toList := by
    rw [List.map_congr_left hadded, List.map_id']
  rw [replaceEnd?_eq_ite, replaceEnd?_eq_ite, hends]
  split
  · rw [Option.map_some, List.map_append, hsame, List.map_take, List.length_map]
  · rfl

/-- If every attempt commutes with a change, so does the first one that succeeds. -/
theorem findSome?_eq_map {α β : Type} {xs : List α} {f g : α → Option β} {ψ : β → β}
    (h : ∀ x ∈ xs, f x = (g x).map ψ) : xs.findSome? f = (xs.findSome? g).map ψ := by
  induction xs with
  | nil => rfl
  | cons x xs ih =>
    rw [List.findSome?_cons, List.findSome?_cons, h x List.mem_cons_self]
    cases g x with
    | some y => rfl
    | none => exact ih fun y hy => h y (List.mem_cons_of_mem x hy)

/-- **A rule that does not notice a change** makes of the changed word what it makes of the word, changed. -/
theorem applied?_map {r : Rule} {word : List Char}
    (hsame : ∀ l ∈ r.mentions, ∀ c ∈ word, sameLetter l (φ c) = sameLetter l c)
    (hadded : ∀ c ∈ r.additions, φ c = c) : r.applied? (word.map φ) = (r.applied? word).map (List.map φ) := by
  cases r with
  | ending whole kept dropped added =>
    refine findSome?_eq_map fun d hd => replaceEnd?_map (fun k hk g hg c hc => ?_) hadded
    refine likes_congr fun l hl => hsame l ?_ c hc
    refine List.mem_append.mpr ((List.mem_append.mp hg).imp (fun hg => ?_) fun hg => ?_)
    · exact List.mem_flatMap.mpr ⟨g, List.mem_flatten.mpr ⟨k, hk, hg⟩, hl⟩
    · -- a spelled word mentions its own letters
      obtain ⟨m, hm, rfl⟩ := List.mem_map.mp hg
      obtain rfl := List.mem_singleton.mp hl
      exact List.mem_flatMap.mpr ⟨d, hd, hm⟩
  | opening kept dropped =>
    have hrest : afterWord? (kept.toList ++ dropped.toList) (word.map φ) =
        (afterWord? (kept.toList ++ dropped.toList) word).map (List.map φ) := afterWord?_map hsame
    simp only [Rule.applied?, hrest]
    cases afterWord? (kept.toList ++ dropped.toList) word with
    | none => rfl
    | some rest => simp only [Option.map_some, List.map_append, List.map_take]

/-- The change `φ` of the characters of a word is not noticed by the rules. -/
structure Unnoticed (φ : Char → Char) (word : List Char) : Prop where
  /-- What a rule looks for stands where it stood before. -/
  same : ∀ r ∈ rules, ∀ l ∈ r.mentions, ∀ c ∈ word, sameLetter l (φ c) = sameLetter l c
  /-- What a rule writes is not changed. -/
  additions : ∀ r ∈ rules, ∀ c ∈ r.additions, φ c = c
  /-- The word is its own singular by exception when it was before. -/
  uncountable : isUncountable (word.map φ) = isUncountable word

/-- **A change that is not noticed** may be made before or after the singular is formed. -/
theorem singular_map {word : List Char} (h : Unnoticed φ word) : singular (word.map φ) = (singular word).map φ := by
  have hrules : rules.findSome? (·.applied? (word.map φ)) = (rules.findSome? (·.applied? word)).map (List.map φ) :=
    findSome?_eq_map fun r hr => applied?_map (h.same r hr) (h.additions r hr)
  unfold singular
  rw [h.uncountable, hrules]
  split
  · rfl
  · cases rules.findSome? (·.applied? word) with
    | none => rfl
    | some out =>
      cases out with
      | nil => rfl
      | cons c cs => rfl

end

/-! ## Digits -/

/-- A letter that no rule mentions stands for every digit. -/
def masked (c : Char) : Char :=
  if isAsciiDigit c then 'k' else c

/-- Letters are not masked. -/
theorem masked_of_isLower {c : Char} (h : isLower c = true) : masked c = c := by
  have hdigit : isAsciiDigit c = false := by
    rw [Bool.eq_false_iff, ne_eq, isAsciiDigit_iff]
    rw [isLower_iff] at h
    omega
  rw [masked, if_neg (Bool.eq_false_iff.mp hdigit)]

/-- The mask of a digit is a letter, so a masked word consists of letters. -/
theorem isLower_masked {c : Char} (h : isWordPart c = true) : isLower (masked c) = true := by
  rcases isWordPart_iff.mp h with h | h
  · rw [masked_of_isLower h]
    exact h
  · rw [masked, if_pos h]
    decide

/-- A text that can be in a rule: ASCII lower-case letters without the one that stands for digits. -/
def isUnmasked (cs : List Char) : Bool :=
  cs.all fun c => isLower c && c != 'k'

section

variable {cs x : List Char}

/-- What is unmasked is left as it is. -/
theorem map_masked_eq_self (h : isUnmasked x = true) : x.map masked = x := by
  have hsame : ∀ c ∈ x, masked c = c := by
    intro c hc
    have hletter := List.all_eq_true.mp h c hc
    rw [Bool.and_eq_true] at hletter
    exact masked_of_isLower hletter.1
  rw [List.map_congr_left hsame, List.map_id']

/-- Only a text itself becomes a text that can be in a rule. -/
theorem map_masked_eq_iff (h : isUnmasked x = true) : cs.map masked = x ↔ cs = x := by
  constructor
  · intro heq
    have hsame : ∀ c ∈ cs, masked c = c := by
      intro c hc
      have hmem : masked c ∈ x := heq ▸ List.mem_map_of_mem hc
      have hletter := List.all_eq_true.mp h _ hmem
      -- a digit would stand there as the letter that is excluded
      cases hdigit : isAsciiDigit c with
      | false => rw [masked, if_neg (Bool.eq_false_iff.mp hdigit)]
      | true =>
        rw [masked, if_pos hdigit] at hletter
        exact absurd hletter (by decide)
    rwa [List.map_congr_left hsame, List.map_id'] at heq
  · rintro rfl
    exact map_masked_eq_self h

/-- Words in letters that are no mask stand at the end of a masked word if they stood there before. -/
theorem suffix_map_masked_iff (h : isUnmasked x = true) : x <:+ cs.map masked ↔ x <:+ cs := by
  constructor
  · rintro ⟨u, hu⟩
    obtain ⟨a, b, rfl, -, hb⟩ := List.map_eq_append_iff.mp hu.symm
    rw [(map_masked_eq_iff h).mp hb]
    exact List.suffix_append a x
  · rintro ⟨u, rfl⟩
    rw [List.map_append, map_masked_eq_self h]
    exact List.suffix_append _ x

/-- A word in letters that are no mask stands at the start of the masked text exactly if it stood there before. -/
theorem prefix_map_masked_iff (h : isUnmasked x = true) : x <+: cs.map masked ↔ x <+: cs := by
  constructor
  · rintro ⟨u, hu⟩
    obtain ⟨a, b, rfl, ha, -⟩ := List.map_eq_append_iff.mp hu.symm
    rw [(map_masked_eq_iff h).mp ha]
    exact List.prefix_append x b
  · rintro ⟨u, rfl⟩
    rw [List.map_append, map_masked_eq_self h]
    exact List.prefix_append x _

end

/-- No rule and no uncountable word mentions the letter that masks digits. -/
theorem isUnmasked_rules : (∀ r ∈ rules, isUnmasked r.mentions = true ∧ isUnmasked r.additions = true) ∧
    ∀ x ∈ uncountable, isUnmasked x.toList = true := by
  decide +kernel

section

variable {word : List Char}

/-- A lowercase letter other than the mask is as much like the masked character as like the character itself. -/
theorem sameLetter_masked {l c : Char} (hl : l ≠ 'k') (hll : isLower l = true) (hc : isWordPart c = true) :
    sameLetter l (masked c) = sameLetter l c := by
  rcases isWordPart_iff.mp hc with hc | hc
  · rw [masked_of_isLower hc]
  · -- neither the digit nor what stands for it is the letter
    have hdigit : fold c ≠ l := by
      have hr := isAsciiDigit_iff.mp hc
      have hlow : isUpper c = false := by
        rw [Bool.eq_false_iff, ne_eq, isUpper_iff]
        omega
      have hfold : fold c = c := by
        unfold fold
        rw [if_neg (by simp; omega), if_neg (by simp; omega), lower_of_not_isUpper hlow]
      rw [hfold]
      rintro rfl
      rw [isLower_iff] at hll
      omega
    have hk : fold 'k' ≠ l := fun h => hl h.symm
    rw [masked, if_pos hc, sameLetter, sameLetter, beq_eq_false_iff_ne.mpr hdigit, beq_eq_false_iff_ne.mpr hk]

/-- **No rule notices which digit stands where**, nor that it is a digit. -/
theorem unnoticed_masked (h : ∀ c ∈ word, isWordPart c = true) : Unnoticed masked word where
  same := by
    intro r hr l hl c hc
    have hmention := List.all_eq_true.mp (isUnmasked_rules.1 r hr).1 l hl
    simp only [Bool.and_eq_true, bne_iff_ne] at hmention
    exact sameLetter_masked hmention.2 hmention.1 (h c hc)
  additions := by
    intro r hr c hc
    exact masked_of_isLower (isLower_of_mem_additions r hr c hc)
  uncountable := by
    have hlower : word.map lower = word := by
      rw [List.map_congr_left fun c hc => lower_of_isWordPart (h c hc), List.map_id']
    have hmasked : (word.map masked).map lower = word.map masked := by
      refine map_lower_of_isLower fun c hc => ?_
      obtain ⟨d, hd, rfl⟩ := List.mem_map.mp hc
      exact isLower_masked (h d hd)
    unfold isUncountable
    rw [hlower, hmasked, Bool.eq_iff_iff, List.any_eq_true, List.any_eq_true]
    refine exists_congr fun x => and_congr_right fun hx => ?_
    rw [beq_iff_eq, beq_iff_eq, eq_comm, map_masked_eq_iff (isUnmasked_rules.2 x hx), eq_comm]

/-- **Digits are like a letter that no rule knows.** -/
theorem singular_map_masked (h : ∀ c ∈ word, isWordPart c = true) :
    singular (word.map masked) = (singular word).map masked :=
  singular_map (unnoticed_masked h)

/-- A rule on the start of a word drops something. -/
theorem opening_shortens : ∀ r ∈ rules, ∀ kept dropped, r = .opening kept dropped → dropped.length ≠ 0 := by
  intro r hr kept dropped heq
  have hall : rules.all (fun r => match r with | .opening _ d => d.length != 0 | _ => true) = true := by decide
  have h := List.all_eq_true.mp hall r hr
  rw [heq] at h
  exact bne_iff_ne.mp h

/-- **What is its own singular with its digits masked** is so without. -/
theorem singular_eq_self_of_masked (h : (singular word).map masked = word.map masked) : singular word = word := by
  rcases singular_cases word with hs | ⟨r, hr, happ, -⟩
  · exact hs
  · cases r with
    | ending whole kept dropped added =>
      obtain ⟨d, -, hd⟩ := List.exists_of_findSome?_eq_some happ
      obtain ⟨-, hout⟩ := replaceEnd?_eq_some_iff.mp hd
      have hadded : isUnmasked added.toList = true := (isUnmasked_rules.1 _ hr).2
      -- what is written takes the place of the same letters
      generalize word.length - d.length = n at hout
      have hsplit : word.map masked = (word.take n).map masked ++ (word.drop n).map masked := by
        rw [← List.map_append, List.take_append_drop]
      rw [hout, List.map_append, map_masked_eq_self hadded, hsplit] at h
      have hdrop := (map_masked_eq_iff hadded).mp (List.append_cancel_left h).symm
      rw [hout, ← hdrop, List.take_append_drop]
    | opening kept dropped =>
      obtain ⟨rest, hrest, hout⟩ := Option.map_eq_some_iff.mp happ
      obtain ⟨hdrop, hlength⟩ := afterWord?_eq_some hrest
      have hsome := opening_shortens _ hr kept dropped rfl
      have hsame := congrArg List.length h
      rw [← hout, ← hdrop] at hsame
      simp only [List.length_map, List.length_append, List.length_take, List.length_drop,
        String.length_toList] at hsame hlength
      omega

end

end RecordGate.Name
