import RecordGate.Proofs.Name.Pattern

/-!
# `RecordGate.Proofs.Name.Outline` — what the rules make of a word that is known in outline

Which rule decides on a word depends on its end, and only rarely on more. An `Outline` says by a pattern how a
lower-case word ends, and what it does not end with, start with or consist of. On an outline the rules can be gone
through in their order (`Outline.settles`): a rule is ruled out if its pattern disagrees with the end or needs what is
denied, and is sure to apply if its pattern covers the end as far as it is known. If every rule up to the first sure
one is ruled out or makes the same change, then this change gives the singular of every word of the outline
(`singular_of_settles`).

Outlines and rules are finite, so the evaluation is a computation, done once for each outline; words stay arbitrary.
-/

namespace RecordGate.Name

open Text

/-! ## Outlines -/

/-- What is known of a lower-case word. -/
structure Outline where
  /-- The pattern fits an end of the word. -/
  ending : List Glyph
  /-- It does not end in any of these ways. -/
  notEnds : List (List Char)
  /-- It is none of these words. -/
  notWords : List (List Char)
  /-- It does not start in any of these ways. -/
  notStarts : List (List Char)

/-- The word is as the outline says. -/
structure Outline.Fits (o : Outline) (word : List Char) : Prop where
  isLower : ∀ c ∈ word, isLower c = true
  ending : endsLike o.ending word = true
  notEnds : ∀ x ∈ o.notEnds, ¬ x <:+ word
  notWords : ∀ x ∈ o.notWords, word ≠ x
  notStarts : ∀ x ∈ o.notStarts, ¬ x <+: word

/-- Whether no word of the outline fits the pattern. -/
def Outline.rulesOut (o : Outline) (whole : Bool) (pattern : List Glyph) : Bool :=
  !mayEnd pattern o.ending || o.notEnds.any (fun x => spells (pattern.drop (pattern.length - x.length)) x) ||
    (whole && o.notWords.any (spells pattern))

/-- Whether the rule changes no word of the outline. -/
def Rule.isRuledOut (o : Outline) : Rule → Bool
  | .ending whole kept dropped _ => dropped.all fun d => kept.all fun k => o.rulesOut whole (k ++ spelled d)
  | .opening kept dropped => o.notStarts.contains (kept.toList ++ dropped.toList)

/-- Whether the rule changes every word of the outline. -/
def Rule.isSure (o : Outline) : Rule → Bool
  | .ending whole kept dropped _ =>
    !whole && dropped.any fun d => kept.any fun k => mustEnd (k ++ spelled d) o.ending
  | .opening _ _ => false

/-- Whether all that the rule does to a word is to write `new` for `old` at its end. -/
def Rule.replaces (old new : List Char) : Rule → Bool
  | .ending _ _ dropped added =>
    let stem := added.toList.take (added.toList.length - new.length)
    added.toList == stem ++ new && dropped.all fun d => d.toList == stem ++ old
  | .opening _ _ => false

/-- Whether the first of the rules that changes a word of the outline writes `new` for `old` at its end; if there
    may be none, this has to be no change. -/
def Outline.settles (o : Outline) (old new : List Char) : List Rule → Bool
  | [] => old == new
  | r :: rs =>
    if r.isRuledOut o then o.settles old new rs
    else r.replaces old new && (r.isSure o || o.settles old new rs)

section

variable {o : Outline} {word : List Char}

/-- A pattern that is ruled out by the outline fits no word of it. -/
theorem fits_eq_false_of_rulesOut (ho : o.Fits word) {whole : Bool} {pattern : List Glyph}
    (h : o.rulesOut whole pattern = true) : fits whole pattern word = false := by
  rw [Bool.eq_false_iff]
  intro hfits
  have hends := endsLike_of_fits hfits
  simp only [Outline.rulesOut, Bool.or_eq_true, Bool.not_eq_true', Bool.and_eq_true, List.any_eq_true] at h
  rcases h with (hend | ⟨x, hx, hspells⟩) | ⟨rfl, x, hx, hspells⟩
  · rw [mayEnd_of_endsLike ho.isLower hends ho.ending] at hend
    exact absurd hend (by decide)
  · -- what the pattern fits ends with `x`, and so does the word
    obtain ⟨a, v, rfl, hv⟩ := endsLike_iff.mp hends
    have htail := likes_drop (pattern.length - x.length) hv
    have hlower : ∀ c ∈ v.drop (pattern.length - x.length), isLower c = true := fun c hc =>
      ho.isLower c (List.mem_append_right a (List.mem_of_mem_drop hc))
    have heq := (likes_iff_of_spells hspells hlower).mp htail
    refine ho.notEnds x hx ?_
    rw [← heq]
    exact (List.drop_suffix _ v).trans (List.suffix_append a v)
  · exact ho.notWords x hx ((likes_iff_of_spells hspells ho.isLower).mp hfits)

/-- So a rule that is ruled out applies to none. -/
theorem applied?_eq_none_of_isRuledOut (ho : o.Fits word) {r : Rule} (h : r.isRuledOut o = true) :
    r.applied? word = none := by
  rw [Option.eq_none_iff_forall_ne_some]
  intro out happ
  cases r with
  | ending whole kept dropped added =>
    obtain ⟨d, hd, hout⟩ := List.exists_of_findSome?_eq_some happ
    obtain ⟨⟨k, hk, hfits⟩, -⟩ := replaceEnd?_eq_some_iff.mp hout
    simp only [Rule.isRuledOut, List.all_eq_true] at h
    rw [fits_eq_false_of_rulesOut ho (h d hd k hk)] at hfits
    exact absurd hfits (by decide)
  | opening kept dropped =>
    obtain ⟨rest, hrest, -⟩ := Option.map_eq_some_iff.mp happ
    obtain ⟨u, hword, hu⟩ := afterWord?_eq_some_iff.mp hrest
    -- in a lower-case word nothing is read up to case
    have hfold : u.map fold = u :=
      map_fold_of_isLower fun c hc => ho.isLower c (hword ▸ List.mem_append_left rest hc)
    refine ho.notStarts _ (List.contains_iff_mem.mp h) ?_
    rw [← hu, hfold, hword]
    exact List.prefix_append u rest

/-- **A rule that is sure to apply** applies to all words of the outline. -/
theorem exists_applied?_of_isSure (ho : o.Fits word) {r : Rule} (h : r.isSure o = true) :
    ∃ out, r.applied? word = some out := by
  cases r with
  | opening kept dropped => exact absurd h (by simp [Rule.isSure])
  | ending whole kept dropped added =>
    simp only [Rule.isSure, Bool.and_eq_true, Bool.not_eq_true', List.any_eq_true] at h
    obtain ⟨rfl, d, hd, k, hk, hmust⟩ := h
    have hfits : fits false (k ++ spelled d) word = true := endsLike_of_mustEnd ho.isLower hmust ho.ending
    have hout : replaceEnd? false kept d added word = some _ :=
      replaceEnd?_eq_some_iff.mpr ⟨⟨k, hk, hfits⟩, rfl⟩
    rw [← Option.isSome_iff_exists]
    exact List.findSome?_isSome_iff.mpr ⟨d, hd, by rw [hout]; rfl⟩

/-- **What a rule of one change does to a lower-case word.** -/
theorem exists_of_replaces (hword : ∀ c ∈ word, isLower c = true) {r : Rule} {old new out : List Char}
    (hr : r.replaces old new = true) (happ : r.applied? word = some out) :
    ∃ u, word = u ++ old ∧ out = u ++ new := by
  cases r with
  | opening kept dropped => exact absurd hr (by simp [Rule.replaces])
  | ending whole kept dropped added =>
    simp only [Rule.replaces, Bool.and_eq_true, beq_iff_eq, List.all_eq_true] at hr
    obtain ⟨hadded, hdropped⟩ := hr
    generalize added.toList.take (added.toList.length - new.length) = stem at hadded hdropped
    obtain ⟨d, hd, hout⟩ := List.exists_of_findSome?_eq_some happ
    obtain ⟨⟨k, -, hfits⟩, rfl⟩ := replaceEnd?_eq_some_iff.mp hout
    obtain ⟨u, rfl, -⟩ := (endsLike_append_spelled_iff hword).mp (endsLike_of_fits hfits)
    refine ⟨u ++ stem, ?_, ?_⟩
    · rw [hdropped d hd, List.append_assoc]
    · rw [List.length_append, String.length_toList, Nat.add_sub_cancel, List.take_left, hadded, List.append_assoc]

/-- **An outline that settles the rules** settles them for each of its words: the first rule that applies makes the
    change, or no rule applies and there is no change to make. -/
theorem findSome?_of_settles (ho : o.Fits word) {old new : List Char} {rs : List Rule}
    (h : o.settles old new rs = true) :
    (∃ u, word = u ++ old ∧ rs.findSome? (·.applied? word) = some (u ++ new)) ∨
      (old = new ∧ rs.findSome? (·.applied? word) = none) := by
  -- the search stops at the first rule that replaces, and a rule that is sure to apply leaves none behind it
  induction rs with
  | nil => exact Or.inr ⟨beq_iff_eq.mp h, rfl⟩
  | cons r rs ih =>
    rw [List.findSome?_cons]
    unfold Outline.settles at h
    split at h
    · rename_i hout
      rw [applied?_eq_none_of_isRuledOut ho hout]
      exact ih h
    · rw [Bool.and_eq_true, Bool.or_eq_true] at h
      obtain ⟨hreplaces, hrest⟩ := h
      cases happ : r.applied? word with
      | some out =>
        obtain ⟨u, hword, rfl⟩ := exists_of_replaces ho.isLower hreplaces happ
        exact Or.inl ⟨u, hword, rfl⟩
      | none =>
        rcases hrest with hsure | hrest
        · obtain ⟨out, hout⟩ := exists_applied?_of_isSure ho hsure
          exact absurd (hout.symm.trans happ) (by simp)
        · exact ih hrest

/-! ## Singulars -/

/-- Whether no word of the outline is its own singular by exception. -/
def Outline.isCountable (o : Outline) : Bool :=
  uncountable.all fun x => o.rulesOut true (spelled x)

/-- No word of a countable outline is in the list of uncountable words. -/
theorem isUncountable_eq_false (ho : o.Fits word) (h : o.isCountable = true) : isUncountable word = false := by
  rw [Bool.eq_false_iff]
  intro hword
  obtain ⟨x, hx, heq⟩ := List.any_eq_true.mp hword
  rw [map_lower_of_isLower ho.isLower, beq_iff_eq] at heq
  have hfits : fits true (spelled x) word = true :=
    (likes_iff_of_spells (spells_spelled x) ho.isLower).mpr heq.symm
  rw [fits_eq_false_of_rulesOut ho (List.all_eq_true.mp h x hx)] at hfits
  exact absurd hfits (by decide)

/-- The singular of every word of an outline that settles rules with the effect of the English ones. -/
theorem singular_of_settles_of_eq {u old new : List Char} {rs : List Rule} (ho : o.Fits (u ++ old))
    (hrs : rs.findSome? (·.applied? (u ++ old)) = rules.findSome? (·.applied? (u ++ old)))
    (h : o.settles old new rs = true) (hcount : o.isCountable = true ∨ old = new) (hne : u ++ new ≠ []) :
    singular (u ++ old) = u ++ new := by
  unfold singular
  rw [← hrs]
  split
  · rename_i huncountable
    rcases hcount with hcount | rfl
    · rw [isUncountable_eq_false ho hcount] at huncountable
      exact absurd huncountable (by decide)
    · rfl
  · rcases findSome?_of_settles ho h with ⟨v, hv, hsome⟩ | ⟨rfl, hnone⟩
    · obtain rfl := List.append_cancel_right hv
      rw [hsome]
      split
      · rename_i heq
        exact absurd (Option.some.inj heq) hne
      · rename_i heq
        exact absurd heq (by simp)
      · rename_i heq
        exact (Option.some.inj heq).symm
    · rw [hnone]

/-- **The singular of every word of an outline** that settles the rules. -/
theorem singular_of_settles {u old new : List Char} (ho : o.Fits (u ++ old)) (h : o.settles old new rules = true)
    (hcount : o.isCountable = true ∨ old = new) (hne : u ++ new ≠ []) : singular (u ++ old) = u ++ new :=
  singular_of_settles_of_eq ho rfl h hcount hne

end

end RecordGate.Name
