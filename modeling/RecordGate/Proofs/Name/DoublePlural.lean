import RecordGate.Proofs.Name.Plural
import RecordGate.Proofs.Name.Renaming

/-!
# `RecordGate.Proofs.Name.DoublePlural` — when a singular is its own singular

The singular of a word is found by one rule. Whether a rule applies to what it has left is another question, and it
does to the singular of a *double plural* (`IsDoublePlural`): `datas` loses its `s` and is `data`, whose singular is
`datum`. For all other words the answer is no (`singular_singular_iff`), so the singular is reached in one step. Words
that start with `oxen` are set apart, since their rule looks at the start of a word and may apply any number of times.

Every rule but one leaves an end that it has itself written or looked at. On the outline of this end the rules are
gone through once more. The last rule drops an `s` and leaves whatever stands before it. Here it counts that no rule
before applied, and that the word was no double plural.
-/

namespace RecordGate.Name

open Text

/-! ## Double plurals -/

/-- The ends of plurals that do not end in `s`. -/
def bareEndings : List String :=
  ["people", "men", "children", "octopi", "viri", "ta", "ia"]

/-- Plurals that do not end in `s` and are recognized as a whole. -/
def bareWords : List String :=
  ["mice", "lice"]

/-- A plural that does not end in `s`, and an `s` behind it. But `alias` is no such word. -/
def IsDoublePlural (word : List Char) : Prop :=
  ((∃ e ∈ bareEndings, e.toList ++ ['s'] <:+ word) ∧ ¬ "alias".toList <:+ word) ∨
    ∃ w ∈ bareWords, word = w.toList ++ ['s']

instance (word : List Char) : Decidable (IsDoublePlural word) :=
  inferInstanceAs (Decidable (_ ∧ _ ∨ _))

/-! ## Rules with one ending each -/

/-- The rules that drop one of the endings each. -/
def Rule.split : Rule → List Rule
  | .ending whole kept dropped added => dropped.map fun d => .ending whole kept [d] added
  | .opening kept dropped => [.opening kept dropped]

/-- All rules in order, each with one ending. -/
def singleRules : List Rule :=
  rules.flatMap Rule.split

/-- A rule does what its endings do, taken one by one. -/
theorem findSome?_split (r : Rule) (word : List Char) : r.split.findSome? (·.applied? word) = r.applied? word := by
  cases r with
  | opening kept dropped => simp [Rule.split]
  | ending whole kept dropped added =>
    show (dropped.map _).findSome? _ = dropped.findSome? _
    induction dropped with
    | nil => rfl
    | cons d ds ih =>
      rw [List.map_cons, List.findSome?_cons, List.findSome?_cons, ih]
      simp only [Rule.applied?, List.findSome?_cons, List.findSome?_nil]
      cases replaceEnd? whole kept d added word with
      | none => rfl
      | some out => rfl

/-- So nothing changes when all rules are split. -/
theorem findSome?_singleRules (word : List Char) :
    singleRules.findSome? (·.applied? word) = rules.findSome? (·.applied? word) := by
  unfold singleRules
  induction rules with
  | nil => rfl
  | cons r rs ih =>
    rw [List.flatMap_cons, List.findSome?_append, ih, findSome?_split, List.findSome?_cons]
    cases r.applied? word with
    | none => rfl
    | some out => rfl

/-- The last rule: a plural in `s` loses it. -/
def droppingS : Rule :=
  .suffix [""] ["s"] ""

/-- The rules before the last one. -/
def earlierRules : List Rule :=
  singleRules.dropLast

/-- The last rule is the one that drops an `s`. -/
theorem singleRules_eq : singleRules = earlierRules ++ [droppingS] := by
  rfl

/-- Either the word is its own singular, or the first rule that applies gave it. -/
theorem singular_eq_self_or (word : List Char) :
    singular word = word ∨ singleRules.findSome? (·.applied? word) = some (singular word) := by
  rw [findSome?_singleRules]
  unfold singular
  split
  · exact Or.inl rfl
  · split
    · exact Or.inl rfl
    · exact Or.inl rfl
    · rename_i other hne h
      exact Or.inr h

/-! ## Outlines of what rules leave -/

/-- A word that ends so, and does not start with `oxen`. -/
def outlineOf (ending : List Glyph) : Outline where
  ending := ending
  notEnds := []
  notWords := []
  notStarts := ["oxen".toList]

/-- A word that ends so, and not in `alias`. -/
def outlineOfDouble (ending : List Glyph) : Outline :=
  { outlineOf ending with notEnds := ["alias".toList] }

/-- A word that a rule left: what it kept stands before what it added. If an `n` was added, the start of the word is
    not known, and does not matter. -/
def outlineLeft (kept : List Glyph) (added : String) : Outline :=
  { outlineOf (kept ++ spelled added) with notStarts := if added.toList.contains 'n' then [] else ["oxen".toList] }

/-- What the last rule leaves of a word that is no double plural, if it ends in `a`. -/
def outlineInA : Outline :=
  outlineOf [.noneOf ['t', 'i'], .letter 'a']

/-- What the last rule leaves of a word that is no double plural, if it does not end in `a`. -/
def outlineNotInA : Outline where
  ending := []
  notEnds := ["s".toList, "a".toList] ++ bareEndings.map String.toList
  notWords := bareWords.map String.toList
  notStarts := ["oxen".toList]

/-- The words that rules on whole words change, or would change. -/
def wholeWords : List String :=
  ["axis", "axes", "mice", "lice", "analysis", "analyses"]

/-- Whether what the rule leaves is left alone by all rules. -/
def Rule.isFinal : Rule → Bool
  | .ending false kept _ added => kept.all fun k => (outlineLeft k added).settles [] [] singleRules
  | .ending true kept dropped _ =>
    kept.all fun k => dropped.all fun d => wholeWords.any fun w => spells (k ++ spelled d) w.toList
  | .opening kept dropped => kept.toList ++ dropped.toList == "oxen".toList

/-- How the plurals without `s` change at their end. -/
def bareChanges : List (String × String) :=
  [("eople", "erson"), ("en", "an"), ("ren", ""), ("i", "us"), ("a", "um")]

/-- **What going through the rules shows**, once for each rule and each kind of word. -/
structure RulesSettle : Prop where
  /-- Each rule but the last leaves what no rule changes. -/
  earlier : ∀ r ∈ earlierRules, r.isFinal = true
  wholeWords : ∀ w ∈ wholeWords, singular (singular w.toList) = singular w.toList
  /-- What the last rule leaves of a word that is no double plural. -/
  leftInA : outlineInA.settles [] [] singleRules = true
  leftNotInA : outlineNotInA.settles [] [] singleRules = true
  leftA : singular "a".toList = "a".toList
  /-- A double plural loses its `s`. -/
  double : ∀ e ∈ bareEndings, (outlineOfDouble (spelled e ++ spelled "s")).settles ['s'] [] singleRules = true ∧
    (outlineOfDouble (spelled e ++ spelled "s")).isCountable = true
  /-- The plural that is left of it changes. -/
  bare : ∀ e ∈ bareEndings, ∃ p ∈ bareChanges, p.1 ≠ p.2 ∧ p.1.toList <:+ e.toList ∧ p.1.length < e.length ∧
    (outlineOf (spelled e)).settles p.1.toList p.2.toList singleRules = true ∧
    (outlineOf (spelled e)).isCountable = true
  bareWords : ∀ w ∈ bareWords, singular (singular (w.toList ++ ['s'])) ≠ singular (w.toList ++ ['s'])
  /-- A rule before the last is sure to apply to these endings. -/
  sureSS : earlierRules.any (·.isSure { outlineOf (spelled "ss") with notStarts := [] }) = true
  sureAlias : earlierRules.any (·.isSure { outlineOf (spelled "alias") with notStarts := [] }) = true

/-- All of this is found by evaluation. -/
theorem rulesSettle : RulesSettle := by
  constructor
  all_goals decide +kernel

/-! ## Words of letters -/

section

variable {word : List Char}

/-- A word that ends so has the outline of this ending. -/
theorem fits_outlineOf {ending : List Glyph} (hword : ∀ c ∈ word, isLower c = true)
    (hoxen : ¬ "oxen".toList <+: word) (hends : endsLike ending word = true) : (outlineOf ending).Fits word where
  isLower := hword
  ending := hends
  notEnds := fun _ hx => absurd hx List.not_mem_nil
  notWords := fun _ hx => absurd hx List.not_mem_nil
  notStarts := by
    intro x hx
    rw [List.mem_singleton.mp hx]
    exact hoxen

/-- **An outline decides**: the singular of each word that fits is found on the outline. -/
theorem singular_of_settles_single {o : Outline} {u old new : List Char} (ho : o.Fits (u ++ old))
    (h : o.settles old new singleRules = true) (hcount : o.isCountable = true ∨ old = new) (hne : u ++ new ≠ []) :
    singular (u ++ old) = u ++ new :=
  singular_of_settles_of_eq ho (findSome?_singleRules _) h hcount hne

/-- A word is its own singular if no rule changes a word of its outline. -/
theorem singular_eq_self_of_settles {o : Outline} (ho : o.Fits word) (h : o.settles [] [] singleRules = true) :
    singular word = word := by
  by_cases hnil : word = []
  · rw [hnil]
    decide
  · have hfits : o.Fits (word ++ []) := by rwa [List.append_nil]
    have hsingular := singular_of_settles_single hfits h (Or.inr rfl) (by rwa [List.append_nil])
    rwa [List.append_nil] at hsingular

/-- A word ends like what its end spells. -/
theorem endsLike_spelled {u : List Char} {e : String} (hword : ∀ c ∈ u ++ e.toList, isLower c = true) :
    endsLike (spelled e) (u ++ e.toList) = true :=
  (endsLike_append_spelled_iff (k := []) hword).mpr ⟨u, rfl, endsLike_iff.mpr ⟨u, [], by simp, rfl⟩⟩

/-- A double plural loses its `s`. -/
theorem singular_double {u : List Char} {e : String} (he : e ∈ bareEndings)
    (hword : ∀ c ∈ u ++ e.toList ++ ['s'], isLower c = true) (hoxen : ¬ "oxen".toList <+: u ++ e.toList ++ ['s'])
    (halias : ¬ "alias".toList <:+ u ++ e.toList ++ ['s']) : singular (u ++ e.toList ++ ['s']) = u ++ e.toList := by
  obtain ⟨hsettles, hcount⟩ := rulesSettle.double e he
  have hlower : ∀ c ∈ u ++ e.toList, isLower c = true := fun c hc => hword c (List.mem_append_left _ hc)
  have hends : endsLike (spelled e ++ spelled "s") (u ++ e.toList ++ ['s']) = true :=
    (endsLike_append_spelled_iff hword).mpr ⟨_, rfl, endsLike_spelled hlower⟩
  have hfits : (outlineOfDouble (spelled e ++ spelled "s")).Fits (u ++ e.toList ++ ['s']) := by
    refine { fits_outlineOf hword hoxen hends with notEnds := ?_ }
    intro x hx
    rw [List.mem_singleton.mp hx]
    exact halias
  have hnonempty : ∀ e ∈ bareEndings, e.toList ≠ [] := by decide
  have hleft : u ++ e.toList ++ [] ≠ [] := by simp [hnonempty e he]
  have hsingular := singular_of_settles_single hfits hsettles (Or.inl hcount) hleft
  rwa [List.append_nil] at hsingular

/-- What is left of it is a plural still. -/
theorem singular_bare_ne {u : List Char} {e : String} (he : e ∈ bareEndings)
    (hword : ∀ c ∈ u ++ e.toList, isLower c = true) (hoxen : ¬ "oxen".toList <+: u ++ e.toList) :
    singular (u ++ e.toList) ≠ u ++ e.toList := by
  obtain ⟨⟨old, new⟩, -, hne, ⟨v, hv⟩, hlength, hsettles, hcount⟩ := rulesSettle.bare e he
  -- a part of the end stays as it is
  have hkept : v ≠ [] := by
    rintro rfl
    have hlong := congrArg List.length hv
    rw [List.nil_append, String.length_toList, String.length_toList] at hlong
    omega
  have hfits : (outlineOf (spelled e)).Fits (u ++ v ++ old.toList) := by
    rw [List.append_assoc, hv]
    exact fits_outlineOf hword hoxen (endsLike_spelled hword)
  have hleft : u ++ v ++ new.toList ≠ [] := by simp [hkept]
  have hsingular := singular_of_settles_single hfits hsettles (Or.inl hcount) hleft
  rw [List.append_assoc, hv] at hsingular
  rw [hsingular, ← hv, ← List.append_assoc]
  intro heq
  exact hne (String.toList_inj.mp (List.append_cancel_left heq).symm)

/-- **The singular of a double plural is a plural.** -/
theorem singular_singular_ne (hword : ∀ c ∈ word, isLower c = true) (hoxen : ¬ "oxen".toList <+: word)
    (h : IsDoublePlural word) : singular (singular word) ≠ singular word := by
  rcases h with ⟨⟨e, he, u, rfl⟩, halias⟩ | ⟨w, hw, rfl⟩
  · rw [← List.append_assoc] at hword hoxen halias ⊢
    have hlower : ∀ c ∈ u ++ e.toList, isLower c = true := fun c hc => hword c (List.mem_append_left _ hc)
    have hoxen' : ¬ "oxen".toList <+: u ++ e.toList := fun h => hoxen (h.trans (List.prefix_append _ _))
    rw [singular_double he hword hoxen halias]
    exact singular_bare_ne he hlower hoxen'
  · exact rulesSettle.bareWords w hw

/-! ## Words that are no double plurals -/

/-- What a rule leaves of a word has the outline of its end. -/
theorem fits_outlineLeft {u old : List Char} {k : List Glyph} {added : String} (hoxen : ¬ "oxen".toList <+: u ++ old)
    (hlower : ∀ c ∈ u ++ added.toList, isLower c = true) (hends : endsLike k u = true) :
    (outlineLeft k added).Fits (u ++ added.toList) where
  isLower := hlower
  ending := (endsLike_append_spelled_iff hlower).mpr ⟨u, rfl, hends⟩
  notEnds := fun _ hx => absurd hx List.not_mem_nil
  notWords := fun _ hx => absurd hx List.not_mem_nil
  notStarts := by
    intro x hx hstart
    unfold outlineLeft at hx
    dsimp only at hx
    split at hx
    · exact absurd hx List.not_mem_nil
    · rename_i hn
      rw [List.mem_singleton.mp hx] at hstart
      -- without an `n` in what was added, the word itself would start so
      have hshorter : ['o', 'x', 'e'] ++ ['n'] <+: u :=
        prefix_of_prefix_append (fun hmem => hn (List.contains_iff_mem.mpr hmem)) hstart
      exact hoxen (hshorter.trans (List.prefix_append _ _))

/-- What an earlier rule leaves is left alone. -/
theorem singular_singular_of_earlier (hword : ∀ c ∈ word, isLower c = true) (hoxen : ¬ "oxen".toList <+: word)
    {r : Rule} (hr : r ∈ earlierRules) (happ : r.applied? word = some (singular word)) :
    singular (singular word) = singular word := by
  have hfinal := rulesSettle.earlier r hr
  cases r with
  | opening kept dropped =>
    -- the rule needs a start that the word has not
    obtain ⟨rest, hrest, -⟩ := Option.map_eq_some_iff.mp happ
    obtain ⟨u, rfl, hu⟩ := afterWord?_eq_some_iff.mp hrest
    have hfold : u.map fold = u := map_fold_of_isLower fun c hc => hword c (List.mem_append_left rest hc)
    rw [hfold, beq_iff_eq.mp hfinal] at hu
    exact absurd (hu ▸ List.prefix_append u rest) hoxen
  | ending whole kept dropped added =>
    obtain ⟨d, hd, hout⟩ := List.exists_of_findSome?_eq_some happ
    obtain ⟨⟨k, hk, hfits⟩, hsingular⟩ := replaceEnd?_eq_some_iff.mp hout
    cases whole with
    | true =>
      simp only [Rule.isFinal, List.all_eq_true, List.any_eq_true] at hfinal
      obtain ⟨w, hw, hspells⟩ := hfinal k hk d hd
      rw [(likes_iff_of_spells hspells hword).mp hfits]
      exact rulesSettle.wholeWords w hw
    | false =>
      simp only [Rule.isFinal, List.all_eq_true] at hfinal
      obtain ⟨u, hu, hends⟩ := (endsLike_append_spelled_iff hword).mp hfits
      have hleft : singular word = u ++ added.toList := by
        rw [hsingular, hu, List.length_append, String.length_toList, Nat.add_sub_cancel, List.take_left]
      have hlower : ∀ c ∈ u ++ added.toList, isLower c = true := by
        rw [← hleft]
        exact fun c hc => (mem_singular hc).elim (hword c) id
      rw [hu] at hoxen
      rw [hleft]
      exact singular_eq_self_of_settles (fits_outlineLeft hoxen hlower hends) (hfinal k hk)

/-- An end to which an earlier rule is sure to apply is not there where none applies. -/
theorem not_suffix_of_unapplied (hword : ∀ c ∈ word, isLower c = true)
    (hnone : ∀ r ∈ earlierRules, r.applied? word = none) {x : String}
    (hsure : earlierRules.any (·.isSure { outlineOf (spelled x) with notStarts := [] }) = true) :
    ¬ x.toList <:+ word := by
  rintro ⟨u, rfl⟩
  obtain ⟨r, hr, hrsure⟩ := List.any_eq_true.mp hsure
  have ho : Outline.Fits { outlineOf (spelled x) with notStarts := [] } (u ++ x.toList) :=
    ⟨hword, endsLike_spelled hword, fun _ hx => absurd hx List.not_mem_nil,
      fun _ hx => absurd hx List.not_mem_nil, fun _ hx => absurd hx List.not_mem_nil⟩
  obtain ⟨out, hout⟩ := exists_applied?_of_isSure ho hrsure
  rw [hnone r hr] at hout
  exact absurd hout (by simp)

/-- Without a bare ending there is neither `t` nor `i` before an `a` at the end. -/
theorem fits_outlineInA {u : List Char} {c : Char} (hword : ∀ x ∈ u ++ [c] ++ "a".toList, isLower x = true)
    (hoxen : ¬ "oxen".toList <+: u ++ [c] ++ "a".toList)
    (hbare : ∀ e ∈ bareEndings, ¬ e.toList <:+ u ++ [c] ++ "a".toList) : outlineInA.Fits (u ++ [c] ++ "a".toList) := by
  have hnot : ['t', 'i'].contains c = false := by
    rw [Bool.eq_false_iff]
    intro hmem
    rcases List.mem_cons.mp (List.contains_iff_mem.mp hmem) with rfl | hmem
    · exact hbare "ta" (by decide) ⟨u, (List.append_assoc u ['t'] ['a']).symm⟩
    · rw [List.mem_singleton.mp hmem] at hbare
      exact hbare "ia" (by decide) ⟨u, (List.append_assoc u ['i'] ['a']).symm⟩
  have hends : endsLike ([.noneOf ['t', 'i']] ++ spelled "a") (u ++ [c] ++ "a".toList) = true :=
    (endsLike_append_spelled_iff hword).mpr ⟨u ++ [c], rfl, endsLike_noneOf (hword c (by simp)) hnot⟩
  exact fits_outlineOf hword hoxen hends

/-- A word that does not end in `a` or `s` has the other outline, if it is no bare plural. -/
theorem fits_outlineNotInA (hword : ∀ c ∈ word, isLower c = true) (hoxen : ¬ "oxen".toList <+: word)
    (hs : ¬ "s".toList <:+ word) (ha : ¬ "a".toList <:+ word) (hbare : ∀ e ∈ bareEndings, ¬ e.toList <:+ word)
    (hwords : ∀ w ∈ bareWords, word ≠ w.toList) : outlineNotInA.Fits word where
  isLower := hword
  ending := endsLike_iff.mpr ⟨word, [], by simp, rfl⟩
  notEnds := by
    intro x hx
    rcases List.mem_append.mp hx with hx | hx
    · rcases List.mem_cons.mp hx with rfl | hx
      · exact hs
      · rw [List.mem_singleton.mp hx]
        exact ha
    · obtain ⟨e, he, rfl⟩ := List.mem_map.mp hx
      exact hbare e he
  notWords := by
    intro x hx
    obtain ⟨w, hw, rfl⟩ := List.mem_map.mp hx
    exact hwords w hw
  notStarts := by
    intro x hx
    rw [List.mem_singleton.mp hx]
    exact hoxen

/-- What the last rule leaves is left alone, unless the word is a double plural. -/
theorem singular_eq_self_of_droppingS {v : List Char} (hword : ∀ c ∈ v ++ ['s'], isLower c = true)
    (hoxen : ¬ "oxen".toList <+: v ++ ['s']) (hdouble : ¬ IsDoublePlural (v ++ ['s']))
    (hnone : ∀ r ∈ earlierRules, r.applied? (v ++ ['s']) = none) : singular v = v := by
  have hlower : ∀ c ∈ v, isLower c = true := fun c hc => hword c (List.mem_append_left _ hc)
  have hoxen' : ¬ "oxen".toList <+: v := fun h => hoxen (h.trans (List.prefix_append _ _))
  -- the rule for `ss` comes earlier, and it did not apply
  have hs : ¬ "s".toList <:+ v := by
    rintro ⟨u, rfl⟩
    refine not_suffix_of_unapplied hword hnone rulesSettle.sureSS ⟨u, ?_⟩
    rw [List.append_assoc]
    rfl
  have hbare : ∀ e ∈ bareEndings, ¬ e.toList <:+ v := by
    rintro e he ⟨u, rfl⟩
    refine hdouble (Or.inl ⟨⟨e, he, u, (List.append_assoc _ _ _).symm⟩, ?_⟩)
    exact not_suffix_of_unapplied hword hnone rulesSettle.sureAlias
  have hwords : ∀ w ∈ bareWords, v ≠ w.toList := by
    rintro w hw rfl
    exact hdouble (Or.inr ⟨w, hw, rfl⟩)
  -- the outline of words in `a` has a letter in front of it, so `a` alone is a case of its own
  by_cases ha : "a".toList <:+ v
  · obtain ⟨u, rfl⟩ := ha
    rcases List.eq_nil_or_concat u with rfl | ⟨u, c, rfl⟩
    · exact rulesSettle.leftA
    · rw [List.concat_eq_append] at hlower hoxen' hbare ⊢
      exact singular_eq_self_of_settles (fits_outlineInA hlower hoxen' hbare) rulesSettle.leftInA
  · exact singular_eq_self_of_settles (fits_outlineNotInA hlower hoxen' hs ha hbare hwords) rulesSettle.leftNotInA

/-- **A word of letters that is no double plural** has a singular that is its own. -/
theorem singular_singular_of_not_double (hword : ∀ c ∈ word, isLower c = true) (hoxen : ¬ "oxen".toList <+: word)
    (hdouble : ¬ IsDoublePlural word) : singular (singular word) = singular word := by
  rcases singular_eq_self_or word with hself | happ
  · rw [hself]
    exact hself
  · rw [singleRules_eq, List.findSome?_append] at happ
    cases hearlier : earlierRules.findSome? (·.applied? word) with
    | some out =>
      rw [hearlier, Option.some_or] at happ
      obtain ⟨r, hr, hout⟩ := List.exists_of_findSome?_eq_some hearlier
      exact singular_singular_of_earlier hword hoxen hr (hout.trans happ)
    | none =>
      rw [hearlier, Option.none_or] at happ
      obtain ⟨r, hr, hout⟩ := List.exists_of_findSome?_eq_some happ
      rw [List.mem_singleton.mp hr] at hout
      have hdrops : droppingS.replaces ['s'] [] = true := by decide
      obtain ⟨v, rfl, hleft⟩ := exists_of_replaces hword hdrops hout
      rw [List.append_nil] at hleft
      rw [hleft]
      exact singular_eq_self_of_droppingS hword hoxen hdouble (List.findSome?_eq_none_iff.mp hearlier)

end

/-! ## Words of letters and digits -/

/-- No digit and no mask for digits stands in the ends of double plurals. -/
theorem isUnmasked_doubles : isUnmasked "oxen".toList = true ∧ isUnmasked "alias".toList = true ∧
    (∀ e ∈ bareEndings, isUnmasked (e.toList ++ ['s']) = true) ∧
    ∀ w ∈ bareWords, isUnmasked (w.toList ++ ['s']) = true := by
  decide

/-- Digits make no difference to whether a word is a double plural. -/
theorem isDoublePlural_map_masked_iff {word : List Char} :
    IsDoublePlural (word.map masked) ↔ IsDoublePlural word := by
  obtain ⟨-, halias, hendings, hwords⟩ := isUnmasked_doubles
  unfold IsDoublePlural
  rw [suffix_map_masked_iff halias]
  refine or_congr (and_congr_left fun _ => ?_) ?_
  · exact exists_congr fun e => and_congr_right fun he => suffix_map_masked_iff (hendings e he)
  · exact exists_congr fun w => and_congr_right fun hw => map_masked_eq_iff (hwords w hw)

/-- **The singular is reached in one step**, unless the word is a double plural. -/
theorem singular_singular_iff {word : List Char} (hword : ∀ c ∈ word, isWordPart c = true)
    (hoxen : ¬ "oxen".toList <+: word) : singular (singular word) = singular word ↔ ¬ IsDoublePlural word := by
  have hlower : ∀ c ∈ word.map masked, isLower c = true := by
    intro c hc
    obtain ⟨d, hd, rfl⟩ := List.mem_map.mp hc
    exact isLower_masked (hword d hd)
  have hoxen' : ¬ "oxen".toList <+: word.map masked := by
    rwa [prefix_map_masked_iff isUnmasked_doubles.1]
  have hparts : ∀ c ∈ singular word, isWordPart c = true := by
    intro c hc
    rcases mem_singular hc with hc | hc
    · exact hword c hc
    · exact isWordPart_iff.mpr (Or.inl hc)
  -- the singular of the singular of the word in which the digits are masked
  have hfirst := singular_map_masked hword
  have hsecond := singular_map_masked hparts
  constructor
  · intro h hdouble
    refine singular_singular_ne hlower hoxen' (isDoublePlural_map_masked_iff.mpr hdouble) ?_
    rw [hfirst, hsecond, h]
  · intro hdouble
    refine singular_eq_self_of_masked ?_
    rw [← hsecond, ← hfirst]
    exact singular_singular_of_not_double hlower hoxen' fun h => hdouble (isDoublePlural_map_masked_iff.mp h)

end RecordGate.Name
