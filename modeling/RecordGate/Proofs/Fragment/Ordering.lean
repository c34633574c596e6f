import Mathlib.Data.Bool.AllAny
import RecordGate.Fragment.Ordering
import RecordGate.Proofs.Text.Character
import RecordGate.Proofs.Text.Trim

/-!
# `RecordGate.Proofs.Fragment.Ordering` — the characters of an ordering

An ordering consists of the characters of a list of columns. The letters of a direction are compared up to case,
and up to case `ſ` (U+017F) is an `s`: so a direction may bring in this one character, as the last but one of the
text, and nothing else is accepted that a list of columns does not accept already (`isOrdering_iff`). Nothing in an
ordering has a meaning inside a literal (`not_mem_of_ordering`).
-/

namespace RecordGate.Fragment

open Text

/-- Orderings may have letters in them. -/
theorem isOrderChar_of_isLetter {c : Char} (h : isLetter c = true) : isOrderChar c = true := by
  simp [isOrderChar, isAlphanumeric, h]

/-- Orderings may have white space of any kind in them. -/
theorem isOrderChar_of_isBlank {c : Char} (h : isBlank c = true) : isOrderChar c = true := by
  simp [isOrderChar, h]

/-! ## Directions -/

/-- The directions whose `s` is written `ſ`, in lower case. -/
def longDirections : List String :=
  ["a\u017fc", "de\u017fc"]

/-- What folds to a lower-case letter other than `k` is that letter in either case, or `ſ` for an `s`. -/
theorem letter_of_fold_eq {c l : Char} (hl : isLower l = true) (hk : l ≠ 'k') (h : fold c = l) :
    isLetter c = true ∧ lower c = l ∨ c = '\u017f' ∧ l = 's' := by
  rcases isLetter_of_isLower_fold (h ▸ hl) with hc | hc | hc
  · exact Or.inl ⟨hc, (fold_of_isLetter hc).symm.trans h⟩
  · obtain rfl : c = '\u017f' := Char.toNat_inj.mp hc
    exact Or.inr ⟨rfl, h.symm⟩
  · exact absurd (h.symm.trans (fold_of_toNat_eq_kelvin hc)) hk

/-- What is folded to letters other than `k` and `s` is these letters up to ASCII case, since only those two are folded
    from letters beyond ASCII. -/
theorem letters_of_map_fold_eq {cs w : List Char} (hw : ∀ l ∈ w, isLower l = true ∧ l ≠ 'k' ∧ l ≠ 's')
    (h : cs.map fold = w) : (∀ c ∈ cs, isLetter c = true) ∧ cs.map lower = w := by
  have hletter : ∀ c ∈ cs, isLetter c = true ∧ lower c = fold c := by
    intro c hc
    obtain ⟨hl, hk, hs⟩ := hw (fold c) (h ▸ List.mem_map_of_mem hc)
    exact (letter_of_fold_eq hl hk rfl).resolve_right fun hlong => hs hlong.2
  refine ⟨fun c hc => (hletter c hc).1, ?_⟩
  rw [← h]
  exact List.map_congr_left fun c hc => (hletter c hc).2

/-- A direction has one `s`, and no `k`. -/
theorem exists_of_mem_directions : ∀ d ∈ directions, ∃ a b, d.toList = a ++ 's' :: b ∧
    (∀ l ∈ a ++ b, isLower l = true ∧ l ≠ 'k' ∧ l ≠ 's') ∧ String.ofList (a ++ '\u017f' :: b) ∈ longDirections := by
  intro d hd
  simp only [directions, List.mem_cons, List.not_mem_nil, or_false] at hd
  rcases hd with rfl | rfl
  · exact ⟨['a'], ['c'], by decide, List.all_iff_forall_prop.mp (by decide), by decide⟩
  · exact ⟨['d', 'e'], ['c'], by decide, List.all_iff_forall_prop.mp (by decide), by decide⟩

/-- **What is read as a direction**: its letters, or the direction with `ſ` for its `s`. -/
theorem direction_cases {d : String} (hd : d ∈ directions) {cs : List Char} (h : cs.map fold = d.toList) :
    (∀ c ∈ cs, isLetter c = true) ∨ String.ofList (cs.map lower) ∈ longDirections := by
  obtain ⟨a, b, hab, hletters, hlong⟩ := exists_of_mem_directions d hd
  rw [hab] at h
  obtain ⟨front, back, rfl, hfront, hback⟩ := List.map_eq_append_iff.mp h
  obtain ⟨s, back, rfl, hs, hback⟩ := List.map_eq_cons_iff.mp hback
  obtain ⟨hfront, hfrontLower⟩ :=
    letters_of_map_fold_eq (fun l hl => hletters l (List.mem_append_left b hl)) hfront
  obtain ⟨hback, hbackLower⟩ :=
    letters_of_map_fold_eq (fun l hl => hletters l (List.mem_append_right a hl)) hback
  rcases letter_of_fold_eq (by decide) (by decide) hs with ⟨hs, -⟩ | ⟨rfl, -⟩
  · left
    intro c hc
    rcases List.mem_append.mp hc with hc | hc
    · exact hfront c hc
    · exact (List.mem_cons.mp hc).elim (fun he => he ▸ hs) (hback c)
  · right
    rw [List.map_append, List.map_cons, hfrontLower, hbackLower]
    exact hlong

/-- A direction with `ſ` is read as a direction. -/
theorem exists_direction {cs : List Char} (h : String.ofList (cs.map lower) ∈ longDirections) :
    ∃ d ∈ directions, cs.map fold = d.toList := by
  have hfold : cs.map fold = (cs.map lower).map fold := by
    rw [List.map_map]
    exact List.map_congr_left fun c _ => (fold_lower c).symm
  have hall : ∀ l ∈ longDirections, ∃ d ∈ directions, l.toList.map fold = d.toList := by decide
  obtain ⟨d, hd, hl⟩ := hall _ h
  rw [String.toList_ofList, ← hfold] at hl
  exact ⟨d, hd, hl⟩

/-- **When a text ends with a direction**, behind a list of columns and white space. -/
theorem hasDirection_iff {cs : List Char} {d : String} :
    hasDirection cs d = true ↔ ∃ columns blank direction, cs = columns ++ blank :: direction ∧ columns ≠ [] ∧
      (∀ c ∈ columns, isOrderChar c = true) ∧ isBlank blank = true ∧ direction.map fold = d.toList := by
  constructor
  · intro h
    simp only [hasDirection, Bool.and_eq_true, beq_iff_eq, decide_eq_true_eq, List.all_eq_true,
      Option.any_eq_true] at h
    obtain ⟨⟨⟨hword, hlength⟩, hcolumns⟩, blank, hlast, hblank⟩ := h
    obtain ⟨direction, hdirection, hfold⟩ := afterWord?_eq_some_iff.mp hword
    obtain ⟨columns, hinit⟩ := List.getLast?_eq_some_iff.mp hlast
    rw [List.append_nil] at hdirection
    rw [hinit] at hlength hcolumns
    refine ⟨columns, blank, direction, ?_, ?_, ?_, hblank, hfold⟩
    · rw [← hdirection, List.append_cons, ← hinit, List.take_append_drop]
    · rintro rfl
      exact absurd hlength (by simp)
    · exact fun c hc => hcolumns c (List.mem_append_left _ hc)
  · rintro ⟨columns, blank, direction, rfl, hne, hcolumns, hblank, hfold⟩
    -- the direction is as long as its name, so the text is cut right behind the white space
    have hd : d.length = direction.length := by
      rw [← String.length_toList, ← hfold, List.length_map]
    have hcut : (columns ++ blank :: direction).length - d.length = (columns ++ [blank]).length := by
      simp only [List.length_append, List.length_cons, List.length_nil]
      omega
    have hword : afterWord? d.toList direction = some [] :=
      afterWord?_eq_some_iff.mpr ⟨direction, (List.append_nil _).symm, hfold⟩
    have hpos : 0 < columns.length := List.length_pos_iff.mpr hne
    unfold hasDirection
    rw [hcut, List.append_cons columns blank direction, List.take_left, List.drop_left]
    simp only [hword, Bool.and_eq_true, beq_self_eq_true, true_and, decide_eq_true_eq, List.all_eq_true,
      List.getLast?_concat, Option.any_some, List.length_append, List.length_cons, List.length_nil]
    refine ⟨⟨by omega, ?_⟩, hblank⟩
    intro c hc
    rcases List.mem_append.mp hc with hc | hc
    · exact hcolumns c hc
    · exact List.mem_singleton.mp hc ▸ isOrderChar_of_isBlank hblank

/-! ## Orderings -/

/-- What may stand in an ordering. -/
inductive IsOrderText (cs : List Char) : Prop where
  /-- The characters of a list of columns. -/
  | columns (isOrderChar : ∀ c ∈ cs, isOrderChar c = true)
  /-- A direction with `ſ` for its `s`, behind a list of columns and white space. -/
  | longDirection (columns direction : List Char) (blank : Char) (eq : cs = columns ++ blank :: direction)
      (ne_nil : columns ≠ []) (isOrderChar : ∀ c ∈ columns, isOrderChar c = true) (isBlank : isBlank blank = true)
      (mem : String.ofList (direction.map lower) ∈ longDirections)

/-- **A direction adds nothing to what a list of columns may be**, except the letter `ſ`. -/
theorem isOrdering_iff {cs : List Char} : isOrdering cs = true ↔ cs ≠ [] ∧ IsOrderText cs := by
  simp only [isOrdering, Bool.or_eq_true, Bool.and_eq_true, Bool.not_eq_true', List.isEmpty_eq_false_iff,
    List.all_eq_true, List.any_eq_true, hasDirection_iff]
  constructor
  · rintro (⟨hne, hall⟩ | ⟨d, hd, columns, blank, direction, rfl, hne, hcolumns, hblank, hfold⟩)
    · exact ⟨hne, .columns hall⟩
    · refine ⟨by simp, ?_⟩
      rcases direction_cases hd hfold with hletters | hlong
      · refine .columns fun c hc => ?_
        rcases List.mem_append.mp hc with hc | hc
        · exact hcolumns c hc
        · rcases List.mem_cons.mp hc with rfl | hc
          · exact isOrderChar_of_isBlank hblank
          · exact isOrderChar_of_isLetter (hletters c hc)
      · exact .longDirection columns direction blank rfl hne hcolumns hblank hlong
  · rintro ⟨hne, h⟩
    cases h with
    | columns hall => exact Or.inl ⟨hne, hall⟩
    | longDirection columns direction blank heq hcols hcolumns hblank hlong =>
      obtain ⟨d, hd, hfold⟩ := exists_direction hlong
      exact Or.inr ⟨d, hd, columns, blank, direction, heq, hcols, hcolumns, hblank, hfold⟩

/-- **What an accepted ordering is**: the trimmed text, of which something is left. -/
theorem ordering?_eq_some_iff {s o : String} :
    ordering? s = some o ↔ isOrdering s.toList = true ∧ isBlankText s = false ∧ o = trimmed s := by
  simp only [ordering?, Option.ite_none_right_eq_some, Bool.and_eq_true, Bool.not_eq_true', Option.some.injEq,
    and_assoc, @eq_comm _ (trimmed s)]

/-- A long direction has one character at most that is not allowed in an ordering, the long s. -/
theorem isOrderChar_of_longDirection {cs : List Char} (h : String.ofList (cs.map lower) ∈ longDirections) :
    ∀ c ∈ cs, isOrderChar c = true ∨ c.toNat = 0x17F := by
  have hall : longDirections.all (fun d => d.toList.all fun l => isLower l || l == '\u017f') = true := by decide
  intro c hc
  have hmem : lower c ∈ (String.ofList (cs.map lower)).toList := by
    rw [String.toList_ofList]
    exact List.mem_map_of_mem hc
  cases hu : isUpper c with
  | true => exact Or.inl (isOrderChar_of_isLetter (isLetter_iff.mpr (Or.inr hu)))
  | false =>
    rw [lower_of_not_isUpper hu] at hmem
    have hc := List.all_eq_true.mp (List.all_eq_true.mp hall _ h) c hmem
    rw [Bool.or_eq_true, beq_iff_eq] at hc
    rcases hc with hl | rfl
    · exact Or.inl (isOrderChar_of_isLetter (isLetter_iff.mpr (Or.inl hl)))
    · exact Or.inr rfl

/-- **The characters of an ordering** are those of a list of columns, and `ſ`. -/
theorem isOrderChar_of_mem_ordering {s o : String} (h : ordering? s = some o) :
    ∀ c ∈ o.toList, isOrderChar c = true ∨ c.toNat = 0x17F := by
  obtain ⟨hord, -, rfl⟩ := ordering?_eq_some_iff.mp h
  intro c hc
  rw [trimmed_toList] at hc
  have hc := mem_of_mem_trim hc
  cases (isOrdering_iff.mp hord).2 with
  | columns hall => exact Or.inl (hall c hc)
  | longDirection columns direction blank heq hcols hcolumns hblank hlong =>
    rw [heq] at hc
    rcases List.mem_append.mp hc with hc | hc
    · exact Or.inl (hcolumns c hc)
    · rcases List.mem_cons.mp hc with rfl | hc
      · exact Or.inl (isOrderChar_of_isBlank hblank)
      · exact isOrderChar_of_longDirection hlong c hc

/-- **An ordering has no backslash and no NUL.** -/
theorem not_mem_of_ordering {s o : String} (h : ordering? s = some o) : '\\' ∉ o.toList ∧ '\x00' ∉ o.toList := by
  constructor
  · intro hmem
    exact absurd (isOrderChar_of_mem_ordering h _ hmem) (by decide)
  · intro hmem
    exact absurd (isOrderChar_of_mem_ordering h _ hmem) (by decide)

/-- **Which orderings are accepted, and as what**: the texts of the two kinds that are not blank, without the
    white space around them. -/
theorem ordering?_eq_some_iff_isOrderText {s o : String} :
    ordering? s = some o ↔ IsOrderText s.toList ∧ (∃ c ∈ s.toList, isBlank c = false) ∧ o = trimmed s := by
  rw [ordering?_eq_some_iff, isOrdering_iff, isBlankText_eq_false_iff]
  constructor
  · rintro ⟨⟨-, htext⟩, hblank, ho⟩
    exact ⟨htext, hblank, ho⟩
  · rintro ⟨htext, ⟨c, hc, hblank⟩, ho⟩
    exact ⟨⟨List.ne_nil_of_mem hc, htext⟩, ⟨c, hc, hblank⟩, ho⟩

/-- An ordering need not keep to the characters of a list of columns. -/
theorem ordering?_not_confined : ¬ ∀ s o : String, ordering? s = some o ↔
    (∀ c ∈ s.toList, isOrderChar c = true) ∧ (∃ c ∈ s.toList, isBlank c = false) ∧ o = trimmed s := by
  intro h
  have haccepted : ordering? "name de\u017fc" = some "name de\u017fc" := by decide +kernel
  have hlong : isOrderChar '\u017f' = true := ((h _ _).mp haccepted).1 _ (by decide)
  exact absurd hlong (by decide)

end RecordGate.Fragment
