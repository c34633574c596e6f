import RecordGate.Proofs.Name.DoublePlural
import RecordGate.Proofs.Name.Separation

/-!
# `RecordGate.Proofs.Name.Recovered` — which constants name their own entity

A constant is a name of a collection itself, and is read like any other: its words are told apart, the last one is put
into the singular, and the words are joined again. The constant comes back exactly when its words can be told apart and
the last one is its own singular (`entity_eq_self_iff`), since letters are lost or changed otherwise.

If the constant is the entity of a collection, its last word is the singular of that of the collection
(`lastWord_entity`), where words can be told apart. So given the first condition, the second one is about double plurals
(`singular_lastWord_entity_iff`).
-/

namespace RecordGate.Name

open Text

/-- The last word of a name. -/
def lastWord (cs : List Char) : List Char :=
  (splitLast (snake cs)).2

/-- What is before the last word of a name. -/
def firstWords (cs : List Char) : List Char :=
  (splitLast (snake cs)).1

section

variable {cs : List Char}

/-- The entity is joined from the words before the last one and the singular of that. -/
theorem entity_eq (h : isCollection cs = true) :
    entity cs = camel (firstWords cs) ++ camel (singular (lastWord cs)) := by
  unfold entity firstWords lastWord
  rw [trim_of_isNamePart (isNamePart_of_isCollection h)]

/-- The last word stands behind an underscore, or it is the only one. -/
theorem snake_eq_or (cs : List Char) :
    snake cs = firstWords cs ++ '_' :: lastWord cs ∨ firstWords cs = [] ∧ snake cs = lastWord cs :=
  (splitLast_cases (snake cs)).2

/-- The words before the last one are in snake case. -/
theorem isSnakePart_of_mem_firstWords (h : isCollection cs = true) : ∀ c ∈ firstWords cs, isSnakePart c = true := by
  intro c hc
  have hsnake : ∀ d ∈ snake cs, isSnakePart d = true := isSnakePart_of_mem_snakeFrom (isNamePart_of_isCollection h)
  rcases snake_eq_or cs with heq | ⟨hnil, -⟩
  · exact hsnake c (heq ▸ List.mem_append_left _ hc)
  · rw [hnil] at hc
    exact absurd hc List.not_mem_nil

/-- There is no underscore in the last word. -/
theorem isWordPart_of_mem_lastWord (h : isCollection cs = true) : ∀ c ∈ lastWord cs, isWordPart c = true := by
  intro c hc
  have hsnake : ∀ d ∈ snake cs, isSnakePart d = true := isSnakePart_of_mem_snakeFrom (isNamePart_of_isCollection h)
  have hmem : c ∈ snake cs := by
    rcases snake_eq_or cs with heq | ⟨-, heq⟩
    · rw [heq]
      exact List.mem_append_right _ (List.mem_cons_of_mem _ hc)
    · rw [heq]
      exact hc
  refine (isSnakePart_iff_isWordPart.mp (hsnake c hmem)).resolve_right ?_
  rintro rfl
  exact (splitLast_cases (snake cs)).1 hc

/-- The singular of a word is a word. -/
theorem isWordPart_of_mem_singular {word : List Char} (h : ∀ c ∈ word, isWordPart c = true) :
    ∀ c ∈ singular word, isWordPart c = true := by
  intro c hc
  rcases mem_singular hc with hc | hc
  · exact h c hc
  · exact isWordPart_iff.mpr (Or.inl hc)

/-! ## Constants that come back -/

/-- The letters of a name, without their case and without underscores. -/
theorem map_lower_camel {ws : List Char} (h : ∀ c ∈ ws, isSnakePart c = true) :
    (camel ws).map lower = ws.filter (· != '_') := by
  have hlower : ∀ c ∈ ws.filter (· != '_'), lower c = c := fun c hc =>
    lower_of_not_isUpper (not_isUpper_of_isSnakePart (h c (List.mem_filter.mp hc).1))
  unfold camel
  rw [map_lower_camelFrom, List.map_congr_left hlower, List.map_id']

/-- There is no underscore to drop from a word. -/
theorem filter_of_isWordPart {word : List Char} (h : ∀ c ∈ word, isWordPart c = true) :
    word.filter (· != '_') = word :=
  List.filter_eq_self.mpr fun c hc => bne_iff_ne.mpr (ne_underscore_of_isWordPart (h c hc))

/-- **A constant names its own entity** when its words can be told apart and the last one is its own singular. -/
theorem entity_eq_self_iff (h : isConstant cs = true) :
    entity cs = cs ↔ isLegible cs = true ∧ singular (lastWord cs) = lastWord cs := by
  have hcollection := isCollection_of_isConstant h
  have hlast := isWordPart_of_mem_lastWord hcollection
  have hjoined : camel (firstWords cs) ++ camel (lastWord cs) = camel (snake cs) := camel_splitLast (snake cs)
  rw [← camel_snake_eq_self_iff h, entity_eq hcollection]
  constructor
  · intro heq
    -- without case and underscores only the last word may have changed
    have hleft : (camel (firstWords cs) ++ camel (singular (lastWord cs))).map lower =
        (firstWords cs).filter (· != '_') ++ singular (lastWord cs) := by
      have hparts := isWordPart_of_mem_singular hlast
      rw [List.map_append, map_lower_camel (isSnakePart_of_mem_firstWords hcollection),
        map_lower_camel fun c hc => isSnakePart_of_isWordPart (hparts c hc), filter_of_isWordPart hparts]
    have hright : cs.map lower = (firstWords cs).filter (· != '_') ++ lastWord cs := by
      have hfilter : (snake cs).filter (· != '_') = cs.map lower :=
        filter_snake_of_isAlphanumeric (isAlphanumeric_of_isConstant h)
      rw [← hfilter]
      rcases snake_eq_or cs with hs | ⟨hnil, hs⟩
      · rw [hs, List.filter_append, List.filter_cons_of_neg (by decide), filter_of_isWordPart hlast]
      · rw [hs, hnil, filter_of_isWordPart hlast]
        rfl
    have hsingular : singular (lastWord cs) = lastWord cs := by
      rw [heq, hright] at hleft
      exact (List.append_cancel_left hleft).symm
    rw [hsingular, hjoined] at heq
    exact ⟨heq, hsingular⟩
  · rintro ⟨hlegible, hsingular⟩
    rw [hsingular, hjoined, hlegible]

/-! ## Entities of collections -/

/-- **The last word of an entity** is the singular of the last word of its collection, where words can be told apart. -/
theorem lastWord_entity (h : isCollection cs = true) (hletter : (lastWord cs).head?.any isLower = true)
    (hlegible : isLegible (entity cs) = true) : lastWord (entity cs) = singular (lastWord cs) := by
  have hparts := isWordPart_of_mem_singular (isWordPart_of_mem_lastWord h)
  obtain ⟨c, hhead, hc⟩ := Option.any_eq_true _ _ |>.mp hletter
  rw [← head?_singular] at hhead
  obtain ⟨rest, hrest⟩ := List.head?_eq_some_iff.mp hhead
  rw [hrest] at hparts ⊢
  have htail : ∀ d ∈ rest, isWordPart d = true := fun d hd => hparts d (List.mem_cons_of_mem c hd)
  have hentity : entity cs = camel (firstWords cs) ++ upper c :: rest := by
    rw [entity_eq h, hrest, camel_cons (hparts c List.mem_cons_self) htail]
  have hread : ∀ before, snakeFrom before rest = rest := fun before =>
    snakeFrom_eq_self fun d hd => snakeChar_eq_self (isSnakePart_of_isWordPart (htail d hd))
  have hword : '_' ∉ c :: rest := underscore_not_mem_of_isWordPart hparts
  have halnum := isAlphanumeric_of_isConstant (isConstant_entity h)
  rw [hentity] at hlegible halnum ⊢
  unfold lastWord
  rcases List.eq_nil_or_concat (camel (firstWords cs)) with hnil | ⟨as, b, hcamel⟩
  · -- there is one word only
    rw [hnil, List.nil_append, snake_cons, snakeChar_upper hc, hread, splitLast_of_not_mem hword]
  · -- the word starts behind `b`, since it could not be told apart otherwise
    rw [hcamel, List.concat_eq_append, List.append_assoc, List.singleton_append] at hlegible halnum ⊢
    have hafter := (isLegible_cons_cons_iff.mp (isLegible_of_append hlegible)).1
    have hbound : isBoundary (some b) (upper c) rest.head? = true :=
      (isBoundary_iff (halnum b (by simp))).mpr ⟨isUpper_upper hc, fun hb => hafter hb (isUpper_upper hc)⟩
    obtain ⟨u, hu⟩ := exists_snakeFrom_append none as b (upper c :: rest)
    have hsnake : snake (as ++ b :: upper c :: rest) = u ++ '_' :: c :: rest := by
      unfold snake
      rw [hu, snakeFrom_cons_of_isBoundary hbound, snakeChar_upper hc, hread]
    rw [hsnake, splitLast_append hword]

/-- **The last word of an entity is its own singular**, where words can be told apart, unless that of the collection is a
    double plural. -/
theorem singular_lastWord_entity_iff (h : isCollection cs = true) (hletter : (lastWord cs).head?.any isLower = true)
    (hoxen : ¬ "oxen".toList <+: lastWord cs) (hlegible : isLegible (entity cs) = true) :
    singular (lastWord (entity cs)) = lastWord (entity cs) ↔ ¬ IsDoublePlural (lastWord cs) := by
  rw [lastWord_entity h hletter hlegible, singular_singular_iff (isWordPart_of_mem_lastWord h) hoxen]

/-- **An entity names itself** when its words can be told apart, unless the collection is named by a double plural. -/
theorem entity_entity_iff (h : isCollection cs = true) (hletter : (lastWord cs).head?.any isLower = true)
    (hoxen : ¬ "oxen".toList <+: lastWord cs) :
    entity (entity cs) = entity cs ↔ isLegible (entity cs) = true ∧ ¬ IsDoublePlural (lastWord cs) := by
  rw [entity_eq_self_iff (isConstant_entity h)]
  exact and_congr_right fun hlegible => singular_lastWord_entity_iff h hletter hoxen hlegible

end

end RecordGate.Name
