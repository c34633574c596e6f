import RecordGate.Proofs.Name.Constant
import RecordGate.Proofs.Name.Outline

/-!
# `RecordGate.Proofs.Name.Plural` — regular plurals and their singulars

English forms the regular plural of a noun in one of three ways, by how the noun ends (`Declension`). For all nouns
but a few exceptions, which are listed here as endings and words, the rules undo the plural, and they leave the
singular alone (`inflects_of_isRegular`). So a collection named in the plural and one named in the singular have the
same entity.

A noun is an arbitrary word in front of one of finitely many endings. For each ending the rules are gone through on
the outline of the plural and on that of the singular.
-/

namespace RecordGate.Name

open Text

/-! ## Declensions -/

/-- The ways to form the plural of a noun. -/
inductive Declension where
  /-- `category`, `categories`. -/
  | ies
  /-- `box`, `boxes`. -/
  | es
  /-- `user`, `users`. -/
  | s
  deriving DecidableEq

/-- What the plural leaves out at the end of the noun. -/
def Declension.dropped : Declension → String
  | .ies => "y"
  | .es => ""
  | .s => ""

/-- What the plural adds. -/
def Declension.added : Declension → String
  | .ies => "ies"
  | .es => "es"
  | .s => "s"

/-- The letters behind which a `y` stays. -/
def vowels : List Char := ['a', 'e', 'i', 'o', 'u', 'y']

/-- The ends of nouns that add `es`. -/
def sibilants : List String := ["x", "ch", "sh", "ss"]

/-- The last letters of nouns that do not just add an `s`. -/
def uncertain : List Char := ['a', 'e', 'i', 'o', 'u', 's']

/-- Whether the noun ends as those of the declension do. -/
def Declension.takes (noun : List Char) : Declension → Bool
  | .ies => "quy".toList.isSuffixOf noun ||
      (noun.getLast? == some 'y' && noun.dropLast.getLast?.any fun c => !vowels.contains c)
  | .es => sibilants.any fun e => e.toList.isSuffixOf noun
  | .s => noun.getLast?.any fun c => !uncertain.contains c

/-- The declension of a noun: the first one that takes it. -/
def declension? (noun : List Char) : Option Declension :=
  [.ies, .es, .s].find? (Declension.takes noun)

/-- The plural of a noun. -/
def Declension.plural (d : Declension) (noun : List Char) : List Char :=
  noun.take (noun.length - d.dropped.length) ++ d.added.toList

/-- The plural of a noun. -/
def Declension.pluralOf (d : Declension) (noun : String) : String :=
  String.ofList (d.plural noun.toList)

example : ["soliloquy", "tax", "day", "y"].map (fun w => (declension? w.toList).map (·.pluralOf w)) =
    [some "soliloquies", some "taxes", some "days", some "ys"] := by
  decide +kernel

/-! ## Regular nouns -/

/-- Endings of nouns whose plural is that of another noun: `movies` belongs to `movie`. -/
def Declension.exceptEndings : Declension → List String
  | .ies => ["zomby", "movy", "sery"]
  | .es => []
  | .s => ["new"]

/-- Nouns whose plural is that of another noun: `axes` belongs to `axis`. -/
def Declension.exceptNouns : Declension → List String
  | .ies => ["specy"]
  | .es => ["ax"]
  | .s => ["jean"]

/-- A noun of the declension that is no exception to the rules. -/
structure IsRegular (d : Declension) (noun : List Char) : Prop where
  isLower : ∀ c ∈ noun, isLower c = true
  declension : declension? noun = some d
  notOxen : ¬ "oxen".toList <+: noun
  exceptEndings : ∀ x ∈ d.exceptEndings, ¬ x.toList <:+ noun
  exceptNouns : ∀ x ∈ d.exceptNouns, noun ≠ x.toList

/-- A declension drops one ending and adds the other. -/
theorem plural_append (d : Declension) (u : List Char) :
    d.plural (u ++ d.dropped.toList) = u ++ d.added.toList := by
  unfold Declension.plural
  rw [List.length_append, String.length_toList, Nat.add_sub_cancel, List.take_left]

section

variable {d : Declension} {a b : List Char}

/-- Ends of plurals are plurals of ends, if the ends have what is dropped. -/
theorem suffix_of_plural_suffix (ha : d.dropped.toList <:+ a) (hb : d.dropped.toList <:+ b)
    (h : d.plural a <:+ d.plural b) : a <:+ b := by
  obtain ⟨u, rfl⟩ := ha
  obtain ⟨v, rfl⟩ := hb
  rw [plural_append, plural_append, List.suffix_append_self_iff] at h
  exact List.suffix_append_self_iff.mpr h

/-- So different nouns have different plurals. -/
theorem eq_of_plural_eq (ha : d.dropped.toList <:+ a) (hb : d.dropped.toList <:+ b)
    (h : d.plural a = d.plural b) : a = b := by
  obtain ⟨u, rfl⟩ := ha
  obtain ⟨v, rfl⟩ := hb
  rw [plural_append, plural_append] at h
  rw [List.append_cancel_right h]

/-- What a plural starts with is the noun's, if it ends in a letter that the plural does not add. -/
theorem prefix_of_prefix_append {x u v : List Char} {l : Char} (hl : l ∉ v) (h : x ++ [l] <+: u ++ v) :
    x ++ [l] <+: u := by
  obtain ⟨t, ht⟩ := h
  rcases List.append_eq_append_iff.mp ht with ⟨c, hu, -⟩ | ⟨c, hx, hv⟩
  · exact ⟨c, hu.symm⟩
  · rcases List.eq_nil_or_concat c with rfl | ⟨c, m, rfl⟩
    · rw [List.append_nil] at hx
      exact hx ▸ List.prefix_rfl
    · -- otherwise the last letter stands in what is added
      rw [List.concat_eq_append, ← List.append_assoc] at hx
      obtain rfl := List.singleton_inj.mp (List.append_inj_right' hx rfl)
      exact absurd (by simp [hv]) hl

end

/-- The exceptions of a declension are nouns that it could be applied to. -/
theorem dropped_suffix_of_except (d : Declension) :
    ∀ x ∈ d.exceptEndings ++ d.exceptNouns, d.dropped.toList <:+ x.toList := by
  cases d with
  | ies => decide
  | es => decide
  | s => decide

/-- What is added are lower-case letters, and never an `n`. -/
theorem added_letters (d : Declension) : (∀ c ∈ d.added.toList, isLower c = true) ∧ 'n' ∉ d.added.toList := by
  rw [← List.all_eq_true]
  cases d with
  | ies => decide
  | es => decide
  | s => decide

/-! ## Outlines of nouns -/

/-- The patterns of the declension's nouns at the end, before the part that the plural leaves out. -/
def Declension.endings : Declension → List (List Glyph)
  | .ies => [[.noneOf vowels], spelled "qu"]
  | .es => sibilants.map spelled
  | .s => [[.noneOf uncertain]]

/-- A word ends in none of these letters if its last letter is none of them. -/
theorem endsLike_noneOf {ls : List Char} {u : List Char} {c : Char} (hc : isLower c = true)
    (hls : ls.contains c = false) : endsLike [.noneOf ls] (u ++ [c]) = true := by
  refine endsLike_iff.mpr ⟨u, [c], rfl, likes_cons_iff.mpr ⟨c, [], rfl, ?_, rfl⟩⟩
  simp only [List.contains_eq_any_beq, List.any_eq_false, beq_iff_eq] at hls
  simp only [Glyph.likes, sameLetter, fold_of_isLower hc, Bool.not_eq_true', List.any_eq_false, beq_iff_eq]
  exact hls

/-- The end of a noun is one of its declension's. -/
theorem exists_ending_of_takes {d : Declension} {noun : List Char} (hlower : ∀ c ∈ noun, isLower c = true)
    (h : d.takes noun = true) : ∃ u, ∃ e ∈ d.endings, noun = u ++ d.dropped.toList ∧ endsLike e u = true := by
  cases d with
  | ies =>
    simp only [Declension.takes, Bool.or_eq_true, Bool.and_eq_true, List.isSuffixOf_iff_suffix, beq_iff_eq,
      List.getLast?_eq_some_iff, Option.any_eq_true, Bool.not_eq_true'] at h
    -- `quy` counts as a consonant and `y`
    rcases h with ⟨u, rfl⟩ | ⟨⟨v, rfl⟩, c, hc, hvowel⟩
    · exact ⟨u ++ ['q', 'u'], spelled "qu", by simp [Declension.endings], by simp [Declension.dropped],
        endsLike_iff.mpr ⟨u, ['q', 'u'], rfl, by decide⟩⟩
    · rw [List.dropLast_concat] at hc
      obtain ⟨u, rfl⟩ := hc
      exact ⟨u ++ [c], [.noneOf vowels], List.mem_cons_self, rfl,
        endsLike_noneOf (hlower c (by simp)) hvowel⟩
  | es =>
    simp only [Declension.takes, List.any_eq_true, List.isSuffixOf_iff_suffix] at h
    obtain ⟨e, he, u, rfl⟩ := h
    refine ⟨u ++ e.toList, spelled e, List.mem_map_of_mem he, (List.append_nil _).symm, ?_⟩
    exact (endsLike_append_spelled_iff (k := []) hlower).mpr ⟨u, rfl, endsLike_iff.mpr ⟨u, [], by simp, rfl⟩⟩
  | s =>
    simp only [Declension.takes, Option.any_eq_true, List.getLast?_eq_some_iff, Bool.not_eq_true'] at h
    obtain ⟨c, ⟨u, rfl⟩, hc⟩ := h
    exact ⟨u ++ [c], [.noneOf uncertain], List.mem_cons_self, (List.append_nil _).symm,
      endsLike_noneOf (hlower c (by simp)) hc⟩

/-- A regular noun has one of the endings of its declension in front of what is dropped. -/
theorem IsRegular.exists_ending {d : Declension} {noun : List Char} (h : IsRegular d noun) :
    ∃ u, ∃ e ∈ d.endings, noun = u ++ d.dropped.toList ∧ endsLike e u = true :=
  exists_ending_of_takes h.isLower (List.find?_some h.declension)

/-- The outline of the plurals that end so. -/
def Declension.pluralOutline (d : Declension) (e : List Glyph) : Outline where
  ending := e ++ spelled d.added
  notEnds := d.exceptEndings.map fun x => d.plural x.toList
  notWords := d.exceptNouns.map fun x => d.plural x.toList
  notStarts := ["oxen".toList]

/-- The outline of the nouns that end so, and not like an irregular plural. -/
def Declension.nounOutline (d : Declension) (e : List Glyph) : Outline where
  ending := e ++ spelled d.dropped
  notEnds := ["men".toList, "children".toList]
  notWords := []
  notStarts := ["oxen".toList]

/-- **Going through the rules**, for each end of a noun: its plural is undone, and it is left alone itself. -/
theorem settles_outlines (d : Declension) : ∀ e ∈ d.endings,
    (d.pluralOutline e).settles d.added.toList d.dropped.toList rules = true ∧
      (d.pluralOutline e).isCountable = true ∧ (d.nounOutline e).settles [] [] rules = true := by
  have hall : ∀ d ∈ [Declension.ies, .es, .s], ∀ e ∈ d.endings,
      (d.pluralOutline e).settles d.added.toList d.dropped.toList rules = true ∧
        (d.pluralOutline e).isCountable = true ∧ (d.nounOutline e).settles [] [] rules = true := by
    decide +kernel
  cases d with
  | ies | es | s => exact hall _ (by decide)

section

variable {d : Declension} {noun u : List Char} {e : List Glyph}

/-- The plural of a regular noun has the outline of its ending. -/
theorem fits_pluralOutline (h : IsRegular d noun) (hnoun : noun = u ++ d.dropped.toList)
    (hends : endsLike e u = true) : (d.pluralOutline e).Fits (u ++ d.added.toList) := by
  have hplural : d.plural noun = u ++ d.added.toList := by rw [hnoun, plural_append]
  have hdropped : d.dropped.toList <:+ noun := hnoun ▸ List.suffix_append _ _
  have hlower : ∀ c ∈ u ++ d.added.toList, isLower c = true := by
    intro c hc
    rcases List.mem_append.mp hc with hc | hc
    · exact h.isLower c (hnoun ▸ List.mem_append_left _ hc)
    · exact (added_letters d).1 c hc
  refine ⟨hlower, (endsLike_append_spelled_iff hlower).mpr ⟨u, rfl, hends⟩, ?_, ?_, ?_⟩
  · -- a plural with the ending of an exception belongs to a noun with such an ending
    intro x hx hsuffix
    obtain ⟨y, hy, rfl⟩ := List.mem_map.mp hx
    rw [← hplural] at hsuffix
    refine h.exceptEndings y hy (suffix_of_plural_suffix ?_ hdropped hsuffix)
    exact dropped_suffix_of_except d y (List.mem_append_left _ hy)
  · intro x hx heq
    obtain ⟨y, hy, rfl⟩ := List.mem_map.mp hx
    rw [← hplural] at heq
    refine h.exceptNouns y hy (eq_of_plural_eq hdropped ?_ heq)
    exact dropped_suffix_of_except d y (List.mem_append_right _ hy)
  · intro x hx hprefix
    rw [List.mem_singleton.mp hx] at hprefix
    have hstart : ['o', 'x', 'e'] ++ ['n'] <+: u := prefix_of_prefix_append (added_letters d).2 hprefix
    exact h.notOxen (hnoun ▸ hstart.trans (List.prefix_append _ _))

/-- The plural consists of lower-case letters, as the noun does. -/
theorem isLower_of_mem_plural (h : IsRegular d noun) : ∀ c ∈ d.plural noun, isLower c = true := by
  obtain ⟨u, e, -, hnoun, hends⟩ := h.exists_ending
  have hlower := (fits_pluralOutline h hnoun hends).isLower
  rwa [← plural_append, ← hnoun] at hlower

/-- The noun itself has an outline too, if it is no plural of another kind. -/
theorem fits_nounOutline (h : IsRegular d noun) (hnoun : noun = u ++ d.dropped.toList) (hends : endsLike e u = true)
    (hmen : ¬ "men".toList <:+ noun) (hchildren : ¬ "children".toList <:+ noun) : (d.nounOutline e).Fits noun := by
  refine ⟨h.isLower, (endsLike_append_spelled_iff h.isLower).mpr ⟨u, hnoun, hends⟩, ?_,
    fun x hx => absurd hx List.not_mem_nil, ?_⟩
  · intro x hx
    rcases List.mem_cons.mp hx with rfl | hx
    · exact hmen
    · rw [List.mem_singleton.mp hx]
      exact hchildren
  · intro x hx
    rw [List.mem_singleton.mp hx]
    exact h.notOxen

/-! ## Plurals and singulars -/

/-- A regular noun has letters. -/
theorem IsRegular.ne_nil (h : IsRegular d noun) : noun ≠ [] := by
  rintro rfl
  have hnone : declension? [] = none := by decide
  exact absurd (hnone.symm.trans h.declension) (by simp)

/-- **The rules undo a regular plural.** -/
theorem singular_plural (h : IsRegular d noun) : singular (d.plural noun) = noun := by
  obtain ⟨u, e, he, hnoun, hends⟩ := h.exists_ending
  obtain ⟨hsettles, hcount, -⟩ := settles_outlines d e he
  have hsingular :=
    singular_of_settles (fits_pluralOutline h hnoun hends) hsettles (Or.inl hcount) (hnoun ▸ h.ne_nil)
  rwa [← plural_append, ← hnoun] at hsingular

/-- **The rules leave a regular noun alone.** -/
theorem singular_eq_self (h : IsRegular d noun) (hmen : ¬ "men".toList <:+ noun)
    (hchildren : ¬ "children".toList <:+ noun) : singular noun = noun := by
  obtain ⟨u, e, he, hnoun, hends⟩ := h.exists_ending
  have hfits : (d.nounOutline e).Fits (noun ++ []) := by
    rw [List.append_nil]
    exact fits_nounOutline h hnoun hends hmen hchildren
  obtain ⟨-, -, hsettles⟩ := settles_outlines d e he
  have hsingular := singular_of_settles hfits hsettles (Or.inr rfl) (by simpa using h.ne_nil)
  rwa [List.append_nil] at hsingular

end

/-! ## Entities -/

theorem underscore_not_mem {cs : List Char} (h : ∀ c ∈ cs, isLower c = true) : '_' ∉ cs :=
  fun hmem => absurd (h '_' hmem) (by decide)

/-- The words before the last one are joined as they are, and the last one is put into the singular. -/
theorem entityName_append {head word : String} (hhead : ∀ c ∈ head.toList, isSnakePart c = true)
    (hword : ∀ c ∈ word.toList, isLower c = true) :
    entityName (head ++ "_" ++ word) = camelCase head ++ camelCase (singularOf word) := by
  have hlist : (head ++ "_" ++ word).toList = head.toList ++ '_' :: word.toList := by
    rw [String.toList_append, String.toList_append, List.append_assoc]
    rfl
  unfold entityName camelCase singularOf
  rw [hlist, entity_append hhead (fun c hc => isSnakePart_of_isLower (hword c hc)) (underscore_not_mem hword),
    String.toList_ofList, String.ofList_append]

/-- **The singular of the plural is the noun.** -/
theorem singularOf_pluralOf {d : Declension} {noun : String} (h : IsRegular d noun.toList) :
    singularOf (d.pluralOf noun) = noun := by
  rw [singularOf, Declension.pluralOf, String.toList_ofList, singular_plural h, String.ofList_toList]

/-- **A noun is its own singular**, if it is no plural of another kind. -/
theorem singularOf_eq_self {d : Declension} {noun : String} (h : IsRegular d noun.toList)
    (hmen : ¬ "men".toList <:+ noun.toList) (hchildren : ¬ "children".toList <:+ noun.toList) :
    singularOf noun = noun := by
  rw [singularOf, singular_eq_self h hmen hchildren, String.ofList_toList]

/-- **A regular noun and its plural name the same things.** -/
structure Inflects (d : Declension) (noun : String) : Prop where
  /-- The singular of the plural is the noun. -/
  singularOf_plural : singularOf (d.pluralOf noun) = noun
  /-- A collection named in the plural has the noun's entity, whatever words stand before the noun. -/
  entityName_plural : ∀ head : String, (∀ c ∈ head.toList, isSnakePart c = true) →
    entityName (head ++ "_" ++ d.pluralOf noun) = camelCase head ++ camelCase noun
  /-- The noun is its own singular, unless it ends like an irregular plural. -/
  singularOf_noun : ¬ "men".toList <:+ noun.toList → ¬ "children".toList <:+ noun.toList → singularOf noun = noun
  /-- So a collection named in the singular has the same entity. -/
  entityName_noun : ¬ "men".toList <:+ noun.toList → ¬ "children".toList <:+ noun.toList →
    ∀ head : String, (∀ c ∈ head.toList, isSnakePart c = true) →
      entityName (head ++ "_" ++ noun) = camelCase head ++ camelCase noun

/-- **Regular plurals are undone, and their singulars kept.** -/
theorem inflects_of_isRegular {d : Declension} {noun : String} (h : IsRegular d noun.toList) : Inflects d noun where
  singularOf_plural := singularOf_pluralOf h
  entityName_plural := by
    intro head hhead
    have hlower : ∀ c ∈ (d.pluralOf noun).toList, isLower c = true := by
      rw [Declension.pluralOf, String.toList_ofList]
      exact isLower_of_mem_plural h
    rw [entityName_append hhead hlower, singularOf_pluralOf h]
  singularOf_noun := singularOf_eq_self h
  entityName_noun := by
    intro hmen hchildren head hhead
    rw [entityName_append hhead h.isLower, singularOf_eq_self h hmen hchildren]

theorem inflects_soliloquy : IsRegular .ies "soliloquy".toList ∧ Inflects .ies "soliloquy" := by
  have hregular : IsRegular .ies "soliloquy".toList :=
    { isLower := List.all_eq_true.mp (by decide)
      declension := by decide +kernel
      notOxen := by decide
      exceptEndings := by decide
      exceptNouns := by decide }
  exact ⟨hregular, inflects_of_isRegular hregular⟩

end RecordGate.Name
