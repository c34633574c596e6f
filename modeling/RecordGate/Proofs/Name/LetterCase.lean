import Mathlib.Data.List.Find
import RecordGate.Proofs.Name.Renaming

/-!
# `RecordGate.Proofs.Name.LetterCase` — the case of a word does not decide its singular

A singular keeps the case of the letters that stay and has lower case for those that are written, so words that differ
in case have singulars that differ in case. They differ in nothing else (`ignoresCase_singular`): the same rule decides,
and what it makes of the one word is what it makes of the other.

Lower case is a change that no rule notices (`unnoticed_lower`). It matters for this that patterns are read by folding,
which sees no difference between a letter and its lower case, also where it lets letters beyond ASCII stand for others
and where a pattern says which letters may not stand somewhere.
-/

namespace RecordGate.Name

open Text

/-! ## The rule that decides -/

/-- The rule that decides the singular of a word: the first one that applies, unless the word is uncountable. -/
def decidingRule? (word : List Char) : Option Rule :=
  if isUncountable word then none else rules.find? fun r => (r.applied? word).isSome

/-- The first success is that of the first one to succeed. -/
theorem findSome?_eq_bind_find? {α β : Type} (f : α → Option β) (xs : List α) :
    xs.findSome? f = (xs.find? fun x => (f x).isSome).bind f := by
  induction xs with
  | nil => rfl
  | cons x xs ih =>
    cases hx : f x with
    | some y => simp [hx]
    | none => simp [hx, ih]

/-- **The singular is what the deciding rule makes of the word.** If there is no such rule, or if it would leave
    nothing, it is the word itself. -/
theorem singular_eq_of_decidingRule? (word : List Char) :
    singular word = (((decidingRule? word).bind (·.applied? word)).filter (!·.isEmpty)).getD word := by
  unfold singular decidingRule?
  rw [findSome?_eq_bind_find?]
  split
  · rfl
  · -- what is made of the word may be nothing, an empty word, or another word
    cases (rules.find? fun r => (r.applied? word).isSome).bind (·.applied? word) with
    | none => rfl
    | some out =>
      cases out with
      | nil => rfl
      | cons c cs => rfl

/-- **A change that is not noticed** leaves it to the same rule to decide. -/
theorem decidingRule?_map {φ : Char → Char} {word : List Char} (h : Unnoticed φ word) :
    decidingRule? (word.map φ) = decidingRule? word := by
  have happlied : ∀ r ∈ rules, (r.applied? (word.map φ)).isSome = (r.applied? word).isSome := by
    intro r hr
    rw [applied?_map (h.same r hr) (h.additions r hr), Option.isSome_map]
  unfold decidingRule?
  rw [h.uncountable, List.find?_congr happlied]

/-! ## Lower case -/

/-- **No rule notices the case of ASCII letters.** -/
theorem unnoticed_lower (word : List Char) : Unnoticed lower word where
  same := by
    intro r _ l _ c _
    rw [sameLetter, sameLetter, fold_lower]
  additions := by
    intro r hr c hc
    exact lower_of_not_isUpper (not_isUpper_of_isLower (isLower_of_mem_additions r hr c hc))
  uncountable := by
    have htwice : (word.map lower).map lower = word.map lower := by
      rw [List.map_map]
      exact List.map_congr_left fun c _ => lower_lower c
    unfold isUncountable
    rw [htwice]

theorem lowered_toList (s : String) : (lowered s).toList = s.toList.map lower :=
  String.toList_ofList

/-- Lower case may come before the singular or after it. -/
theorem singularOf_lowered (w : String) : singularOf (lowered w) = lowered (singularOf w) := by
  unfold singularOf lowered
  rw [String.toList_ofList, String.toList_ofList, singular_map (unnoticed_lower w.toList)]

/-- The same rule decides for a word and for the word in lower case. -/
theorem decidingRule?_lowered (w : String) : decidingRule? (lowered w).toList = decidingRule? w.toList := by
  rw [lowered_toList]
  exact decidingRule?_map (unnoticed_lower w.toList)

/-- **The case of a word does not matter for its singular**, but for the case of the letters that stay. -/
structure IgnoresCase (w : String) : Prop where
  /-- The word in lower case has the singular in lower case. -/
  equivariant : singularOf (lowered w) = lowered (singularOf w)
  /-- A word that differs in case only is decided by the same rule. -/
  rule : ∀ v : String, lowered v = lowered w → decidingRule? v.toList = decidingRule? w.toList
  /-- Its singular differs in case only. -/
  result : ∀ v : String, lowered v = lowered w → lowered (singularOf v) = lowered (singularOf w)
  /-- The rule that decides is the one that the singular is made by. -/
  decided : (singularOf w).toList =
    (((decidingRule? w.toList).bind (·.applied? w.toList)).filter (!·.isEmpty)).getD w.toList

/-- **Singulars are formed without regard to case**, whatever the word. -/
theorem ignoresCase_singular (w : String) : IgnoresCase w where
  equivariant := singularOf_lowered w
  rule := by
    intro v h
    calc decidingRule? v.toList = decidingRule? (lowered v).toList := (decidingRule?_lowered v).symm
      _ = decidingRule? (lowered w).toList := by rw [h]
      _ = decidingRule? w.toList := decidingRule?_lowered w
  result := by
    intro v h
    calc lowered (singularOf v) = singularOf (lowered v) := (singularOf_lowered v).symm
      _ = singularOf (lowered w) := by rw [h]
      _ = lowered (singularOf w) := singularOf_lowered w
  decided := by
    unfold singularOf
    rw [String.toList_ofList]
    exact singular_eq_of_decidingRule? w.toList

example : ["MaTRICES", "LaDies", "BU\u017fES", "FISH"].map singularOf = ["MaTRix", "LaDy", "BU\u017f", "FISH"] := by
  decide +kernel

end RecordGate.Name
