import RecordGate.Name.Singular
import RecordGate.Proofs.Text.Character

/-!
# `RecordGate.Proofs.Name.Singular` — what a singular is made of

A rule cuts off the end of a word and writes lower-case letters in its place. Two facts about each kind of rule
carry over to `singular`, whichever rule decides: the characters come from the word or are lower-case letters
(`mem_singular`), and the first character is the word's own (`head?_singular`). Both are stated with what a rule
may add (`Rule.additions`) and with the rules that cannot touch the first character (`Rule.keepsHead`), and the
rules of English are then checked once for each of the two.
-/

namespace RecordGate.Name

open Text

/-! ## Patterns fit words of their own length -/

/-- The empty pattern fits nothing else. -/
theorem likes_nil_iff {cs : List Char} : likes [] cs = true ↔ cs = [] := by
  cases cs with
  | nil => simp [likes]
  | cons c cs => simp [likes]

/-- Patterns fit letter by letter. -/
theorem likes_cons_iff {g : Glyph} {gs : List Glyph} {cs : List Char} :
    likes (g :: gs) cs = true ↔ ∃ d ds, cs = d :: ds ∧ g.likes d = true ∧ likes gs ds = true := by
  cases cs with
  | nil => simp [likes]
  | cons c cs => simp [likes, and_assoc]

/-- A pattern fits words of its length only. -/
theorem length_of_likes {gs : List Glyph} {cs : List Char} (h : likes gs cs = true) : cs.length = gs.length := by
  induction gs generalizing cs with
  | nil => rw [likes_nil_iff.mp h]; rfl
  | cons g gs ih =>
    obtain ⟨d, ds, rfl, -, hds⟩ := likes_cons_iff.mp h
    rw [List.length_cons, List.length_cons, ih hds]

/-- An end is not longer than the word. -/
theorem length_le_of_endsLike {gs : List Glyph} {cs : List Char} (h : endsLike gs cs = true) :
    gs.length ≤ cs.length := by
  have hl := length_of_likes h
  rw [List.length_drop] at hl
  omega

/-- Whether the pattern fits the word: all of it if `whole`, else an end of it. -/
def fits (whole : Bool) (pattern : List Glyph) (word : List Char) : Bool :=
  if whole then likes pattern word else endsLike pattern word

/-- So is no pattern that fits. -/
theorem length_le_of_fits {whole : Bool} {pattern : List Glyph} {word : List Char}
    (h : fits whole pattern word = true) : pattern.length ≤ word.length := by
  cases whole with
  | false => exact length_le_of_endsLike h
  | true => exact Nat.le_of_eq (length_of_likes h).symm

theorem length_spelled (s : String) : (spelled s).length = s.length := by
  unfold spelled
  rw [List.length_map, String.length_toList]

/-! ## One rule -/

/-- The letters that a rule may write. -/
def Rule.additions : Rule → List Char
  | .ending _ _ _ added => added.toList
  | .opening _ _ => []

/-- Whether the rule keeps at least one character of the word, or else writes nothing. -/
def Rule.keepsHead : Rule → Bool
  | .ending _ kept _ added => kept.all (fun k => !k.isEmpty) || added.isEmpty
  | .opening kept _ => 0 < kept.length

/-- **What a change at the end amounts to**, and when it is made. -/
theorem replaceEnd?_eq_some_iff {whole : Bool} {kept : List (List Glyph)} {dropped added : String}
    {word out : List Char} : replaceEnd? whole kept dropped added word = some out ↔
      (∃ k ∈ kept, fits whole (k ++ spelled dropped) word = true) ∧
        out = word.take (word.length - dropped.length) ++ added.toList := by
  simp only [replaceEnd?, Option.ite_none_right_eq_some, Option.some.injEq, List.any_eq_true,
    @eq_comm _ _ out]
  rfl

/-- A kept part and the dropped part that fit a word have room in it together. -/
theorem length_add_le_of_fits {whole : Bool} {k : List Glyph} {dropped : String} {word : List Char}
    (h : fits whole (k ++ spelled dropped) word = true) : k.length + dropped.length ≤ word.length := by
  rw [← length_spelled dropped, ← List.length_append]
  exact length_le_of_fits h

/-- What stands behind a word is found by its length. -/
theorem afterWord?_eq_some {w cs rest : List Char} (h : afterWord? w cs = some rest) :
    cs.drop w.length = rest ∧ w.length ≤ cs.length := by
  obtain ⟨u, rfl, rfl⟩ := afterWord?_eq_some_iff.mp h
  rw [List.length_map, List.length_append]
  exact ⟨List.drop_left, Nat.le_add_right _ _⟩

/-- A rule takes letters from the word, or adds its own. -/
theorem mem_of_applied? {r : Rule} {word out : List Char} (h : r.applied? word = some out) {c : Char}
    (hc : c ∈ out) : c ∈ word ∨ c ∈ r.additions := by
  cases r with
  | ending whole kept dropped added =>
    obtain ⟨d, -, hd⟩ := List.exists_of_findSome?_eq_some h
    obtain ⟨-, rfl⟩ := replaceEnd?_eq_some_iff.mp hd
    exact (List.mem_append.mp hc).imp List.mem_of_mem_take id
  | opening kept dropped =>
    obtain ⟨rest, hrest, rfl⟩ := Option.map_eq_some_iff.mp h
    obtain ⟨rfl, -⟩ := afterWord?_eq_some hrest
    exact Or.inl ((List.mem_append.mp hc).elim List.mem_of_mem_take List.mem_of_mem_drop)

/-- A positive number of characters from the front starts as the whole does. -/
theorem head?_take_append {cs ds : List Char} {n : Nat} (hn : 0 < n) (hcs : cs ≠ []) :
    (cs.take n ++ ds).head? = cs.head? := by
  obtain ⟨c, cs, rfl⟩ := List.exists_cons_of_ne_nil hcs
  obtain ⟨n, rfl⟩ : ∃ m, n = m + 1 := ⟨n - 1, by omega⟩
  rfl

/-- **A rule keeps the first letter**, or leaves nothing. -/
theorem head?_of_applied? {r : Rule} (hr : r.keepsHead = true) {word out : List Char}
    (h : r.applied? word = some out) : out = [] ∨ out.head? = word.head? := by
  cases r with
  | ending whole kept dropped added =>
    obtain ⟨d, -, hd⟩ := List.exists_of_findSome?_eq_some h
    obtain ⟨⟨k, hk, hfits⟩, rfl⟩ := replaceEnd?_eq_some_iff.mp hd
    have hlen := length_add_le_of_fits hfits
    simp only [Rule.keepsHead, Bool.or_eq_true, List.all_eq_true] at hr
    rcases Nat.eq_zero_or_pos (word.length - d.length) with hz | hpos
    · -- nothing is kept of the word: then the kept part is empty, and so is what is written
      left
      have hk0 : k = [] := List.length_eq_zero_iff.mp (by omega)
      rcases hr with hr | hr
      · exact absurd (hr k hk) (by simp [hk0])
      · rw [hz, List.take_zero, List.nil_append, String.isEmpty_iff.mp hr, String.toList_empty]
    · right
      have hne : word ≠ [] := by
        rintro rfl
        simp at hpos
      exact head?_take_append hpos hne
  | opening kept dropped =>
    obtain ⟨rest, hrest, rfl⟩ := Option.map_eq_some_iff.mp h
    obtain ⟨-, hlen⟩ := afterWord?_eq_some hrest
    right
    have hkept : 0 < kept.length := of_decide_eq_true hr
    refine head?_take_append hkept ?_
    rintro rfl
    rw [List.length_append, String.length_toList, List.length_nil] at hlen
    omega

/-! ## The rules of English -/

/-- All rules add lower-case letters. -/
theorem isLower_of_mem_additions : ∀ r ∈ rules, ∀ c ∈ r.additions, isLower c = true := by
  have hall : rules.all (fun r => r.additions.all isLower) = true := by decide
  intro r hr
  exact List.all_eq_true.mp (List.all_eq_true.mp hall r hr)

/-- All rules keep the first letter. -/
theorem keepsHead_of_mem_rules : ∀ r ∈ rules, r.keepsHead = true := by
  decide

/-- Either the word is its own singular, or one of the rules gave it. -/
theorem singular_cases (word : List Char) :
    singular word = word ∨ ∃ r ∈ rules, r.applied? word = some (singular word) ∧ singular word ≠ [] := by
  unfold singular
  split
  · exact Or.inl rfl
  · split
    · exact Or.inl rfl
    · -- a rule that leaves nothing is not followed
      exact Or.inl rfl
    · rename_i other hne h
      obtain ⟨r, hr, happ⟩ := List.exists_of_findSome?_eq_some h
      exact Or.inr ⟨r, hr, happ, hne⟩

/-- **The characters of a singular** are the word's, or lower-case letters. -/
theorem mem_singular {word : List Char} {c : Char} (h : c ∈ singular word) : c ∈ word ∨ isLower c = true := by
  rcases singular_cases word with hs | ⟨r, hr, happ, -⟩
  · exact Or.inl (hs ▸ h)
  · exact (mem_of_applied? happ h).imp id (isLower_of_mem_additions r hr c)

/-- **The first character of a singular** is the word's. -/
theorem head?_singular (word : List Char) : (singular word).head? = word.head? := by
  rcases singular_cases word with hs | ⟨r, hr, happ, hne⟩
  · rw [hs]
  · rcases head?_of_applied? (keepsHead_of_mem_rules r hr) happ with h | h
    · exact absurd h hne
    · exact h

end RecordGate.Name
