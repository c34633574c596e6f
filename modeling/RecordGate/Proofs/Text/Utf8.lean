import RecordGate.Text.Utf8

/-!
# `RecordGate.Proofs.Text.Utf8` — reading undoes writing

The machine that reads octets accepts exactly the octets of texts, and gives the text that they are of
(`decode?_eq_some_iff`). For one character this is shown in each direction: its octets lead from the start back to the
start and give the character (`itemsFrom_utf8EncodeChar_append`), and octets of which none is refused start with those
of a character (`exists_utf8EncodeChar_append`). Both follow from what the first octet says of the ones to come
(`first_of_one` to `first_of_four`), by arithmetic on the digits of a code point in base 64.
-/

namespace RecordGate.Text.Utf8

/-! ## First octets -/

section

variable {b : Nat}

/-- An octet below 0x80 is a character by itself. -/
theorem first_of_one (h : b ≤ 0x7F) : first b = ([some (Char.ofNat b)], .start) := by
  unfold first
  rw [if_pos h]

/-- The octets that start a sequence of two. -/
theorem first_of_two (hlow : 0xC2 ≤ b) (hhigh : b ≤ 0xDF) : first b = ([], .owing 0 0x80 0xBF (b - 0xC0)) := by
  unfold first
  rw [if_neg (by omega), if_pos (by simp [hlow, hhigh])]

/-- The first of three octets keeps the second one from an overlong form, and from a surrogate. -/
theorem first_of_three (hlow : 0xE0 ≤ b) (hhigh : b ≤ 0xEF) : first b =
    ([], .owing 1 (if b = 0xE0 then 0xA0 else 0x80) (if b = 0xED then 0x9F else 0xBF) (b - 0xE0)) := by
  unfold first
  rw [if_neg (by omega), if_neg (by simp; omega)]
  by_cases hfirst : b = 0xE0
  · subst hfirst
    rfl
  · by_cases hsurrogate : b = 0xED
    · subst hsurrogate
      rfl
    · rw [if_neg (by simpa using hfirst), if_neg (by simpa using hsurrogate), if_pos (by simp; omega),
        if_neg hfirst, if_neg hsurrogate]

/-- The first of four octets keeps the second one from an overlong form, and from a value beyond the last one. -/
theorem first_of_four (hlow : 0xF0 ≤ b) (hhigh : b ≤ 0xF4) : first b =
    ([], .owing 2 (if b = 0xF0 then 0x90 else 0x80) (if b = 0xF4 then 0x8F else 0xBF) (b - 0xF0)) := by
  obtain rfl | rfl | rfl | rfl | rfl : b = 0xF0 ∨ b = 0xF1 ∨ b = 0xF2 ∨ b = 0xF3 ∨ b = 0xF4 := by omega
  all_goals rfl

/-- An octet that starts no sequence is an error by itself. -/
theorem first_of_other (hsmall : ¬ b ≤ 0x7F) (htwo : ¬ (0xC2 ≤ b ∧ b ≤ 0xDF)) (hmore : ¬ (0xE0 ≤ b ∧ b ≤ 0xF4)) :
    first b = ([none], .start) := by
  unfold first
  rw [if_neg hsmall, if_neg (by simpa using htwo), if_neg (by simp; omega), if_neg (by simp; omega),
    if_neg (by simp; omega), if_neg (by simp; omega), if_neg (by simp; omega), if_neg (by simp; omega)]

end

/-! ## Steps -/

theorem itemsFrom_cons (state : State) (b : UInt8) (rest : List UInt8) :
    itemsFrom state (b :: rest) = (step state b.toNat).1 ++ itemsFrom (step state b.toNat).2 rest := by
  cases state with
  | start => rfl
  | owing more low high code => rfl

section

variable {more low high code : Nat} {b : UInt8} {rest : List UInt8}

/-- The last octet that is owed completes the character. -/
theorem itemsFrom_owing_zero (hlow : low ≤ b.toNat) (hhigh : b.toNat ≤ high) :
    itemsFrom (.owing 0 low high code) (b :: rest) =
      some (Char.ofNat (code * 0x40 + (b.toNat - 0x80))) :: itemsFrom .start rest := by
  rw [itemsFrom_cons]
  simp [step, hlow, hhigh]

/-- An octet that is owed adds six bits, and the octets behind it are tails of any value. -/
theorem itemsFrom_owing_succ (hlow : low ≤ b.toNat) (hhigh : b.toNat ≤ high) :
    itemsFrom (.owing (more + 1) low high code) (b :: rest) =
      itemsFrom (.owing more 0x80 0xBF (code * 0x40 + (b.toNat - 0x80))) rest := by
  rw [itemsFrom_cons]
  simp [step, hlow, hhigh]

/-- **An owed octet is there and in its interval**, if nothing is refused. -/
theorem exists_owed {octets : List UInt8} (h : none ∉ itemsFrom (.owing more low high code) octets) :
    ∃ b rest, octets = b :: rest ∧ low ≤ b.toNat ∧ b.toNat ≤ high := by
  cases octets with
  | nil => exact absurd List.mem_cons_self h
  | cons b rest =>
    refine ⟨b, rest, rfl, ?_⟩
    by_cases hbounds : low ≤ b.toNat ∧ b.toNat ≤ high
    · exact hbounds
    · rw [itemsFrom_cons] at h
      refine absurd ?_ h
      simp [step, hbounds]

end

/-! ## Octets that belong together -/

section

variable {a t u v : UInt8} {rest : List UInt8}

/-- A continuation octet. -/
def IsTail (t : UInt8) : Prop :=
  0x80 ≤ t.toNat ∧ t.toNat ≤ 0xBF

/-- The first two of three octets: neither overlong nor a surrogate. -/
structure StartsThree (a t : UInt8) : Prop where
  lead : 0xE0 ≤ a.toNat ∧ a.toNat ≤ 0xEF
  tail : IsTail t
  long : a.toNat = 0xE0 → 0xA0 ≤ t.toNat
  scalar : a.toNat = 0xED → t.toNat ≤ 0x9F

/-- The first two of four octets: neither overlong nor beyond the last code point. -/
structure StartsFour (a t : UInt8) : Prop where
  lead : 0xF0 ≤ a.toNat ∧ a.toNat ≤ 0xF4
  tail : IsTail t
  long : a.toNat = 0xF0 → 0x90 ≤ t.toNat
  bounded : a.toNat = 0xF4 → t.toNat ≤ 0x8F

/-- A sequence of one octet is read as its character. -/
theorem itemsFrom_one (ha : a.toNat ≤ 0x7F) :
    itemsFrom .start (a :: rest) = some (Char.ofNat a.toNat) :: itemsFrom .start rest := by
  rw [itemsFrom_cons, step, first_of_one ha, List.singleton_append]

/-- A sequence of two octets is read as its character. -/
theorem itemsFrom_two (ha : 0xC2 ≤ a.toNat ∧ a.toNat ≤ 0xDF) (ht : IsTail t) :
    itemsFrom .start (a :: t :: rest) =
      some (Char.ofNat ((a.toNat - 0xC0) * 0x40 + (t.toNat - 0x80))) :: itemsFrom .start rest := by
  rw [itemsFrom_cons, step, first_of_two ha.1 ha.2, List.nil_append, itemsFrom_owing_zero ht.1 ht.2]

/-- A sequence of three octets is read as its character. -/
theorem itemsFrom_three (h : StartsThree a t) (hu : IsTail u) :
    itemsFrom .start (a :: t :: u :: rest) =
      some (Char.ofNat (((a.toNat - 0xE0) * 0x40 + (t.toNat - 0x80)) * 0x40 + (u.toNat - 0x80))) ::
        itemsFrom .start rest := by
  obtain ⟨hlead, htail, hlong, hscalar⟩ := h
  have hlow : (if a.toNat = 0xE0 then 0xA0 else 0x80) ≤ t.toNat := by
    split
    · exact hlong ‹_›
    · exact htail.1
  have hhigh : t.toNat ≤ if a.toNat = 0xED then 0x9F else 0xBF := by
    split
    · exact hscalar ‹_›
    · exact htail.2
  rw [itemsFrom_cons, step, first_of_three hlead.1 hlead.2, List.nil_append, itemsFrom_owing_succ hlow hhigh,
    itemsFrom_owing_zero hu.1 hu.2]

/-- A sequence of four octets is read as its character. -/
theorem itemsFrom_four (h : StartsFour a t) (hu : IsTail u) (hv : IsTail v) :
    itemsFrom .start (a :: t :: u :: v :: rest) =
      some (Char.ofNat ((((a.toNat - 0xF0) * 0x40 + (t.toNat - 0x80)) * 0x40 + (u.toNat - 0x80)) * 0x40 +
        (v.toNat - 0x80))) :: itemsFrom .start rest := by
  obtain ⟨hlead, htail, hlong, hbounded⟩ := h
  have hlow : (if a.toNat = 0xF0 then 0x90 else 0x80) ≤ t.toNat := by
    split
    · exact hlong ‹_›
    · exact htail.1
  have hhigh : t.toNat ≤ if a.toNat = 0xF4 then 0x8F else 0xBF := by
    split
    · exact hbounded ‹_›
    · exact htail.2
  rw [itemsFrom_cons, step, first_of_four hlead.1 hlead.2, List.nil_append, itemsFrom_owing_succ hlow hhigh,
    itemsFrom_owing_succ hu.1 hu.2, itemsFrom_owing_zero hv.1 hv.2]

end

/-! ## The octets of a character -/

section

variable {c : Char}

/-- Characters have the codes below and above the surrogates. -/
theorem toNat_lt_or (c : Char) : c.toNat < 0xD800 ∨ 0xDFFF < c.toNat ∧ c.toNat < 0x110000 :=
  c.valid

/-- The encoding of a character, by the size of its code. -/
theorem utf8EncodeChar_eq (c : Char) : String.utf8EncodeChar c =
    if c.toNat ≤ 0x7F then [UInt8.ofNat c.toNat]
    else if c.toNat ≤ 0x7FF then [UInt8.ofNat (c.toNat / 64 % 32 + 0xC0), UInt8.ofNat (c.toNat % 64 + 0x80)]
    else if c.toNat ≤ 0xFFFF then [UInt8.ofNat (c.toNat / 4096 % 16 + 0xE0), UInt8.ofNat (c.toNat / 64 % 64 + 0x80),
      UInt8.ofNat (c.toNat % 64 + 0x80)]
    else [UInt8.ofNat (c.toNat / 262144 % 8 + 0xF0), UInt8.ofNat (c.toNat / 4096 % 64 + 0x80),
      UInt8.ofNat (c.toNat / 64 % 64 + 0x80), UInt8.ofNat (c.toNat % 64 + 0x80)] :=
  rfl

theorem toNat_ofNat_octet {n : Nat} (h : n < 256) : (UInt8.ofNat n).toNat = n :=
  UInt8.toNat_ofNat_of_lt' h

/-- A character below 0x80 is encoded in one octet. -/
theorem exists_octet (h : c.toNat ≤ 0x7F) : ∃ a : UInt8, String.utf8EncodeChar c = [a] ∧ a.toNat = c.toNat := by
  rw [utf8EncodeChar_eq, if_pos h]
  exact ⟨_, rfl, toNat_ofNat_octet (by omega)⟩

/-- The two octets of a character below 0x800, by their values. -/
theorem exists_two_octets (hlow : 0x7F < c.toNat) (hhigh : c.toNat ≤ 0x7FF) :
    ∃ a t : UInt8, String.utf8EncodeChar c = [a, t] ∧
      a.toNat = c.toNat / 64 + 0xC0 ∧ t.toNat = c.toNat % 64 + 0x80 := by
  rw [utf8EncodeChar_eq, if_neg (by omega), if_pos hhigh]
  refine ⟨_, _, rfl, ?_, toNat_ofNat_octet (by omega)⟩
  rw [toNat_ofNat_octet (by omega)]
  omega

/-- The three octets of a character below 0x10000, by their values. -/
theorem exists_three_octets (hlow : 0x7FF < c.toNat) (hhigh : c.toNat ≤ 0xFFFF) :
    ∃ a t u : UInt8, String.utf8EncodeChar c = [a, t, u] ∧ a.toNat = c.toNat / 4096 + 0xE0 ∧
      t.toNat = c.toNat / 64 % 64 + 0x80 ∧ u.toNat = c.toNat % 64 + 0x80 := by
  rw [utf8EncodeChar_eq, if_neg (by omega), if_neg (by omega), if_pos hhigh]
  refine ⟨_, _, _, rfl, ?_, toNat_ofNat_octet (by omega), toNat_ofNat_octet (by omega)⟩
  rw [toNat_ofNat_octet (by omega)]
  omega

/-- The four octets of a character from 0x10000 on, by their values. -/
theorem exists_four_octets (hlow : 0xFFFF < c.toNat) :
    ∃ a t u v : UInt8, String.utf8EncodeChar c = [a, t, u, v] ∧ a.toNat = c.toNat / 262144 + 0xF0 ∧
      t.toNat = c.toNat / 4096 % 64 + 0x80 ∧ u.toNat = c.toNat / 64 % 64 + 0x80 ∧ v.toNat = c.toNat % 64 + 0x80 := by
  have hbound := toNat_lt_or c
  rw [utf8EncodeChar_eq, if_neg (by omega), if_neg (by omega), if_neg (by omega)]
  refine ⟨_, _, _, _, rfl, ?_, toNat_ofNat_octet (by omega), toNat_ofNat_octet (by omega), toNat_ofNat_octet (by omega)⟩
  rw [toNat_ofNat_octet (by omega)]
  omega

end

/-! ## One character -/

theorem ofNat_eq {c : Char} {n : Nat} (h : n = c.toNat) : Char.ofNat n = c := by
  rw [h, Char.ofNat_toNat]

/-- **The octets of a character are read as this character**, whatever follows. -/
theorem itemsFrom_utf8EncodeChar_append (c : Char) (rest : List UInt8) :
    itemsFrom .start (String.utf8EncodeChar c ++ rest) = some c :: itemsFrom .start rest := by
  have hbound := toNat_lt_or c
  by_cases hone : c.toNat ≤ 0x7F
  · obtain ⟨a, hoctets, ha⟩ := exists_octet hone
    rw [hoctets, List.singleton_append, itemsFrom_one (by omega), ofNat_eq ha]
  by_cases htwo : c.toNat ≤ 0x7FF
  · obtain ⟨a, t, hoctets, ha, ht⟩ := exists_two_octets (by omega) htwo
    have htail : IsTail t := ⟨by omega, by omega⟩
    rw [hoctets, List.cons_append, List.singleton_append, itemsFrom_two (by omega) htail,
      @ofNat_eq c _ (by omega)]
  by_cases hthree : c.toNat ≤ 0xFFFF
  · obtain ⟨a, t, u, hoctets, ha, ht, hu⟩ := exists_three_octets (by omega) hthree
    have hstart : StartsThree a t := ⟨by omega, ⟨by omega, by omega⟩, by omega, by omega⟩
    have htail : IsTail u := ⟨by omega, by omega⟩
    rw [hoctets, List.cons_append, List.cons_append, List.singleton_append, itemsFrom_three hstart htail,
      @ofNat_eq c _ (by omega)]
  · obtain ⟨a, t, u, v, hoctets, ha, ht, hu, hv⟩ := @exists_four_octets c (by omega)
    have hstart : StartsFour a t := ⟨by omega, ⟨by omega, by omega⟩, by omega, by omega⟩
    have htail : IsTail u := ⟨by omega, by omega⟩
    have hlast : IsTail v := ⟨by omega, by omega⟩
    rw [hoctets, List.cons_append, List.cons_append, List.cons_append, List.singleton_append,
      itemsFrom_four hstart htail hlast, @ofNat_eq c _ (by omega)]

/-- The code of a character made from a valid code is that code. -/
theorem toNat_ofNat_of_isValidChar {n : Nat} (h : n < 0xD800 ∨ 0xDFFF < n ∧ n < 0x110000) : (Char.ofNat n).toNat = n := by
  unfold Char.ofNat
  rw [dif_pos h]
  rfl

section

variable {a t u v : UInt8}

/-- Every octet below 0x80 is the encoding of a character. -/
theorem exists_char_one (ha : a.toNat ≤ 0x7F) : ∃ c, String.utf8EncodeChar c = [a] := by
  have hc : (Char.ofNat a.toNat).toNat = a.toNat := toNat_ofNat_of_isValidChar (by omega)
  obtain ⟨a', hoctets, ha'⟩ := @exists_octet (Char.ofNat a.toNat) (by omega)
  obtain rfl : a' = a := UInt8.toNat_inj.mp (by omega)
  exact ⟨_, hoctets⟩

/-- Every well-formed sequence of two is the encoding of a character. -/
theorem exists_char_two (ha : 0xC2 ≤ a.toNat ∧ a.toNat ≤ 0xDF) (ht : IsTail t) :
    ∃ c, String.utf8EncodeChar c = [a, t] := by
  obtain ⟨htlow, hthigh⟩ := ht
  have hc : (Char.ofNat ((a.toNat - 0xC0) * 0x40 + (t.toNat - 0x80))).toNat =
      (a.toNat - 0xC0) * 0x40 + (t.toNat - 0x80) := toNat_ofNat_of_isValidChar (by omega)
  obtain ⟨a', t', hoctets, ha', ht'⟩ := @exists_two_octets (Char.ofNat _) (by rw [hc]; omega) (by rw [hc]; omega)
  obtain rfl : a' = a := UInt8.toNat_inj.mp (by omega)
  obtain rfl : t' = t := UInt8.toNat_inj.mp (by omega)
  exact ⟨_, hoctets⟩

/-- Every well-formed sequence of three is the encoding of a character: the bounds on its second octet keep out overlong
    forms and surrogates. -/
theorem exists_char_three (h : StartsThree a t) (hu : IsTail u) : ∃ c, String.utf8EncodeChar c = [a, t, u] := by
  obtain ⟨hlead, ⟨htlow, hthigh⟩, hlong, hscalar⟩ := h
  obtain ⟨hulow, huhigh⟩ := hu
  have hc : (Char.ofNat (((a.toNat - 0xE0) * 0x40 + (t.toNat - 0x80)) * 0x40 + (u.toNat - 0x80))).toNat =
      ((a.toNat - 0xE0) * 0x40 + (t.toNat - 0x80)) * 0x40 + (u.toNat - 0x80) :=
    toNat_ofNat_of_isValidChar (by omega)
  obtain ⟨a', t', u', hoctets, ha', ht', hu'⟩ :=
    @exists_three_octets (Char.ofNat _) (by rw [hc]; omega) (by rw [hc]; omega)
  obtain rfl : a' = a := UInt8.toNat_inj.mp (by omega)
  obtain rfl : t' = t := UInt8.toNat_inj.mp (by omega)
  obtain rfl : u' = u := UInt8.toNat_inj.mp (by omega)
  exact ⟨_, hoctets⟩

/-- Every well-formed sequence of four is the encoding of a character: the bounds on its second octet keep out overlong
    forms and codes past the last. -/
theorem exists_char_four (h : StartsFour a t) (hu : IsTail u) (hv : IsTail v) :
    ∃ c, String.utf8EncodeChar c = [a, t, u, v] := by
  obtain ⟨hlead, ⟨htlow, hthigh⟩, hlong, hbounded⟩ := h
  obtain ⟨hulow, huhigh⟩ := hu
  obtain ⟨hvlow, hvhigh⟩ := hv
  have hc : (Char.ofNat ((((a.toNat - 0xF0) * 0x40 + (t.toNat - 0x80)) * 0x40 + (u.toNat - 0x80)) * 0x40 +
      (v.toNat - 0x80))).toNat = (((a.toNat - 0xF0) * 0x40 + (t.toNat - 0x80)) * 0x40 + (u.toNat - 0x80)) * 0x40 +
      (v.toNat - 0x80) := toNat_ofNat_of_isValidChar (by omega)
  obtain ⟨a', t', u', v', hoctets, ha', ht', hu', hv'⟩ := @exists_four_octets (Char.ofNat _) (by rw [hc]; omega)
  obtain rfl : a' = a := UInt8.toNat_inj.mp (by omega)
  obtain rfl : t' = t := UInt8.toNat_inj.mp (by omega)
  obtain rfl : u' = u := UInt8.toNat_inj.mp (by omega)
  obtain rfl : v' = v := UInt8.toNat_inj.mp (by omega)
  exact ⟨_, hoctets⟩

end

section

variable {a : UInt8} {octets : List UInt8}

/-- Where no error is met, the start of a sequence of two is followed by its tail. -/
theorem exists_two_of_not_mem (ha : 0xC2 ≤ a.toNat ∧ a.toNat ≤ 0xDF) (h : none ∉ itemsFrom .start (a :: octets)) :
    ∃ t rest, octets = t :: rest ∧ IsTail t := by
  rw [itemsFrom_cons, step, first_of_two ha.1 ha.2, List.nil_append] at h
  exact exists_owed h

/-- Where no error is met, the start of a sequence of three is followed by its tails. -/
theorem exists_three_of_not_mem (ha : 0xE0 ≤ a.toNat ∧ a.toNat ≤ 0xEF) (h : none ∉ itemsFrom .start (a :: octets)) :
    ∃ t u rest, octets = t :: u :: rest ∧ StartsThree a t ∧ IsTail u := by
  rw [itemsFrom_cons, step, first_of_three ha.1 ha.2, List.nil_append] at h
  obtain ⟨t, rest, rfl, htlow, hthigh⟩ := exists_owed h
  rw [itemsFrom_owing_succ htlow hthigh] at h
  obtain ⟨u, rest, rfl, hu⟩ := exists_owed h
  refine ⟨t, u, rest, rfl, ?_, hu⟩
  constructor
  case lead => exact ha
  case tail => exact ⟨by split at htlow <;> omega, by split at hthigh <;> omega⟩
  case long =>
    intro hlead
    rwa [if_pos hlead] at htlow
  case scalar =>
    intro hlead
    rwa [if_pos hlead] at hthigh

/-- Where no error is met, the start of a sequence of four is followed by its tails. -/
theorem exists_four_of_not_mem (ha : 0xF0 ≤ a.toNat ∧ a.toNat ≤ 0xF4) (h : none ∉ itemsFrom .start (a :: octets)) :
    ∃ t u v rest, octets = t :: u :: v :: rest ∧ StartsFour a t ∧ IsTail u ∧ IsTail v := by
  rw [itemsFrom_cons, step, first_of_four ha.1 ha.2, List.nil_append] at h
  obtain ⟨t, rest, rfl, htlow, hthigh⟩ := exists_owed h
  rw [itemsFrom_owing_succ htlow hthigh] at h
  obtain ⟨u, rest, rfl, hu⟩ := exists_owed h
  rw [itemsFrom_owing_succ hu.1 hu.2] at h
  obtain ⟨v, rest, rfl, hv⟩ := exists_owed h
  refine ⟨t, u, v, rest, rfl, ?_, hu, hv⟩
  constructor
  case lead => exact ha
  case tail => exact ⟨by split at htlow <;> omega, by split at hthigh <;> omega⟩
  case long =>
    intro hlead
    rwa [if_pos hlead] at htlow
  case bounded =>
    intro hlead
    rwa [if_pos hlead] at hthigh

/-- **Octets of which none is refused start with those of a character.** -/
theorem exists_utf8EncodeChar_append (h : none ∉ itemsFrom .start (a :: octets)) :
    ∃ c rest, a :: octets = String.utf8EncodeChar c ++ rest := by
  by_cases hone : a.toNat ≤ 0x7F
  · obtain ⟨c, hc⟩ := exists_char_one hone
    exact ⟨c, octets, by rw [hc]; rfl⟩
  by_cases htwo : 0xC2 ≤ a.toNat ∧ a.toNat ≤ 0xDF
  · obtain ⟨t, rest, rfl, ht⟩ := exists_two_of_not_mem htwo h
    obtain ⟨c, hc⟩ := exists_char_two htwo ht
    exact ⟨c, rest, by rw [hc]; rfl⟩
  by_cases hthree : 0xE0 ≤ a.toNat ∧ a.toNat ≤ 0xEF
  · obtain ⟨t, u, rest, rfl, hstart, hu⟩ := exists_three_of_not_mem hthree h
    obtain ⟨c, hc⟩ := exists_char_three hstart hu
    exact ⟨c, rest, by rw [hc]; rfl⟩
  by_cases hfour : 0xF0 ≤ a.toNat ∧ a.toNat ≤ 0xF4
  · obtain ⟨t, u, v, rest, rfl, hstart, hu, hv⟩ := exists_four_of_not_mem hfour h
    obtain ⟨c, hc⟩ := exists_char_four hstart hu hv
    exact ⟨c, rest, by rw [hc]; rfl⟩
  · rw [itemsFrom_cons, step, first_of_other hone htwo (by omega)] at h
    exact absurd List.mem_cons_self h

end

/-! ## Texts -/

/-- Encoded characters are read back one by one, without an error. -/
theorem items_flatMap (cs : List Char) : items (cs.flatMap String.utf8EncodeChar) = cs.map some := by
  unfold items
  induction cs with
  | nil => rfl
  | cons c cs ih => rw [List.flatMap_cons, itemsFrom_utf8EncodeChar_append, ih, List.map_cons]

/-- **Octets of which none is refused are those of a text.** -/
theorem exists_flatMap_of_items {octets : List UInt8} (h : none ∉ items octets) :
    ∃ cs : List Char, octets = cs.flatMap String.utf8EncodeChar := by
  unfold items at h
  -- each character takes octets away
  induction hn : octets.length using Nat.strongRecOn generalizing octets with
  | ind n ih =>
    cases octets with
    | nil => exact ⟨[], rfl⟩
    | cons a octets =>
      obtain ⟨c, rest, hrest⟩ := exists_utf8EncodeChar_append h
      rw [hrest, itemsFrom_utf8EncodeChar_append] at h
      have hlength := congrArg List.length hrest
      have hpos := c.utf8Size_pos
      rw [List.length_append, String.length_utf8EncodeChar] at hlength
      obtain ⟨cs, rfl⟩ := ih rest.length (by omega) (fun hmem => h (List.mem_cons_of_mem _ hmem)) rfl
      exact ⟨c :: cs, by rw [hrest, List.flatMap_cons]⟩

/-- A text is encoded character by character. -/
theorem encode_eq (s : String) : encode s = s.toList.flatMap String.utf8EncodeChar := by
  have hoctets : s.toByteArray = s.toList.utf8Encode := by
    rw [← String.toByteArray_ofList, String.ofList_toList]
  rw [encode, String.toUTF8_eq_toByteArray, hoctets, List.utf8Encode, List.toList_data_toByteArray]

theorem mapM_id_map_some (cs : List Char) : (cs.map some).mapM id = some cs := by
  induction cs with
  | nil => rfl
  | cons c cs ih =>
    rw [List.map_cons, List.mapM_cons, ih]
    rfl

/-- Items that give a text hold no error. -/
theorem none_not_mem_of_mapM_id {items : List (Option Char)} {cs : List Char} (h : items.mapM id = some cs) :
    none ∉ items := by
  induction items generalizing cs with
  | nil => exact List.not_mem_nil
  | cons item items ih =>
    rw [List.mapM_cons] at h
    obtain ⟨c, hc, h⟩ := Option.bind_eq_some_iff.mp h
    obtain ⟨cs', hcs, -⟩ := Option.bind_eq_some_iff.mp h
    obtain rfl : item = some c := hc
    intro hmem
    rcases List.mem_cons.mp hmem with hnone | hmem
    · exact absurd hnone (by simp)
    · exact ih hcs hmem

/-- **Octets are read as a text exactly if they are those of the text.** -/
theorem decode?_eq_some_iff {octets : List UInt8} {s : String} : decode? octets = some s ↔ octets = encode s := by
  unfold decode?
  rw [Option.map_eq_some_iff, encode_eq]
  constructor
  · rintro ⟨cs, hcs, rfl⟩
    obtain ⟨ds, rfl⟩ := exists_flatMap_of_items (none_not_mem_of_mapM_id hcs)
    rw [items_flatMap, mapM_id_map_some] at hcs
    rw [Option.some.inj hcs, String.toList_ofList]
  · rintro rfl
    exact ⟨s.toList, by rw [items_flatMap, mapM_id_map_some], String.ofList_toList⟩

end RecordGate.Text.Utf8
