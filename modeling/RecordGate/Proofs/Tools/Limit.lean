import RecordGate.Proofs.Json.Numeral
import RecordGate.Proofs.Query.Compile
import RecordGate.Proofs.Text.Trim
import RecordGate.Proofs.Tools.Selection

/-!
# `RecordGate.Proofs.Tools.Limit` — what a limit means

A limit is read from whatever stands in the arguments, and every value means some integer (`Means`). For a text this is
the integer that it starts with: `IntegerParts` says where white space, sign and digits end, and `leadingInteger_eq` that
the reader finds them. A number outside the range of 64 bits with a sign is brought to the nearer end of the range
(`toInt_ofIntClamp`); a text that writes such a number means zero instead.

## Contents
- `listingLimit_of_compile` — **what becomes of a limit**, from the arguments to the query.
- `limitsOf` — the limits that a number makes, and those that its text makes.
-/

namespace RecordGate.Tools

open Text Json Number

/-! ## Integers at the start of a text -/

/-- What may stand between white space and digits. -/
inductive Sign where
  | none
  | plus
  | minus
  deriving DecidableEq, Repr

/-- A sign as it is written. -/
def Sign.text : Sign → List Char
  | .none => []
  | .plus => ['+']
  | .minus => ['-']

/-- A number with a sign. -/
def Sign.apply (sign : Sign) (magnitude : Nat) : Int :=
  if sign = .minus then -magnitude else magnitude

/-- **The parts of a text that is read as an integer**: white space, at most one sign, digits, and whatever follows. The
    white space and the digits go as far as they can, and no sign is left out. -/
structure IntegerParts (s : String) where
  blanks : List Char
  sign : Sign
  digits : List Char
  rest : List Char
  toList_eq : s.toList = blanks ++ (sign.text ++ (digits ++ rest))
  isBlank_of_mem : ∀ c ∈ blanks, isBlank c = true
  not_isBlank_of_head : ∀ c ∈ (sign.text ++ (digits ++ rest)).head?, isBlank c = false
  signless : sign = .none → ∀ c ∈ (digits ++ rest).head?, c ≠ '-' ∧ c ≠ '+'
  isAsciiDigit_of_mem : ∀ c ∈ digits, isAsciiDigit c = true
  not_isAsciiDigit_of_head : ∀ c ∈ rest.head?, isAsciiDigit c = false

/-- The integer that the parts make: zero if there are no digits, or if they make more than 63 bits. -/
def IntegerParts.value {s : String} (p : IntegerParts s) : Int :=
  if p.digits ≠ [] ∧ Nat.ofDigitChars 10 p.digits 0 ≤ 2 ^ 63 - 1 then p.sign.apply (Nat.ofDigitChars 10 p.digits 0)
  else 0

/-- Every text starts with a sign or with none, and without one what follows is no sign either. -/
theorem exists_sign (cs : List Char) :
    ∃ (sign : Sign) (ds : List Char), cs = sign.text ++ ds ∧ (sign = .none → ∀ c ∈ ds.head?, c ≠ '-' ∧ c ≠ '+') := by
  cases cs with
  | nil => exact ⟨.none, [], rfl, fun _ c hc => absurd hc (by simp)⟩
  | cons c cs =>
    by_cases hminus : c = '-'
    · exact ⟨.minus, cs, by rw [hminus]; rfl, fun h => absurd h (by decide)⟩
    · by_cases hplus : c = '+'
      · exact ⟨.plus, cs, by rw [hplus]; rfl, fun h => absurd h (by decide)⟩
      · refine ⟨.none, c :: cs, rfl, fun _ d hd => ?_⟩
        obtain rfl := Option.some.inj hd
        exact ⟨hminus, hplus⟩

/-- **Every text has such parts.** -/
theorem nonempty_integerParts (s : String) : Nonempty (IntegerParts s) := by
  obtain ⟨blanks, hblanks, hall⟩ := exists_append_trimStart s.toList
  obtain ⟨sign, ds, hsign, hsignless⟩ := exists_sign (trimStart s.toList)
  have hdigits : ds.takeWhile isAsciiDigit ++ ds.dropWhile isAsciiDigit = ds := List.takeWhile_append_dropWhile
  have hstop : ∀ c ∈ (trimStart s.toList).head?, isBlank c = false := by
    intro c hc
    exact eq_false_of_mem_head?_dropWhile hc
  exact ⟨{
    blanks
    sign
    digits := ds.takeWhile isAsciiDigit
    rest := ds.dropWhile isAsciiDigit
    toList_eq := by rw [hdigits, ← hsign, ← hblanks]
    isBlank_of_mem := hall
    not_isBlank_of_head := by rwa [hdigits, ← hsign]
    signless := by rwa [hdigits]
    isAsciiDigit_of_mem := fun c hc => List.all_eq_true.mp List.all_takeWhile c hc
    not_isAsciiDigit_of_head := fun c hc => eq_false_of_mem_head?_dropWhile hc }⟩

/-- Whether a minus sign stands in front, and what follows the sign. -/
def readSign : List Char → Bool × List Char
  | '-' :: cs => (true, cs)
  | '+' :: cs => (false, cs)
  | cs => (false, cs)

/-- A sign is read off, and the text behind it is left. -/
theorem readSign_text {sign : Sign} {cs : List Char} (h : sign = .none → ∀ c ∈ cs.head?, c ≠ '-' ∧ c ≠ '+') :
    readSign (sign.text ++ cs) = (decide (sign = .minus), cs) := by
  cases sign with
  | none =>
    have hhead := h rfl
    rw [Sign.text, List.nil_append]
    unfold readSign
    split
    · exact absurd rfl (hhead '-' rfl).1
    · exact absurd rfl (hhead '+' rfl).2
    · rfl
  | plus => rfl
  | minus => rfl

/-- The number of a text: the digits behind its sign, or zero where they do not fit into 63 bits. -/
theorem leadingInteger_eq_of_readSign {s : String} {negative : Bool} {cs : List Char}
    (h : readSign (trimStart s.toList) = (negative, cs)) :
    leadingInteger s =
      if natOfDigits (cs.takeWhile isAsciiDigit) < 2 ^ 63 then
        (if negative then -(natOfDigits (cs.takeWhile isAsciiDigit) : Int) else natOfDigits (cs.takeWhile isAsciiDigit))
      else 0 := by
  obtain ⟨rfl, rfl⟩ := Prod.mk.inj h
  rfl

/-- **Which integer is read from a text.** -/
theorem leadingInteger_eq {s : String} (p : IntegerParts s) : leadingInteger s = p.value := by
  have htrim : trimStart s.toList = p.sign.text ++ (p.digits ++ p.rest) := by
    rw [p.toList_eq, trimStart_append_left p.isBlank_of_mem, trimStart_eq_self_of_head p.not_isBlank_of_head]
  have hsign : readSign (trimStart s.toList) = (decide (p.sign = .minus), p.digits ++ p.rest) := by
    rw [htrim, readSign_text p.signless]
  rw [leadingInteger_eq_of_readSign hsign, takeWhile_isAsciiDigit_append p.isAsciiDigit_of_mem p.not_isAsciiDigit_of_head,
    natOfDigits_eq]
  unfold IntegerParts.value Sign.apply
  simp only [decide_eq_true_eq]
  have hfits : Nat.ofDigitChars 10 p.digits 0 < 2 ^ 63 ↔ Nat.ofDigitChars 10 p.digits 0 ≤ 2 ^ 63 - 1 := by omega
  by_cases hdigits : p.digits = []
  · -- no digits have the value zero
    rw [hdigits]
    simp
  · simp only [ne_eq, hdigits, not_false_eq_true, true_and, hfits]

example : leadingInteger " +007 rows" = 7 := by decide

/-! ## The range of 64 bits -/

/-- Clamping takes the nearest number that fits. -/
theorem toInt_ofIntClamp (n : Int) : (Int64.ofIntClamp n).toInt = max (-2 ^ 63) (min n (2 ^ 63 - 1)) := by
  have hmin : Int64.minValue.toInt = -2 ^ 63 := by decide
  have hmax : Int64.maxValue.toInt = 2 ^ 63 - 1 := by decide
  unfold Int64.ofIntClamp
  split
  · split
    · rw [Int64.toInt_ofIntLE]
      omega
    · omega
  · omega

/-- The integer that a text is read as fits. -/
theorem toInt_ofIntClamp_value {s : String} (p : IntegerParts s) : (Int64.ofIntClamp p.value).toInt = p.value := by
  rw [toInt_ofIntClamp]
  unfold IntegerParts.value Sign.apply
  split
  · rename_i hfits
    obtain ⟨-, hfits⟩ := hfits
    split
    · omega
    · omega
  · omega

/-- A whole number outside the range is brought to the same end of it as the double that it is read as. -/
theorem ofIntClamp_double {n : Int} (hn : n.natAbs < 10 ^ 308) (hout : n < -2 ^ 63 ∨ 2 ^ 63 ≤ n) :
    ∃ d, doubleOf? n.natAbs 0 = some d ∧
      Int64.ofIntClamp (if n < 0 then -(d.truncate : Int) else d.truncate) = Int64.ofIntClamp n := by
  obtain ⟨d, hd, htruncate⟩ := exists_doubleOf? hn
  have hlarge := htruncate (by omega)
  refine ⟨d, hd, Int64.toInt_inj.mp ?_⟩
  rw [toInt_ofIntClamp, toInt_ofIntClamp]
  split
  · omega
  · omega

/-! ## Limits -/

/-- A number written without a fraction and an exponent, and with room for it. -/
inductive IsIntegerLiteral : Numeral → Prop where
  | whole {n : Int} (h : n.natAbs < 10 ^ 308) : IsIntegerLiteral (.whole n)
  | negativeZero : IsIntegerLiteral .negativeZero

/-- **The integer that a value means as a limit.** -/
inductive Means : Json → Int → Prop where
  | exact {n : Int} (hlow : -2 ^ 63 ≤ n) (hhigh : n < 2 ^ 63) : Means (.number (.whole n)) n
  | above {n : Int} (h : 2 ^ 63 ≤ n) : Means (.number (.whole n)) (2 ^ 63 - 1)
  | below {n : Int} (h : n < -2 ^ 63) : Means (.number (.whole n)) (-2 ^ 63)
  | negativeZero : Means (.number .negativeZero) 0
  | text {s : String} (p : IntegerParts s) : Means (.string s) p.value
  | bool (b : Bool) : Means (.bool b) 0
  | array (items : List Json) : Means (.array items) 0
  | object (members : List (String × Json)) : Means (.object members) 0

/-- Every value but null stands for a number, provided that its numeral does. -/
theorem exists_means {value : Json} (hnull : value ≠ .null)
    (hliteral : ∀ numeral, value = .number numeral → IsIntegerLiteral numeral) : ∃ n, Means value n := by
  cases value with
  | null => exact absurd rfl hnull
  | bool b => exact ⟨0, .bool b⟩
  | number numeral =>
    cases hliteral numeral rfl with
    | @whole n h =>
      by_cases hlow : n < -2 ^ 63
      · exact ⟨_, .below hlow⟩
      · by_cases hhigh : 2 ^ 63 ≤ n
        · exact ⟨_, .above hhigh⟩
        · exact ⟨n, .exact (by omega) (by omega)⟩
    | negativeZero => exact ⟨0, .negativeZero⟩
  | string s =>
    obtain ⟨p⟩ := nonempty_integerParts s
    exact ⟨p.value, .text p⟩
  | array items => exact ⟨0, .array items⟩
  | object members => exact ⟨0, .object members⟩

/-- **A limit is read as what it means.** -/
theorem lenientLimit_of_means {value : Json} {n : Int} (h : Means value n) :
    ∃ l, lenientLimit (some value) = some l ∧ l.toInt = n := by
  cases h with
  | exact hlow hhigh => exact ⟨_, rfl, by rw [toInt_ofIntClamp, Numeral.truncate]; omega⟩
  | above h => exact ⟨_, rfl, by rw [toInt_ofIntClamp, Numeral.truncate]; omega⟩
  | below h => exact ⟨_, rfl, by rw [toInt_ofIntClamp, Numeral.truncate]; omega⟩
  | negativeZero => exact ⟨_, rfl, by decide⟩
  | text p => exact ⟨_, rfl, by rw [leadingInteger_eq p, toInt_ofIntClamp_value]⟩
  | bool b => exact ⟨0, rfl, rfl⟩
  | array items => exact ⟨0, rfl, rfl⟩
  | object members => exact ⟨0, rfl, rfl⟩

/-- No limit is read exactly if the member is missing or null. -/
theorem lenientLimit_eq_none_iff {member : Option Json} :
    lenientLimit member = none ↔ member = none ∨ member = some .null := by
  cases member with
  | none => simp [lenientLimit]
  | some value => cases value <;> simp [lenientLimit]

/-- **The limit of a listing**, from the member of the arguments to the query. -/
structure ListingLimit (member : Option Json) (read : Option Int64) (limit : Option Nat) : Prop where
  /-- Only where no limit is given there is none. -/
  eq_none_iff : limit = none ↔ member = none ∨ member = some .null
  /-- Every other value means an integer. -/
  exists_means : ∀ value, member = some value → value ≠ .null → ∃ n, Means value n
  /-- The request holds this integer itself, not what is left of it modulo `2 ^ 64`, and the query its positive part. -/
  eq_of_means : ∀ value n, member = some value → Means value n →
    (∃ l, read = some l ∧ l.toInt = n) ∧ limit = some (max n 0).toNat
  /-- The limit fits into 63 bits. -/
  le : ∀ m, limit = some m → m ≤ 2 ^ 63 - 1
  /-- A whole number outside the range makes the limit that the double makes that it is read as. -/
  through_double : ∀ n, member = some (.number (.whole n)) → n < -2 ^ 63 ∨ 2 ^ 63 ≤ n →
    ∃ d, doubleOf? n.natAbs 0 = some d ∧
      read = some (Int64.ofIntClamp (if n < 0 then -(d.truncate : Int) else d.truncate))

/-- **A limit that is given is never dropped and never negative.** -/
theorem listingLimit_of_compile {members : List (String × Json)} {request : Request} {q : Query}
    {order : Option String} {limit : Option Nat} (hread : selectArguments (.object members) = .ok request)
    (hliteral : ∀ numeral, lookup members "limit" = some (.number numeral) → IsIntegerLiteral numeral)
    (hcompile : request.compile = .ok q) (hshape : q.shape = .rows order limit) :
    ListingLimit (lookup members "limit") request.limit limit := by
  have hlimit := (selectArguments_eq_ok_iff.mp hread).limit
  have hrows := (rows_of_compile hcompile hshape).2
  constructor
  case eq_none_iff => rw [hrows, Option.map_eq_none_iff, hlimit, lenientLimit_eq_none_iff]
  case exists_means =>
    intro value hvalue hnull
    exact Tools.exists_means hnull fun numeral hnumeral => hliteral numeral (by rw [hvalue, hnumeral])
  case eq_of_means =>
    intro value n hvalue hmeans
    obtain ⟨l, hl, hn⟩ := lenientLimit_of_means hmeans
    rw [hvalue, hl] at hlimit
    refine ⟨⟨l, hlimit, hn⟩, ?_⟩
    rw [hrows, hlimit, Option.map_some, hn]
    congr 1
    omega
  case le =>
    rintro m rfl
    exact limit_le_of_compile hcompile hshape
  case through_double =>
    intro n hn hout
    have hbound : n.natAbs < 10 ^ 308 := by
      cases hliteral _ hn with
      | whole h => exact h
    obtain ⟨d, hd, hclamp⟩ := ofIntClamp_double hbound hout
    refine ⟨d, hd, ?_⟩
    rw [hlimit, hn, hclamp]
    rfl

theorem lt_ten_pow_of_lt {n : Nat} (h : n < 10 ^ 20) : n < 10 ^ 308 :=
  Nat.lt_of_lt_of_le h (pow_le_pow_right₀ (by decide) (by decide))

/-- Arguments with a limit that does not fit. -/
def largeArguments : List (String × Json) :=
  [("model_name", .string "posts"), ("limit", .number (.whole (10 ^ 19)))]

/-- A limit beyond the range ends at the largest number that fits. -/
theorem listingLimit_largeArguments :
    selectArguments (.object largeArguments) = .ok { collection := some "posts", limit := some Int64.maxValue } ∧
      Request.compile { collection := some "posts", limit := some Int64.maxValue } =
        .ok ⟨"Post", none, .rows none (some (2 ^ 63 - 1))⟩ ∧
      ListingLimit (lookup largeArguments "limit") (some Int64.maxValue) (some (2 ^ 63 - 1)) := by
  have hread : selectArguments (.object largeArguments) =
      .ok { collection := some "posts", limit := some Int64.maxValue } := by rfl
  have hcompile : Request.compile { collection := some "posts", limit := some Int64.maxValue } =
      .ok ⟨"Post", none, .rows none (some (2 ^ 63 - 1))⟩ := by rfl
  have hlookup : lookup largeArguments "limit" = some (.number (.whole (10 ^ 19))) := by rfl
  refine ⟨hread, hcompile, listingLimit_of_compile hread ?_ hcompile rfl⟩
  intro numeral hnumeral
  rw [hlookup] at hnumeral
  injection hnumeral with hnumeral
  injection hnumeral with hnumeral
  rw [← hnumeral]
  exact .whole (lt_ten_pow_of_lt (by decide))

/-! ## A number and its text -/

theorem not_isBlank_of_isIntegerChar {c : Char} (h : isIntegerChar c = true) : isBlank c = false := by
  rw [isIntegerChar, Bool.or_eq_true, beq_iff_eq] at h
  rcases h with rfl | hdigit
  · decide
  · exact not_isBlank_of_isWord (isWord_of_isAsciiDigit hdigit)

/-- The sign of an integer. -/
def signOf (n : Int) : Sign :=
  if n < 0 then .minus else .none

/-- An integer is written as its sign and the digits of its absolute value. -/
theorem toString_toList_eq_sign (n : Int) :
    (toString n).toList = (signOf n).text ++ ((Nat.repr n.natAbs).toList ++ []) := by
  rw [toString_toList, List.append_nil]
  unfold signOf
  split
  · rfl
  · rfl

/-- The parts of an integer's own text. -/
def partsOfToString (n : Int) : IntegerParts (toString n) where
  blanks := []
  sign := signOf n
  digits := (Nat.repr n.natAbs).toList
  rest := []
  toList_eq := toString_toList_eq_sign n
  isBlank_of_mem := fun c hc => absurd hc List.not_mem_nil
  not_isBlank_of_head := by
    rw [← toString_toList_eq_sign]
    exact fun c hc => not_isBlank_of_isIntegerChar (isIntegerChar_of_mem_toString (List.mem_of_mem_head? hc))
  signless := by
    intro _ c hc
    rw [List.append_nil] at hc
    have hdigit := isAsciiDigit_of_mem_repr (List.mem_of_mem_head? hc)
    constructor
    · rintro rfl
      exact absurd hdigit (by decide)
    · rintro rfl
      exact absurd hdigit (by decide)
  isAsciiDigit_of_mem := fun c hc => isAsciiDigit_of_mem_repr hc
  not_isAsciiDigit_of_head := fun c hc => absurd hc (by simp)

/-- A written integer is read back as itself if its absolute value fits into 63 bits, and as zero if not. -/
theorem leadingInteger_toString (n : Int) :
    leadingInteger (toString n) = if n.natAbs ≤ 2 ^ 63 - 1 then n else 0 := by
  rw [leadingInteger_eq (partsOfToString n)]
  unfold IntegerParts.value Sign.apply partsOfToString signOf
  simp only [ofDigitChars_repr, ne_eq, repr_toList_ne_nil, not_false_eq_true, true_and]
  congr 1
  by_cases hneg : n < 0
  · rw [if_pos hneg, if_pos rfl]
    omega
  · rw [if_neg hneg, if_neg (by decide)]
    omega

/-- **A JSON text makes a limit**: put behind other arguments, it changes nothing but the limit, which is then this one. -/
def MakesLimit (text : String) (limit : Int) : Prop :=
  ∃ value l, parse? text = some value ∧ l.toInt = limit ∧ ∀ members : List (String × Json),
    selectArguments (.object (members ++ [("limit", value)])) =
      (selectArguments (.object members)).map fun request => { request with limit := some l }

/-- The limit that a JSON text makes is the one its value is read as. -/
theorem makesLimit_of_lenientLimit {text : String} {value : Json} {l : Int64} (hparse : parse? text = some value)
    (hlimit : lenientLimit (some value) = some l) : MakesLimit text l.toInt := by
  refine ⟨value, l, hparse, rfl, fun members => ?_⟩
  rw [← hlimit]
  refine requestOfMembers_of_limit (fun name hname => ?_) (lookup_append_cons_self List.not_mem_nil)
  rw [lookup_append_cons_of_ne hname.symm, List.append_nil]

/-- A text makes at most one limit. -/
theorem MakesLimit.unique {text : String} {m n : Int} (hm : MakesLimit text m) (hn : MakesLimit text n) : m = n := by
  obtain ⟨value, l, hvalue, rfl, hl⟩ := hm
  obtain ⟨value', l', hvalue', rfl, hl'⟩ := hn
  obtain rfl := Option.some.inj (hvalue.symm.trans hvalue')
  have hrequest := (hl []).symm.trans (hl' [])
  injection hrequest with hrequest
  injection hrequest with hcriteria
  injection hcriteria with _ _ hsome
  rw [Option.some.inj hsome]

/-- An integer given as a JSON number makes the nearest limit that fits. -/
theorem makesLimit_number {n : Int} (hn : n.natAbs < 10 ^ 308) :
    MakesLimit (toString n) (max (-2 ^ 63) (min n (2 ^ 63 - 1))) := by
  rw [← toInt_ofIntClamp]
  exact makesLimit_of_lenientLimit (parse?_toString hn) rfl

/-- An integer given as a JSON text makes itself, or zero where its absolute value does not fit. -/
theorem makesLimit_text (n : Int) :
    MakesLimit ("\"" ++ toString n ++ "\"") (if n.natAbs ≤ 2 ^ 63 - 1 then n else 0) := by
  have hvalue := toInt_ofIntClamp_value (partsOfToString n)
  rw [← leadingInteger_eq] at hvalue
  have hlimit := makesLimit_of_lenientLimit (parse?_quoted_toString n) rfl
  rw [← leadingInteger_toString, ← hvalue]
  exact hlimit

/-- **Which limits an integer makes**, as a number and as a text. -/
structure LimitsOf (n : Int) : Prop where
  /-- Between the ends of the range both limits are the integer. -/
  within : -2 ^ 63 < n → n < 2 ^ 63 → MakesLimit (toString n) n ∧ MakesLimit ("\"" ++ toString n ++ "\"") n
  /-- Beyond the ends a number makes the nearer end, and a text makes zero. -/
  above : 2 ^ 63 ≤ n → MakesLimit (toString n) (2 ^ 63 - 1) ∧ MakesLimit ("\"" ++ toString n ++ "\"") 0
  below : n < -2 ^ 63 → MakesLimit (toString n) (-2 ^ 63) ∧ MakesLimit ("\"" ++ toString n ++ "\"") 0

/-- **Numbers and their texts agree as limits** between the ends of the range, and not beyond them. -/
theorem limitsOf {n : Int} (hn : n.natAbs < 10 ^ 308) : LimitsOf n := by
  have hnumber := makesLimit_number hn
  have htext := makesLimit_text n
  constructor
  case within =>
    intro hlow hhigh
    rw [show max (-2 ^ 63) (min n (2 ^ 63 - 1)) = n by omega] at hnumber
    rw [if_pos (by omega)] at htext
    exact ⟨hnumber, htext⟩
  case above =>
    intro h
    rw [show max (-2 ^ 63) (min n (2 ^ 63 - 1)) = 2 ^ 63 - 1 by omega] at hnumber
    rw [if_neg (by omega)] at htext
    exact ⟨hnumber, htext⟩
  case below =>
    intro h
    rw [show max (-2 ^ 63) (min n (2 ^ 63 - 1)) = -2 ^ 63 by omega] at hnumber
    rw [if_neg (by omega)] at htext
    exact ⟨hnumber, htext⟩

/-- The law at a number below the range, where the two spellings part. -/
theorem limitsOf_neg_ten_pow : (-10 ^ 19 : Int).natAbs < 10 ^ 308 ∧ LimitsOf (-10 ^ 19) := by
  have hn : (-10 ^ 19 : Int).natAbs < 10 ^ 308 := lt_ten_pow_of_lt (by decide)
  exact ⟨hn, limitsOf hn⟩

/-- The least number beyond the range makes the greatest limit, and its text makes the limit zero. -/
theorem limits_differ : ¬ ∀ n : Int, n.natAbs < 10 ^ 308 →
    ∃ limit, MakesLimit (toString n) limit ∧ MakesLimit ("\"" ++ toString n ++ "\"") limit := by
  intro h
  have hn : (2 ^ 63 : Int).natAbs < 10 ^ 308 := lt_ten_pow_of_lt (by decide)
  obtain ⟨limit, hnumber, htext⟩ := h (2 ^ 63) hn
  have hgreatest := hnumber.unique (makesLimit_number hn)
  have hzero := htext.unique (makesLimit_text (2 ^ 63))
  rw [hgreatest] at hzero
  exact absurd hzero (by decide)

end RecordGate.Tools
