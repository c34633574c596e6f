import RecordGate.Proofs.Json.Numeral

/-!
# `RecordGate.Proofs.Json.RoundTrip` — values are read as they are written

The pretty form of a value is read back as this value, with every number and every member in its place
(`parse?_pretty`), unless a number in it is too great to be read at all (`Readable`).

A value is written in front of what follows it, and read in front of it too. So what is shown of a written value is how
it is read before any other text (`Represents`), as long as that does not continue a number. What is written between
brackets are parts with commas and white space between them, each of which represents an item or a member. Arrays and
objects differ in nothing else, and how much white space there is does not matter (`ReadsParts.represents`).
-/

namespace RecordGate.Json

/-! ## White space -/

/-- The characters are white space between tokens. -/
def IsGap (cs : List Char) : Prop :=
  ∀ c ∈ cs, isSpace c = true

section

variable {gap cs : List Char}

theorem skipSpace_append (h : IsGap gap) (cs : List Char) : skipSpace (gap ++ cs) = skipSpace cs :=
  List.dropWhile_append_of_pos h

theorem skipSpace_cons {c : Char} (h : isSpace c = false) (cs : List Char) : skipSpace (c :: cs) = c :: cs :=
  List.dropWhile_cons_of_neg (by simp [h])

/-- White space in front of a value is passed over. -/
theorem readValue?_append (h : IsGap gap) (fuel : Nat) (cs : List Char) :
    readValue? fuel (gap ++ cs) = readValue? fuel cs := by
  cases fuel with
  | zero => rfl
  | succ fuel =>
    unfold readValue?
    rw [skipSpace_append h]

/-- White space in front of items is passed over. -/
theorem readItems?_append (h : IsGap gap) (fuel : Nat) (cs : List Char) :
    readItems? fuel (gap ++ cs) = readItems? fuel cs := by
  cases fuel with
  | zero => rfl
  | succ fuel =>
    unfold readItems?
    rw [readValue?_append h]

/-- White space in front of members is passed over. -/
theorem readMembers?_append (h : IsGap gap) (fuel : Nat) (cs : List Char) :
    readMembers? fuel (gap ++ cs) = readMembers? fuel cs := by
  cases fuel with
  | zero => rfl
  | succ fuel =>
    unfold readMembers?
    rw [skipSpace_append h]

end

/-! ## Texts of values -/

/-- Nothing that stands here continues a number. -/
def EndsNumber (rest : List Char) : Prop :=
  ∀ c ∈ rest.head?, continuesNumber c = false

/-- **The characters represent a value.** -/
structure Represents (cs : List Char) (value : Json) : Prop where
  /-- They start with a character that is neither white space nor the end of an array. -/
  start : ∃ c t, cs = c :: t ∧ isSpace c = false ∧ c ≠ ']'
  /-- They are read as the value, in front of anything that does not continue a number. -/
  read : ∀ (fuel : Nat) (rest : List Char), cs.length ≤ fuel + 1 → EndsNumber rest →
    readValue? (fuel + 1) (cs ++ rest) = some (value, rest)

/-- **The characters represent a member of an object**: its name, a colon and its value. -/
def RepresentsMember (cs : List Char) (member : String × Json) : Prop :=
  ∃ gap text, IsGap gap ∧ Represents text member.2 ∧ cs = (stringText member.1).toList ++ ':' :: (gap ++ text)

/-- No white space continues a number. -/
theorem endsNumber_append {gap rest : List Char} (h : IsGap gap) (hrest : EndsNumber rest) :
    EndsNumber (gap ++ rest) := by
  cases gap with
  | nil => exact hrest
  | cons d gap =>
    rintro c ⟨⟩
    have hspace := h d List.mem_cons_self
    simp only [isSpace, Bool.or_eq_true, beq_iff_eq] at hspace
    rcases hspace with ((rfl | rfl) | rfl) | rfl
    all_goals rfl

theorem endsNumber_cons {c : Char} (h : continuesNumber c = false) (cs : List Char) : EndsNumber (c :: cs) := by
  rintro d ⟨⟩
  exact h

/-- A text represents itself. -/
theorem represents_stringText (s : String) : Represents (stringText s).toList (.string s) where
  start := ⟨'"', _, stringText_toList s, by decide, by decide⟩
  read := fun fuel rest _ _ => readValue?_stringText s fuel rest

/-- So does a number, if it can be read. -/
theorem represents_text {n : Numeral} (h : n.isFinite = true) : Represents n.text.toList (.number n) where
  start := by
    obtain ⟨c, t, hcons, hc⟩ := exists_text_eq_cons n
    refine ⟨c, t, hcons, ?_, ?_⟩
    · by_contra hspace
      simp only [isSpace, Bool.not_eq_false, Bool.or_eq_true, beq_iff_eq] at hspace
      rcases hspace with ((rfl | rfl) | rfl) | rfl
      all_goals exact absurd hc (by decide)
    · rintro rfl
      exact absurd hc (by decide)
  read := fun fuel _ _ hrest => readValue?_text h fuel hrest

/-! ## Parts between brackets -/

/-- **A reader takes parts one by one**, each with the comma or the closing bracket behind it. -/
structure ReadsParts {α : Type} (reader : Nat → List Char → Option (List α × List Char))
    (part : List Char → α → Prop) (close : Char) : Prop where
  /-- A part starts with a character that is neither white space nor the closing bracket. -/
  start : ∀ {cs x}, part cs x → ∃ c t, cs = c :: t ∧ isSpace c = false ∧ c ≠ close
  /-- The closing bracket is no white space, and no number goes on with it. -/
  closes : isSpace close = false ∧ continuesNumber close = false
  /-- White space in front of a part is passed over. -/
  skip : ∀ {gap}, IsGap gap → ∀ fuel cs, reader fuel (gap ++ cs) = reader fuel cs
  /-- A part in front of a closing bracket is the last one. -/
  last : ∀ {cs x rest rest' fuel}, part cs x → cs.length ≤ fuel + 1 → EndsNumber rest →
    skipSpace rest = close :: rest' → reader (fuel + 2) (cs ++ rest) = some ([x], rest')
  /-- Behind a part and a comma there are more. -/
  next : ∀ {cs x xs rest rest' left fuel}, part cs x → cs.length ≤ fuel + 1 → EndsNumber rest →
    skipSpace rest = ',' :: rest' → reader (fuel + 1) rest' = some (xs, left) →
      reader (fuel + 2) (cs ++ rest) = some (x :: xs, left)

section

variable {α : Type} {reader : Nat → List Char → Option (List α × List Char)} {part : List Char → α → Prop}
  {close : Char} {first gap last : List Char} {parts : List (List Char)} {xs : List α}

/-- **Parts with commas and white space between them** are read up to the closing bracket. -/
theorem ReadsParts.intercalate (h : ReadsParts reader part close) (hgap : IsGap gap) (hlast : IsGap last)
    (hparts : List.Forall₂ part parts xs) (hne : xs ≠ []) (rest : List Char) {fuel : Nat}
    (hfuel : (List.intercalate (',' :: gap) parts).length < fuel) :
    reader fuel (List.intercalate (',' :: gap) parts ++ (last ++ close :: rest)) = some (xs, rest) := by
  induction hparts generalizing fuel with
  | nil => exact absurd rfl hne
  | @cons cs x parts xs hpart hparts ih =>
    -- each part takes one unit of fuel, which its first character pays for
    have hpos : 0 < cs.length := by
      obtain ⟨c, t, rfl, -, -⟩ := h.start hpart
      exact Nat.zero_lt_succ t.length
    cases hparts with
    | nil =>
      rw [List.intercalate_singleton] at hfuel ⊢
      obtain ⟨fuel, rfl⟩ : ∃ f, fuel = f + 2 := ⟨fuel - 2, by omega⟩
      refine h.last hpart (by omega) (endsNumber_append hlast (endsNumber_cons h.closes.2 rest)) ?_
      rw [skipSpace_append hlast, skipSpace_cons h.closes.1]
    | @cons next y parts xs hnext hparts =>
      rw [List.intercalate_cons_cons] at hfuel ⊢
      simp only [List.length_append, List.length_cons] at hfuel
      obtain ⟨fuel, rfl⟩ : ∃ f, fuel = f + 2 := ⟨fuel - 2, by omega⟩
      have hlength : (List.intercalate (',' :: gap) (next :: parts)).length < fuel + 1 := by omega
      rw [List.append_assoc, List.append_assoc, List.cons_append]
      refine h.next hpart (by omega) (endsNumber_cons rfl _) (skipSpace_cons (by decide) _) ?_
      rw [h.skip hgap, ih (by simp) hlength]

/-- Joined parts start as the first of them does. -/
theorem ReadsParts.exists_intercalate_eq_cons (h : ReadsParts reader part close)
    (hparts : List.Forall₂ part parts xs) (hne : xs ≠ []) (separator : List Char) :
    ∃ c t, List.intercalate separator parts = c :: t ∧ isSpace c = false ∧ c ≠ close := by
  cases hparts with
  | nil => exact absurd rfl hne
  | @cons cs x parts xs hpart hparts =>
    obtain ⟨c, t, rfl, hspace, hc⟩ := h.start hpart
    cases parts with
    | nil => exact ⟨c, t, List.intercalate_singleton, hspace, hc⟩
    | cons next parts => exact ⟨c, _, List.intercalate_cons_cons, hspace, hc⟩

/-- **Parts between brackets represent the value that is made of them**, if the reader of the parts is what takes over
    behind the opening bracket. -/
theorem ReadsParts.represents (h : ReadsParts reader part close) {opening : Char} {value : List α → Json}
    (hopening : isSpace opening = false ∧ opening ≠ ']')
    (hbehind : ∀ {cs rest c}, skipSpace cs = c :: rest → c ≠ close → ∀ fuel, readValue? (fuel + 1) (opening :: cs) =
      (reader fuel (c :: rest)).map fun (xs, rest) => (value xs, rest))
    (hfirst : IsGap first) (hgap : IsGap gap) (hlast : IsGap last) (hparts : List.Forall₂ part parts xs)
    (hne : xs ≠ []) :
    Represents (opening :: (first ++ (List.intercalate (',' :: gap) parts ++ (last ++ [close])))) (value xs) where
  start := ⟨opening, _, rfl, hopening.1, hopening.2⟩
  read := by
    intro fuel rest hfuel _
    simp only [List.length_cons, List.length_append, List.length_nil] at hfuel
    have hlength : (List.intercalate (',' :: gap) parts).length < fuel := by omega
    have hread := h.intercalate hgap hlast hparts hne rest hlength
    obtain ⟨c, t, hjoined, hspace, hc⟩ := h.exists_intercalate_eq_cons hparts hne (',' :: gap)
    have hskip : skipSpace (first ++ (c :: (t ++ (last ++ close :: rest)))) = c :: (t ++ (last ++ close :: rest)) := by
      rw [skipSpace_append hfirst, skipSpace_cons hspace]
    rw [hjoined, List.cons_append] at hread
    simp only [hjoined, List.cons_append, List.append_assoc, List.nil_append]
    rw [hbehind hskip hc, hread]
    rfl

end

/-- Items of an array are read one by one. -/
theorem readsParts_readItems? : ReadsParts readItems? Represents ']' where
  start := Represents.start
  closes := ⟨by decide, by decide⟩
  skip := readItems?_append
  last := by
    intro cs item rest rest' fuel h hfuel hrest hclose
    unfold readItems?
    simp only [h.read fuel rest hfuel hrest, hclose, Option.bind_eq_bind, Option.bind_some]
  next := by
    intro cs item items rest rest' left fuel h hfuel hrest hcomma hmore
    unfold readItems?
    simp only [h.read fuel rest hfuel hrest, hcomma, hmore, Option.bind_eq_bind, Option.bind_some]

/-- The characters of a member are read as its name and its value. -/
theorem RepresentsMember.exists_reads {cs : List Char} {member : String × Json} (h : RepresentsMember cs member)
    {fuel : Nat} (hfuel : cs.length ≤ fuel + 1) {rest : List Char} (hrest : EndsNumber rest) :
    ∃ body behind, cs ++ rest = '"' :: body ∧
      stringBody? (body.length + 1) body = some (member.1.toList, ':' :: behind) ∧
      readValue? (fuel + 1) behind = some (member.2, rest) := by
  obtain ⟨gap, text, hgap, htext, rfl⟩ := h
  rw [List.length_append, List.length_cons, List.length_append] at hfuel
  refine ⟨_, gap ++ (text ++ rest), ?_, stringBody?_text member.1 (':' :: (gap ++ (text ++ rest))), ?_⟩
  · simp only [stringText_toList, List.cons_append, List.append_assoc, List.nil_append]
  · rw [readValue?_append hgap]
    exact htext.read fuel rest (by omega) hrest

/-- So are members of an object. -/
theorem readsParts_readMembers? : ReadsParts readMembers? RepresentsMember '\x7d' where
  start := by
    rintro cs member ⟨gap, text, -, -, rfl⟩
    rw [stringText_toList]
    exact ⟨'"', _, rfl, by decide, by decide⟩
  closes := ⟨by decide, by decide⟩
  skip := readMembers?_append
  last := by
    intro cs member rest rest' fuel h hfuel hrest hclose
    obtain ⟨body, behind, hcs, hbody, hread⟩ := h.exists_reads hfuel hrest
    rw [hcs]
    unfold readMembers?
    simp only [skipSpace_cons (c := '"') (by decide), hbody, skipSpace_cons (c := ':') (by decide), hread, hclose,
      Option.bind_eq_bind, Option.bind_some, String.ofList_toList]
  next := by
    intro cs member members rest rest' left fuel h hfuel hrest hcomma hmore
    obtain ⟨body, behind, hcs, hbody, hread⟩ := h.exists_reads hfuel hrest
    rw [hcs]
    unfold readMembers?
    simp only [skipSpace_cons (c := '"') (by decide), hbody, skipSpace_cons (c := ':') (by decide), hread, hcomma,
      hmore, Option.bind_eq_bind, Option.bind_some, String.ofList_toList]

/-! ## Arrays and objects -/

section

variable {first gap last : List Char} {parts : List (List Char)}

/-- Behind an opening bracket come items, unless it is closed at once. -/
theorem readValue?_bracket {cs rest : List Char} {c : Char} (hspace : skipSpace cs = c :: rest) (hc : c ≠ ']')
    (fuel : Nat) : readValue? (fuel + 1) ('[' :: cs) =
      (readItems? fuel (c :: rest)).map fun (items, rest) => (.array items, rest) := by
  unfold readValue?
  simp only [skipSpace_cons (c := '[') (by decide), hspace, List.cons.injEq, hc, false_and, imp_self, implies_true]

/-- Behind an opening brace come members, unless it is closed at once. -/
theorem readValue?_brace {cs rest : List Char} {c : Char} (hspace : skipSpace cs = c :: rest) (hc : c ≠ '\x7d')
    (fuel : Nat) : readValue? (fuel + 1) ('\x7b' :: cs) =
      (readMembers? fuel (c :: rest)).map fun (members, rest) => (.object members, rest) := by
  unfold readValue?
  simp only [skipSpace_cons (c := '\x7b') (by decide), hspace, List.cons.injEq, hc, false_and, imp_self, implies_true]

/-- Two brackets represent the array without items. -/
theorem represents_array_nil : Represents ['[', ']'] (.array []) where
  start := ⟨'[', _, rfl, by decide, by decide⟩
  read := fun _ _ _ _ => rfl

/-- Two braces represent the object without members. -/
theorem represents_object_nil : Represents ['\x7b', '\x7d'] (.object []) where
  start := ⟨'\x7b', _, rfl, by decide, by decide⟩
  read := fun _ _ _ _ => rfl

/-- **Items between brackets represent an array.** -/
theorem represents_array (hfirst : IsGap first) (hgap : IsGap gap) (hlast : IsGap last) {items : List Json}
    (h : List.Forall₂ Represents parts items) (hne : items ≠ []) :
    Represents ('[' :: (first ++ (List.intercalate (',' :: gap) parts ++ (last ++ [']'])))) (.array items) :=
  readsParts_readItems?.represents ⟨by decide, by decide⟩ readValue?_bracket hfirst hgap hlast h hne

/-- **Members between braces represent an object.** -/
theorem represents_object (hfirst : IsGap first) (hgap : IsGap gap) (hlast : IsGap last)
    {members : List (String × Json)} (h : List.Forall₂ RepresentsMember parts members) (hne : members ≠ []) :
    Represents ('\x7b' :: (first ++ (List.intercalate (',' :: gap) parts ++ (last ++ ['\x7d']))))
      (.object members) :=
  readsParts_readMembers?.represents ⟨by decide, by decide⟩ readValue?_brace hfirst hgap hlast h hne

end

/-! ## Values -/

/-- **Every number in the value is small enough to be read.** -/
inductive Readable : Json → Prop where
  | null : Readable .null
  | bool (b : Bool) : Readable (.bool b)
  | number {n : Numeral} (h : n.isFinite = true) : Readable (.number n)
  | string (s : String) : Readable (.string s)
  | array {items : List Json} (h : ∀ item ∈ items, Readable item) : Readable (.array items)
  | object {members : List (String × Json)} (h : ∀ member ∈ members, Readable member.2) : Readable (.object members)

/-- A new line is white space, at any depth. -/
theorem isGap_newLine (depth : Nat) : IsGap (newLine depth).toList := by
  unfold newLine
  rw [String.toList_ofList]
  intro c hc
  rcases List.mem_cons.mp hc with rfl | hc
  · rfl
  · rw [(List.mem_replicate.mp hc).2]
    rfl

/-- Items are written one by one. -/
theorem prettyItems_eq (depth : Nat) (items : List Json) : prettyItems depth items = items.map (prettyAt depth) := by
  induction items with
  | nil => rfl
  | cons item items ih => rw [prettyItems, ih, List.map_cons]

/-- Members are written one by one, each behind its name. -/
theorem prettyMembers_eq (depth : Nat) (members : List (String × Json)) :
    prettyMembers depth members = members.map fun m => stringText m.1 ++ ": " ++ prettyAt depth m.2 := by
  induction members with
  | nil => rfl
  | cons member members ih => rw [prettyMembers, ih, List.map_cons]

/-- Without parts the brackets stand next to each other. -/
theorem block_nil_toList (depth : Nat) (opening closing : String) :
    (block depth opening closing []).toList = opening.toList ++ closing.toList := by
  unfold block
  rw [List.isEmpty_nil, if_pos rfl, String.toList_append]

/-- Parts between brackets are joined by commas and new lines, and have new lines around them. -/
theorem block_toList {depth : Nat} {opening closing : String} {parts : List String} (hne : parts ≠ []) :
    (block depth opening closing parts).toList = opening.toList ++ ((newLine (depth + 1)).toList ++
      (List.intercalate (',' :: (newLine (depth + 1)).toList) (parts.map String.toList) ++
        ((newLine depth).toList ++ closing.toList))) := by
  have hempty : parts.isEmpty = false := List.isEmpty_eq_false_iff.mpr hne
  unfold block
  rw [hempty, if_neg (by decide)]
  simp only [String.toList_append, String.toList_intercalate, List.append_assoc]
  rfl

/-- **The pretty form represents its value**, at any depth. -/
theorem represents_prettyAt {value : Json} (h : Readable value) (depth : Nat) :
    Represents (prettyAt depth value).toList value := by
  induction h generalizing depth with
  | null =>
    rw [prettyAt]
    exact ⟨⟨'n', _, rfl, by decide, by decide⟩, fun _ _ _ _ => rfl⟩
  | bool b =>
    cases b with
    | true =>
      rw [prettyAt]
      exact ⟨⟨'t', _, rfl, by decide, by decide⟩, fun _ _ _ _ => rfl⟩
    | false =>
      rw [prettyAt]
      exact ⟨⟨'f', _, rfl, by decide, by decide⟩, fun _ _ _ _ => rfl⟩
  | number hn =>
    rw [prettyAt]
    exact represents_text hn
  | string s =>
    rw [prettyAt]
    exact represents_stringText s
  | @array items _ ih =>
    -- without items there are no new lines between the brackets
    by_cases hne : items = []
    · rw [hne, prettyAt, prettyItems, block_nil_toList]
      exact represents_array_nil
    · have hparts : List.Forall₂ Represents ((items.map (prettyAt (depth + 1))).map String.toList) items := by
        rw [List.map_map, List.forall₂_map_left_iff, List.forall₂_same]
        exact fun item hitem => ih item hitem (depth + 1)
      rw [prettyAt, prettyItems_eq, block_toList (by simpa using hne)]
      exact represents_array (isGap_newLine _) (isGap_newLine _) (isGap_newLine _) hparts hne
  | @object members _ ih =>
    by_cases hne : members = []
    · rw [hne, prettyAt, prettyMembers, block_nil_toList]
      exact represents_object_nil
    · have hparts : List.Forall₂ RepresentsMember ((members.map fun m =>
          stringText m.1 ++ ": " ++ prettyAt (depth + 1) m.2).map String.toList) members := by
        rw [List.map_map, List.forall₂_map_left_iff, List.forall₂_same]
        intro member hmember
        refine ⟨[' '], _, ?_, ih member hmember (depth + 1), ?_⟩
        · intro c hc
          rw [List.mem_singleton.mp hc]
          rfl
        · simp only [Function.comp, String.toList_append, List.append_assoc]
          rfl
      rw [prettyAt, prettyMembers_eq, block_toList (by simpa using hne)]
      exact represents_object (isGap_newLine _) (isGap_newLine _) (isGap_newLine _) hparts hne

/-- **A value is read back from its pretty form**, unless a number in it is too great to be read. -/
theorem parse?_pretty {value : Json} (h : Readable value) : parse? (pretty value) = some value := by
  have hread := (represents_prettyAt h 0).read (pretty value).toList.length [] (Nat.le_succ _) (by simp [EndsNumber])
  rw [List.append_nil] at hread
  exact parse?_eq_some hread

end RecordGate.Json
