import RecordGate.Fragment.Aggregate
import RecordGate.Proofs.Fragment.Condition

/-!
# `RecordGate.Proofs.Fragment.Aggregate` — how an aggregate statement is opened

A statement is opened in steps, each with an equivalence that says exactly what it accepts and what it finds there:
the name of a function and what follows it (`aggregate?_eq_some_iff`), the argument between the parentheses
(`argument?_eq_some_iff`), the column an argument refers to (`column?_eq_some_iff`), and the reduction they ask for
(`applied?_eq_some_iff`). Every step leaves a piece of the one before, with no word across its ends, so the column
is a piece of the statement (`isPiece_of_aggregate?`).
-/

namespace RecordGate.Fragment

open Text

/-! ## Column names -/

/-- An identifier, or two of them joined by a dot. -/
def IsColumnName (cs : List Char) : Prop :=
  isIdentifier cs = true ∨ ∃ table column, cs = table ++ '.' :: column ∧
    isIdentifier table = true ∧ isIdentifier column = true

theorem isNamePart_of_isIdentifier {cs : List Char} (h : isIdentifier cs = true) :
    ∀ c ∈ cs, isNamePart c = true := by
  cases cs with
  | nil => exact absurd h (by simp [isIdentifier])
  | cons c cs =>
    simp only [isIdentifier, Bool.and_eq_true, List.all_eq_true] at h
    intro d hd
    rcases List.mem_cons.mp hd with rfl | hd
    · have hd := h.1
      simp only [isNameStart, Bool.or_eq_true, beq_iff_eq] at hd
      exact hd.elim isNamePart_of_isLetter fun hs => isNamePart_iff.mpr (Or.inr hs)
    · exact h.2 d hd

theorem bne_dot_of_isIdentifier {cs : List Char} (h : isIdentifier cs = true) : ∀ c ∈ cs, (c != '.') = true := by
  intro c hc
  rw [bne_iff_ne]
  rintro rfl
  exact absurd (isNamePart_of_isIdentifier h '.' hc) (by decide)

/-- What is tested of a column is what its grammar says. -/
theorem isColumn_iff {cs : List Char} : isColumn cs = true ↔ IsColumnName cs := by
  constructor
  · intro h
    unfold isColumn at h
    split at h
    · exact Or.inl h
    · rename_i dot column hdrop
      right
      rw [Bool.and_eq_true] at h
      -- what follows the characters other than a dot starts with one
      have hdot : dot = '.' := by
        have hne : cs.dropWhile (· != '.') ≠ [] := by rw [hdrop]; exact List.cons_ne_nil dot column
        have hhead := List.head_dropWhile_not (fun c => c != '.') hne
        simpa [hdrop] using hhead
      refine ⟨cs.takeWhile (· != '.'), column, ?_, h.1, h.2⟩
      subst hdot
      rw [← hdrop, List.takeWhile_append_dropWhile]
  · rintro (h | ⟨table, column, rfl, htable, hcolumn⟩)
    · have hdrop : (cs ++ []).dropWhile (· != '.') = [] :=
        List.dropWhile_append_of_pos (bne_dot_of_isIdentifier h)
      rw [List.append_nil] at hdrop
      unfold isColumn
      rw [hdrop]
      exact h
    · -- an identifier has no dot, so the first one is that between the two
      have hdots := bne_dot_of_isIdentifier htable
      have hdrop : (table ++ '.' :: column).dropWhile (· != '.') = '.' :: column :=
        List.dropWhile_append_of_pos hdots
      have htake : (table ++ '.' :: column).takeWhile (· != '.') = table := by
        rw [List.takeWhile_append_of_pos hdots]
        exact List.append_nil table
      unfold isColumn
      rw [hdrop]
      simp only [htake, htable, hcolumn, Bool.and_self]

/-- A column name starts with a letter or `_`. -/
theorem exists_cons_of_isColumnName {cs : List Char} (h : IsColumnName cs) :
    ∃ c ds, cs = c :: ds ∧ isNameStart c = true := by
  have hstart : ∀ {ds}, isIdentifier ds = true → ∃ c es, ds = c :: es ∧ isNameStart c = true := by
    intro ds hds
    cases ds with
    | nil => exact absurd hds (by simp [isIdentifier])
    | cons c es =>
      simp only [isIdentifier, Bool.and_eq_true] at hds
      exact ⟨c, es, rfl, hds.1⟩
  rcases h with h | ⟨table, column, rfl, htable, -⟩
  · exact hstart h
  · obtain ⟨c, es, rfl, hc⟩ := hstart htable
    exact ⟨c, es ++ '.' :: column, rfl, hc⟩

/-! ## References to columns -/

/-- The ways to refer to a column of this name: bare, behind a colon, or in quotation marks of either kind. -/
inductive RefersTo (name : List Char) : List Char → Prop where
  | bare : RefersTo name name
  | colon : RefersTo name (':' :: name)
  | double : RefersTo name ('"' :: (name ++ ['"']))
  | single : RefersTo name ('\'' :: (name ++ ['\'']))

/-- A mark is taken off only where it stands at the very end. -/
theorem beforeMark?_eq_some_iff {mark : Char} {cs ds : List Char} :
    beforeMark? mark cs = some ds ↔ cs = ds ++ [mark] := by
  simp only [beforeMark?, Option.ite_none_right_eq_some, beq_iff_eq, Option.some.injEq]
  constructor
  · rintro ⟨hlast, rfl⟩
    obtain ⟨es, rfl⟩ := List.getLast?_eq_some_iff.mp hlast
    simp
  · rintro rfl
    simp

/-- A reference refers to what is left of it without its marks. -/
theorem refersTo_bareColumn (reference : List Char) : RefersTo (bareColumn reference) reference := by
  unfold bareColumn
  split
  · exact .colon
  · rename_i cs
    cases hb : beforeMark? '"' cs with
    | none => exact .bare
    | some ds =>
      obtain rfl := beforeMark?_eq_some_iff.mp hb
      exact .double
  · rename_i cs
    cases hb : beforeMark? '\'' cs with
    | none => exact .bare
    | some ds =>
      obtain rfl := beforeMark?_eq_some_iff.mp hb
      exact .single
  · exact .bare

/-- A reference to a column name is a reference to no other text. -/
theorem bareColumn_of_refersTo {name reference : List Char} (hname : IsColumnName name)
    (h : RefersTo name reference) : bareColumn reference = name := by
  cases h with
  | bare =>
    -- the name itself does not start with a colon or a quotation mark
    obtain ⟨c, ds, rfl, hc⟩ := exists_cons_of_isColumnName hname
    unfold bareColumn
    split
    · rename_i heq
      exact absurd ((List.cons.inj heq).1 ▸ hc) (by decide)
    · rename_i heq
      exact absurd ((List.cons.inj heq).1 ▸ hc) (by decide)
    · rename_i heq
      exact absurd ((List.cons.inj heq).1 ▸ hc) (by decide)
    · rfl
  | colon => rfl
  | double =>
    show (beforeMark? '"' (name ++ ['"'])).getD _ = name
    rw [beforeMark?_eq_some_iff.mpr rfl, Option.getD_some]
  | single =>
    show (beforeMark? '\'' (name ++ ['\''])).getD _ = name
    rw [beforeMark?_eq_some_iff.mpr rfl, Option.getD_some]

/-- **Which column a reference names.** -/
theorem column?_eq_some_iff {reference : List Char} {column : String} :
    column? reference = some column ↔
      ∃ name, RefersTo name reference ∧ IsColumnName name ∧ column = String.ofList name := by
  simp only [column?, Option.ite_none_right_eq_some, Option.some.injEq, isColumn_iff]
  constructor
  · rintro ⟨hname, rfl⟩
    exact ⟨_, refersTo_bareColumn reference, hname, rfl⟩
  · rintro ⟨name, href, hname, rfl⟩
    rw [bareColumn_of_refersTo hname href]
    exact ⟨hname, rfl⟩

/-- Nothing is no column, since a column has a first character. -/
theorem column?_nil : column? [] = none := by
  decide

/-- What surrounds the name in a reference are no word characters. -/
theorem isPiece_of_refersTo {name reference : List Char} (h : RefersTo name reference) : IsPiece name reference := by
  have hmark : ∀ {mark : Char}, isWord mark = false → ∀ c ∈ [mark], isWord c = false :=
    fun hm c hc => List.mem_singleton.mp hc ▸ hm
  have hnone : ∀ c ∈ ([] : List Char), isWord c = false := fun c hc => absurd hc List.not_mem_nil
  cases h with
  | bare =>
    have hpiece : IsPiece name ([] ++ name ++ []) := isPiece_of_not_isWord hnone hnone
    simpa using hpiece
  | colon =>
    have hpiece : IsPiece name ([':'] ++ name ++ []) := isPiece_of_not_isWord (hmark (by decide)) hnone
    simpa using hpiece
  | double => exact isPiece_of_not_isWord (a := ['"']) (b := ['"']) (hmark (by decide)) (hmark (by decide))
  | single => exact isPiece_of_not_isWord (a := ['\'']) (b := ['\'']) (hmark (by decide)) (hmark (by decide))

/-! ## Functions -/

/-- The names of the functions. -/
inductive NameOf : ColumnFunction → String → Prop where
  | count : NameOf .count "count"
  | sum : NameOf .sum "sum"
  | average : NameOf .average "average"
  | avg : NameOf .average "avg"
  | minimum : NameOf .minimum "minimum"
  | min : NameOf .minimum "min"
  | maximum : NameOf .maximum "maximum"
  | max : NameOf .maximum "max"

/-- `name` is a name of the function, whatever the case of its ASCII letters. -/
def Calls (name : List Char) (function : ColumnFunction) : Prop :=
  ∃ w, NameOf function w ∧ name.map lower = w.toList

/-- The names of a reduction are those in the table that the reader looks them up in. -/
theorem nameOf_iff_mem {function : ColumnFunction} {w : String} :
    NameOf function w ↔ (w, function) ∈ functionNames := by
  constructor
  · intro h
    cases h with
    | count | sum | average | avg | minimum | min | maximum | max => decide
  · intro h
    simp only [functionNames, List.mem_cons, Prod.mk.injEq, List.not_mem_nil, or_false] at h
    rcases h with ⟨rfl, rfl⟩ | ⟨rfl, rfl⟩ | ⟨rfl, rfl⟩ | ⟨rfl, rfl⟩ | ⟨rfl, rfl⟩ | ⟨rfl, rfl⟩ | ⟨rfl, rfl⟩ | ⟨rfl, rfl⟩
    · exact .count
    · exact .sum
    · exact .average
    · exact .avg
    · exact .minimum
    · exact .min
    · exact .maximum
    · exact .max

/-- **Which function a name calls.** -/
theorem function?_eq_some_iff {name : List Char} {function : ColumnFunction} :
    function? name = some function ↔ Calls name function := by
  unfold function?
  constructor
  · intro h
    obtain ⟨⟨w, f⟩, hfind, rfl⟩ := Option.map_eq_some_iff.mp h
    refine ⟨w, nameOf_iff_mem.mpr (List.mem_of_find?_eq_some hfind), ?_⟩
    have heq := List.find?_some hfind
    exact (beq_iff_eq.mp heq).symm
  · rintro ⟨w, hw, hname⟩
    rw [hname]
    cases hw with
    | count | sum | average | avg | minimum | min | maximum | max => decide

/-- A function's name consists of letters. -/
theorem isLetter_of_calls {name : List Char} {function : ColumnFunction} (h : Calls name function) :
    ∀ c ∈ name, isLetter c = true := by
  have hall : functionNames.all (fun entry => entry.1.toList.all isLower) = true := by decide
  obtain ⟨w, hw, heq⟩ := h
  intro c hc
  have hletters := List.all_eq_true.mp (List.all_eq_true.mp hall _ (nameOf_iff_mem.mp hw))
  exact isLower_lower_iff.mp (hletters (lower c) (heq ▸ List.mem_map_of_mem hc))

/-! ## Statements -/

/-- **What stands between the parentheses**, if there are any. -/
theorem argument?_eq_some_iff {cs argument : List Char} :
    argument? cs = some argument ↔ cs = [] ∧ argument = [] ∨
      ∃ inner, cs = '(' :: (inner ++ [')']) ∧ (∀ c ∈ inner, c ≠ '(' ∧ c ≠ ')') ∧ argument = trim inner := by
  have hparens : ∀ inner : List Char, (inner.any fun c => c == '(' || c == ')') = false ↔
      ∀ c ∈ inner, c ≠ '(' ∧ c ≠ ')' := by
    intro inner
    simp only [List.any_eq_false, Bool.or_eq_true, beq_iff_eq, not_or, ne_eq]
  constructor
  · intro h
    unfold argument? at h
    split at h
    · exact Or.inl ⟨rfl, (Option.some.inj h).symm⟩
    · right
      obtain ⟨inner, hinner, harg⟩ := Option.bind_eq_some_iff.mp h
      rw [beforeMark?_eq_some_iff] at hinner
      simp only [Option.ite_none_left_eq_some, Bool.not_eq_true, Option.some.injEq] at harg
      exact ⟨inner, by rw [hinner], (hparens inner).mp harg.1, harg.2.symm⟩
    · exact absurd h (by simp)
  · rintro (⟨rfl, rfl⟩ | ⟨inner, rfl, hinner, rfl⟩)
    · rfl
    · show (beforeMark? ')' (inner ++ [')'])).bind _ = _
      rw [beforeMark?_eq_some_iff.mpr rfl, Option.bind_some, if_neg]
      rw [(hparens inner).mpr hinner]
      decide

/-- **What a function and its argument ask for**: the number of records, or a function of a column. -/
theorem applied?_eq_some_iff {function : ColumnFunction} {argument : List Char} {aggregate : Aggregate} :
    applied? function argument = some aggregate ↔
      (function = .count ∧ (argument = [] ∨ argument = ['*']) ∧ aggregate = .count) ∨
        ∃ column, column? argument = some column ∧ aggregate = .column function column := by
  have hstar : column? ['*'] = none := by decide
  unfold applied?
  split
  · rename_i hbare
    simp only [Bool.or_eq_true, List.isEmpty_iff, Bool.and_eq_true, beq_iff_eq] at hbare
    simp only [Option.ite_none_right_eq_some, beq_iff_eq, Option.some.injEq]
    constructor
    · rintro ⟨hcount, rfl⟩
      exact Or.inl ⟨hcount, hbare.imp id And.left, rfl⟩
    · rintro (⟨hcount, -, rfl⟩ | ⟨column, hcolumn, -⟩)
      · exact ⟨hcount, rfl⟩
      · -- neither of the two arguments that need no column refers to one
        rcases hbare with rfl | ⟨rfl, -⟩
        · exact absurd (column?_nil.symm.trans hcolumn) (by simp)
        · exact absurd (hstar.symm.trans hcolumn) (by simp)
  · rename_i hbare
    simp only [Bool.or_eq_true, List.isEmpty_iff, Bool.and_eq_true, beq_iff_eq, not_or, not_and] at hbare
    rw [Option.map_eq_some_iff]
    constructor
    · rintro ⟨column, hcolumn, rfl⟩
      exact Or.inr ⟨column, hcolumn, rfl⟩
    · rintro (⟨hcount, rfl | rfl, -⟩ | ⟨column, hcolumn, rfl⟩)
      · exact absurd rfl hbare.1
      · exact absurd hcount (hbare.2 rfl)
      · exact ⟨column, hcolumn, rfl⟩

/-- A character of a function's name, as a statement is read. -/
def isFunctionChar (c : Char) : Bool :=
  !isBlank c && c != '('

theorem isFunctionChar_of_isLetter {c : Char} (h : isLetter c = true) : isFunctionChar c = true := by
  simp only [isFunctionChar, Bool.and_eq_true, Bool.not_eq_true', bne_iff_ne]
  refine ⟨?_, ?_⟩
  · exact not_isBlank_of_isWord (isWord_of_isLetter h)
  · rintro rfl
    exact absurd h (by decide)

/-- The reader in three steps: the letters in front, then the argument in parentheses behind them, then both together.
    -/
theorem aggregate?_eq (s : String) :
    aggregate? s = (function? ((trim s.toList).takeWhile isFunctionChar)).bind fun function =>
      (argument? (trimStart ((trim s.toList).drop ((trim s.toList).takeWhile isFunctionChar).length))).bind
        (applied? function) :=
  rfl

/-- An argument starts with a parenthesis, if at all. -/
theorem trimStart_of_argument? {rest argument : List Char} (h : argument? rest = some argument) :
    trimStart rest = rest ∧ rest.takeWhile isFunctionChar = [] := by
  obtain ⟨rfl, -⟩ | ⟨inner, rfl, -, -⟩ := argument?_eq_some_iff.mp h
  · exact ⟨rfl, rfl⟩
  · exact ⟨trimStart_cons_of_not_isBlank (by decide), List.takeWhile_cons_of_neg (by decide)⟩

/-- **What a statement consists of**: the name of a function, white space, and an argument. -/
theorem aggregate?_eq_some_iff {s : String} {aggregate : Aggregate} :
    aggregate? s = some aggregate ↔ ∃ name blanks rest function argument,
      trim s.toList = name ++ (blanks ++ rest) ∧ Calls name function ∧ (∀ c ∈ blanks, isBlank c = true) ∧
        argument? rest = some argument ∧ applied? function argument = some aggregate := by
  rw [aggregate?_eq]
  generalize trim s.toList = cs
  simp only [Option.bind_eq_some_iff, function?_eq_some_iff]
  constructor
  · rintro ⟨function, hcalls, argument, hargument, happlied⟩
    obtain ⟨blanks, hrest, hblanks⟩ := exists_append_trimStart (cs.drop (cs.takeWhile isFunctionChar).length)
    refine ⟨_, blanks, _, function, argument, ?_, hcalls, hblanks, hargument, happlied⟩
    have htake := List.prefix_iff_eq_take.mp (List.takeWhile_prefix isFunctionChar (l := cs))
    calc cs = cs.take _ ++ cs.drop (cs.takeWhile isFunctionChar).length := (List.take_append_drop _ cs).symm
      _ = cs.takeWhile isFunctionChar ++ _ := by rw [← htake, ← hrest]
  · rintro ⟨name, blanks, rest, function, argument, rfl, hcalls, hblanks, hargument, happlied⟩
    obtain ⟨htrim, hnone⟩ := trimStart_of_argument? hargument
    -- the name ends where the first blank or parenthesis stands
    have hstop : (blanks ++ rest).takeWhile isFunctionChar = [] := by
      cases blanks with
      | nil => exact hnone
      | cons b bs =>
        refine List.takeWhile_cons_of_neg ?_
        simp [isFunctionChar, hblanks b List.mem_cons_self]
    have hname : (name ++ (blanks ++ rest)).takeWhile isFunctionChar = name := by
      rw [List.takeWhile_append_of_pos fun c hc => isFunctionChar_of_isLetter (isLetter_of_calls hcalls c hc),
        hstop, List.append_nil]
    rw [hname, List.drop_left, trimStart_append_left hblanks, htrim]
    exact ⟨function, hcalls, argument, hargument, happlied⟩

/-- **The column of a statement** is a column name, and a piece of the statement. -/
theorem isPiece_of_aggregate? {s : String} {f : ColumnFunction} {column : String}
    (h : aggregate? s = some (.column f column)) :
    IsColumnName column.toList ∧ IsPiece column.toList s.toList := by
  obtain ⟨name, blanks, rest, function, argument, hs, -, -, hargument, happlied⟩ := aggregate?_eq_some_iff.mp h
  obtain ⟨-, -, hcount⟩ | ⟨_, hcolumn, heq⟩ := applied?_eq_some_iff.mp happlied
  · exact absurd hcount (by simp)
  obtain ⟨-, rfl⟩ := Aggregate.column.inj heq
  obtain ⟨-, rfl⟩ | ⟨inner, rfl, -, rfl⟩ := argument?_eq_some_iff.mp hargument
  · exact absurd (column?_nil.symm.trans hcolumn) (by simp)
  · obtain ⟨column, href, hname, rfl⟩ := column?_eq_some_iff.mp hcolumn
    rw [String.toList_ofList]
    refine ⟨hname, ?_⟩
    -- the parentheses are no word characters, so no word runs across the ends of the argument
    have hinner : IsPiece inner (trim s.toList) := by
      refine ⟨name ++ blanks ++ ['('], [')'], by simp [hs], ?_, by decide⟩
      rw [endsInWord_append]
      show isWord '(' = false
      decide
    exact (((isPiece_of_refersTo href).trans (isPiece_trim inner)).trans hinner).trans (isPiece_trim s.toList)

end RecordGate.Fragment
