import RecordGate.Proofs.Tools.Arguments
import RecordGate.Settings.CommandLine

/-!
# `RecordGate.Proofs.Settings.CommandLine` — what an accepted command line gives

A value is written for a flag in one of two ways, behind an equals sign or as an argument of its own (`Writes`). If a
command line is accepted, its flags have the values that are written for them, unchanged, and no others
(`get?_eq_some_iff_writes`).

The reader is ahead of what it has settled: a value may still be pending when the next argument is looked at. So what
each argument keeps true is said of the values that the reader *holds*, pending or not, and of the flag that waits for
the next argument (`Follows`).
-/

namespace RecordGate.CommandLine

open Tools (bind_eq_ok_iff)

/-! ## Arguments as they are written -/

/-- The name of a flag, which is written behind two hyphens. -/
def ValueFlag.name : ValueFlag → String
  | .projectsRoot => "projects-root"
  | .modelsPath => "models-path"
  | .evaluator => "evaluator"

/-- A flag whose value is the next argument. -/
def ValueFlag.bare (flag : ValueFlag) : String :=
  "--" ++ flag.name

/-- A flag with its value behind an equals sign. -/
def ValueFlag.attached (flag : ValueFlag) (value : String) : String :=
  "--" ++ flag.name ++ "=" ++ value

/-- An argument that is no flag: it does not start with a hyphen, unless it is nothing else. -/
def IsPlain (argument : String) : Prop :=
  argument.toList.head? = some '-' → argument = "-"

/-- **The arguments give a flag this value.** -/
inductive Writes (flag : ValueFlag) (value : String) (arguments : List String) : Prop where
  /-- The value stands behind the flag and an equals sign. -/
  | attached (mem : flag.attached value ∈ arguments)
  /-- The value is the argument behind the flag. -/
  | separate (plain : IsPlain value) (behind : [flag.bare, value] <:+: arguments)

/-- The name in an argument that starts with two hyphens. -/
def nameIn (body : List Char) : String :=
  String.ofList (body.takeWhile (· != '='))

/-- The value in an argument that starts with two hyphens. -/
def valueIn? (body : List Char) : Option String :=
  match body.dropWhile (· != '=') with
  | [] => none
  | _ :: value => some (String.ofList value)

/-- A long name stands for a flag with a value exactly if it is that flag's name. -/
theorem longFlag?_eq_inl_iff {name : String} {flag : ValueFlag} :
    longFlag? name = some (.inl flag) ↔ name = flag.name := by
  constructor
  · intro h
    obtain ⟨before, behind, htable, -⟩ := List.lookup_eq_some_iff.mp h
    have hmem := List.mem_append_right before (List.mem_cons_self (a := (name, Sum.inl flag)) (l := behind))
    rw [← htable] at hmem
    simp only [List.mem_cons, Prod.mk.injEq, Sum.inl.injEq, reduceCtorEq, and_false, List.not_mem_nil, or_false] at hmem
    rcases hmem with ⟨rfl, rfl⟩ | ⟨rfl, rfl⟩ | ⟨rfl, rfl⟩
    · rfl
    · rfl
    · rfl
  · rintro rfl
    cases flag <;> decide

theorem name_injective {flag other : ValueFlag} (h : flag.name = other.name) : flag = other :=
  Sum.inl.inj (Option.some.inj ((longFlag?_eq_inl_iff.mpr rfl).symm.trans (longFlag?_eq_inl_iff.mpr h)))

section

variable {argument value : String} {body : List Char} {flag other : ValueFlag}

theorem bare_toList (flag : ValueFlag) : flag.bare.toList = '-' :: '-' :: flag.name.toList := by
  simp [ValueFlag.bare]

theorem attached_toList (flag : ValueFlag) (value : String) :
    (flag.attached value).toList = '-' :: '-' :: (flag.name.toList ++ '=' :: value.toList) := by
  simp [ValueFlag.attached]

/-- An argument is cut at its first equals sign. -/
theorem eq_of_valueIn?_eq_some (h : valueIn? body = some value) :
    body = (nameIn body).toList ++ '=' :: value.toList := by
  unfold valueIn? at h
  split at h
  · exact absurd h (by simp)
  · rename_i c rest hrest
    obtain rfl := Option.some.inj h
    have hstop := List.head?_dropWhile_not (· != '=') body
    rw [hrest] at hstop
    obtain rfl : c = '=' := by simpa using hstop
    unfold nameIn
    rw [String.toList_ofList, String.toList_ofList, ← hrest, List.takeWhile_append_dropWhile]

/-- A flag without a value attached is its name in full. -/
theorem eq_of_valueIn?_eq_none (h : valueIn? body = none) : body = (nameIn body).toList := by
  unfold valueIn? at h
  split at h
  · rename_i hrest
    unfold nameIn
    conv => lhs; rw [← List.takeWhile_append_dropWhile (p := (· != '=')) (l := body), hrest]
    rw [List.append_nil, String.toList_ofList]
  · exact absurd h (by simp)

/-- There is no equals sign in the name of a flag. -/
theorem ne_equals_of_mem_name (flag : ValueFlag) : ∀ c ∈ flag.name.toList, (c != '=') = true := by
  have hall : flag.name.toList.all (· != '=') = true := by cases flag <;> decide
  exact List.all_eq_true.mp hall

/-- **What is read from a flag with its value** is the flag and the value. -/
theorem eq_attached_iff (hbody : argument.toList = '-' :: '-' :: body) :
    argument = flag.attached value ↔ nameIn body = flag.name ∧ valueIn? body = some value := by
  constructor
  · rintro rfl
    obtain rfl : flag.name.toList ++ '=' :: value.toList = body := by simpa [attached_toList] using hbody
    constructor
    · rw [nameIn, List.takeWhile_append_of_pos (ne_equals_of_mem_name flag), List.takeWhile_cons_of_neg (by decide),
        List.append_nil, String.ofList_toList]
    · rw [valueIn?, List.dropWhile_append_of_pos (ne_equals_of_mem_name flag), List.dropWhile_cons_of_neg (by decide)]
      simp
  · rintro ⟨hname, hvalue⟩
    rw [← String.toList_inj, hbody, attached_toList, ← hname, ← eq_of_valueIn?_eq_some hvalue]

/-- What is read from a flag without a value is the flag. -/
theorem eq_bare_iff (hbody : argument.toList = '-' :: '-' :: body) :
    argument = flag.bare ↔ nameIn body = flag.name ∧ valueIn? body = none := by
  constructor
  · rintro rfl
    obtain rfl : flag.name.toList = body := by simpa [bare_toList] using hbody
    cases flag <;> decide
  · rintro ⟨hname, hvalue⟩
    rw [← String.toList_inj, hbody, bare_toList, ← hname, ← eq_of_valueIn?_eq_none hvalue]

/-! ### Arguments are told apart -/

/-- An argument that starts with a hyphen and goes on is not plain. -/
theorem not_isPlain_of_toList {argument : String} {c : Char} {cs : List Char} (h : argument.toList = '-' :: c :: cs) :
    ¬ IsPlain argument := by
  intro hplain
  have heq := hplain (by rw [h]; rfl)
  rw [heq] at h
  exact absurd h (by simp)

/-- A flag with its value attached is written in one way for each flag and value. -/
theorem attached_eq_attached_iff {w : String} : flag.attached value = other.attached w ↔ other = flag ∧ w = value := by
  have hflag := (eq_attached_iff (attached_toList flag value)).mp rfl
  rw [eq_attached_iff (attached_toList flag value), hflag.1, hflag.2, Option.some.injEq]
  exact and_congr ⟨fun h => (name_injective h).symm, fun h => h ▸ rfl⟩ eq_comm

theorem bare_eq_bare_iff : flag.bare = other.bare ↔ flag = other := by
  have hflag := (eq_bare_iff (bare_toList flag)).mp rfl
  rw [eq_bare_iff (bare_toList flag), hflag.1, hflag.2, eq_self, and_true]
  exact ⟨name_injective, fun h => h ▸ rfl⟩

/-- A flag with a value attached is no bare flag: the equals sign is in no name. -/
theorem attached_ne_bare : flag.attached value ≠ other.bare := by
  intro h
  have hnone := ((eq_bare_iff (attached_toList flag value)).mp h).2
  rw [((eq_attached_iff (attached_toList flag value)).mp rfl).2] at hnone
  exact absurd hnone (by simp)

theorem not_isPlain_attached : ¬ IsPlain (flag.attached value) :=
  not_isPlain_of_toList (attached_toList flag value)

theorem not_isPlain_bare : ¬ IsPlain flag.bare :=
  not_isPlain_of_toList (bare_toList flag)

end

/-! ## What a reader holds -/

/-- The reader has a value for the flag, settled or not. -/
def Reader.Holds (r : Reader) (flag : ValueFlag) (value : String) : Prop :=
  flag.get? r.flags = some value ∨ r.pending = some (flag, some value)

/-- Nothing is pending in `s`, and it holds what `r` holds, and besides that only what `more` says. -/
structure Settles (r : Reader) (more : ValueFlag → String → Prop) (s : Reader) : Prop where
  pending : s.pending = none
  escaped : s.escaped = r.escaped
  holds : ∀ flag value, s.Holds flag value ↔ r.Holds flag value ∨ more flag value

/-- No value of a flag. -/
def noValue : ValueFlag → String → Prop :=
  fun _ _ => False

/-- A step that adds no value leaves what a later one adds as it is. -/
theorem Settles.trans {r s t : Reader} {more : ValueFlag → String → Prop} (hrs : Settles r noValue s)
    (hst : Settles s more t) : Settles r more t where
  pending := hst.pending
  escaped := hst.escaped.trans hrs.escaped
  holds := by
    intro flag value
    rw [hst.holds, hrs.holds, noValue, or_false]

section

variable {r s : Reader}

/-- A reader in which nothing is pending holds its flags' values. -/
theorem holds_iff_of_pending (h : r.pending = none) {flag : ValueFlag} {value : String} :
    r.Holds flag value ↔ flag.get? r.flags = some value := by
  simp [Reader.Holds, h]

theorem get?_set (flag other : ValueFlag) (value : String) (flags : Flags) :
    other.get? (flag.set value flags) = if other = flag then some value else other.get? flags := by
  cases flag <;> cases other <;> rfl

/-- A flag takes a value once: there must be a value, and no earlier one. -/
theorem give_eq_ok {flag : ValueFlag} {value : Option String} (h : r.give flag value = .ok s) :
    ∃ v, value = some v ∧ flag.get? r.flags = none ∧ s = { r with flags := flag.set v r.flags } := by
  unfold Reader.give at h
  split at h
  · exact absurd h (by simp)
  · rename_i v
    split at h
    · exact absurd h (by simp)
    · rename_i hunset
      split at h
      · exact absurd h (by simp)
      · exact ⟨v, rfl, by simpa using hunset, (Except.ok.inj h).symm⟩

/-- **A flag that is given a value** has not had one before. -/
theorem settles_give {flag : ValueFlag} {value : String} (hr : r.pending = none)
    (h : r.give flag (some value) = .ok s) : Settles r (fun f v => f = flag ∧ v = value) s := by
  obtain ⟨v, hv, hunset, rfl⟩ := give_eq_ok h
  obtain rfl := Option.some.inj hv
  refine ⟨hr, rfl, fun other w => ?_⟩
  have hpending : ({ r with flags := flag.set value r.flags } : Reader).pending = none := hr
  rw [holds_iff_of_pending hpending, holds_iff_of_pending hr, get?_set]
  by_cases hother : other = flag
  · subst hother
    simp [hunset, eq_comm]
  · simp [hother]

/-- **Settling changes nothing about what is held.** -/
theorem settles_settle (h : r.settle = .ok s) : Settles r noValue s := by
  unfold Reader.settle at h
  split at h
  · rename_i hnone
    obtain rfl := Except.ok.inj h
    exact ⟨hnone, rfl, fun _ _ => (or_false _).to_iff.symm⟩
  · rename_i flag value hsome
    obtain ⟨v, rfl, -, -⟩ := give_eq_ok h
    have hgive := settles_give rfl h
    refine ⟨hgive.pending, hgive.escaped, fun other w => ?_⟩
    rw [hgive.holds, holds_iff_of_pending rfl, Reader.Holds, hsome, noValue, or_false]
    simp [eq_comm]

/-- Turning on a switch adds no value. -/
theorem settles_turnOn {switch : Switch} (h : r.turnOn switch = .ok s) : Settles r noValue s := by
  unfold Reader.turnOn at h
  obtain ⟨settled, hsettled, h⟩ := bind_eq_ok_iff.mp h
  have hsettles := settles_settle hsettled
  cases switch with
  | help => exact absurd h (by simp)
  | version => exact absurd h (by simp)
  | verbose =>
    simp only at h
    split at h
    · exact absurd h (by simp)
    · obtain rfl := Except.ok.inj h
      -- the switch is none of the flags that have a value
      refine ⟨hsettles.pending, hsettles.escaped, fun flag value => ?_⟩
      rw [← hsettles.holds]
      cases flag <;> exact Iff.rfl

/-- Turning on a row of switches adds no value. -/
theorem settles_turnOnAll {name : Char} {names : List Char} (h : r.turnOnAll (name :: names) = .ok s) :
    Settles r noValue s := by
  induction names generalizing r name with
  | nil =>
    unfold Reader.turnOnAll at h
    split at h
    · exact absurd h (by simp)
    · obtain ⟨t, ht, h⟩ := bind_eq_ok_iff.mp h
      obtain rfl := Except.ok.inj h
      exact settles_turnOn ht
  | cons next names ih =>
    unfold Reader.turnOnAll at h
    split at h
    · exact absurd h (by simp)
    · obtain ⟨t, ht, h⟩ := bind_eq_ok_iff.mp h
      exact (settles_turnOn ht).trans (ih h)

end

/-! ## One argument -/

/-- **What an argument does to a reader that accepts it.** -/
inductive Takes (r : Reader) (argument : String) (s : Reader) : Prop where
  /-- A flag with its value has that value from now on. -/
  | attached (flag : ValueFlag) (value : String) (eq : argument = flag.attached value)
      (settles : Settles r (fun f v => f = flag ∧ v = value) s)
  /-- A flag without a value waits for the next argument. -/
  | bare (flag : ValueFlag) (eq : argument = flag.bare) (settled : Reader) (settles : Settles r noValue settled)
      (next : s = { settled with pending := some (flag, none) })
  /-- An argument that is no flag is the value that is waited for. -/
  | value (flag : ValueFlag) (plain : IsPlain argument) (waits : r.pending = some (flag, none))
      (next : s = { r with pending := some (flag, some argument) })
  /-- Switches give no flag a value. -/
  | switches (hyphen : ¬ IsPlain argument) (ne_bare : ∀ flag : ValueFlag, argument ≠ flag.bare)
      (ne_attached : ∀ (flag : ValueFlag) (value : String), argument ≠ flag.attached value)
      (settles : Settles r noValue s)
  /-- Two hyphens end the flags. -/
  | escape (eq : argument = "--") (next : s = { r with escaped := true })

section

variable {r s : Reader} {argument : String}

/-- A long argument that is accepted is a flag with its value, a flag that waits for one, or a switch. -/
theorem takes_longArgument {body : List Char} (hbody : argument.toList = '-' :: '-' :: body)
    (h : r.longArgument body = .ok s) : Takes r argument s := by
  unfold Reader.longArgument at h
  -- without an equals sign the value is still to come
  split at h
  · rename_i hrest
    have hvalue : valueIn? body = none := by rw [valueIn?, hrest]
    dsimp only at h
    split at h
    · exact absurd h (by simp)
    · rename_i hnone
      exact absurd hnone (by simp)
    · rename_i switch hname _
      -- the name is not that of a flag with a value
      have hne : ∀ flag : ValueFlag, nameIn body ≠ flag.name := by
        intro flag hflag
        have hswitch := hname.symm.trans (longFlag?_eq_inl_iff.mpr hflag)
        exact absurd hswitch (by simp)
      exact .switches (not_isPlain_of_toList hbody) (fun flag heq => hne flag ((eq_bare_iff hbody).mp heq).1)
        (fun flag value heq => hne flag ((eq_attached_iff hbody).mp heq).1) (settles_turnOn h)
    · rename_i hnone
      exact absurd hnone (by simp)
    · rename_i flag hname _
      have heq : argument = flag.bare := (eq_bare_iff hbody).mpr ⟨longFlag?_eq_inl_iff.mp hname, hvalue⟩
      obtain ⟨settled, hsettled, hnext⟩ := bind_eq_ok_iff.mp h
      exact .bare flag heq settled (settles_settle hsettled) (Except.ok.inj hnext).symm
  · rename_i rest hrest
    have hvalue : valueIn? body = some (String.ofList rest) := by rw [valueIn?, hrest]
    dsimp only at h
    split at h
    · exact absurd h (by simp)
    · exact absurd h (by simp)
    · rename_i hsome
      exact absurd hsome (by simp)
    · rename_i flag value hname hsome
      obtain rfl := Option.some.inj hsome
      have heq : argument = flag.attached (String.ofList rest) :=
        (eq_attached_iff hbody).mpr ⟨longFlag?_eq_inl_iff.mp hname, hvalue⟩
      obtain ⟨settled, hsettled, hgive⟩ := bind_eq_ok_iff.mp h
      have hsettles := settles_settle hsettled
      exact .attached flag _ heq (hsettles.trans (settles_give hsettles.pending hgive))
    · rename_i hsome
      exact absurd hsome (by simp)

/-- **An accepted argument** is read by a reader that has not met two hyphens, and does one of five things. -/
theorem takes_of_argument (h : r.argument argument = .ok s) : r.escaped = false ∧ Takes r argument s := by
  unfold Reader.argument at h
  split at h
  · exact absurd h (by simp)
  · rename_i hescaped
    refine ⟨by simpa using hescaped, ?_⟩
    split at h
    · rename_i hlist
      exact .escape (String.toList_inj.mp hlist) (Except.ok.inj h).symm
    · rename_i body _ hbody
      exact takes_longArgument hbody h
    · rename_i name names _ hname hlist
      -- one hyphen only
      refine .switches (not_isPlain_of_toList hlist) (fun flag heq => ?_) (fun flag value heq => ?_)
        (settles_turnOnAll h)
      · rw [heq, bare_toList] at hlist
        exact hname (List.cons.inj (List.cons.inj hlist).2).1.symm
      · rw [heq, attached_toList] at hlist
        exact hname (List.cons.inj (List.cons.inj hlist).2).1.symm
    · rename_i _ _ hplain
      unfold Reader.plainArgument at h
      split at h
      · rename_i flag hwaits
        refine .value flag (fun hhead => ?_) hwaits (Except.ok.inj h).symm
        obtain ⟨rest, hrest⟩ := List.head?_eq_some_iff.mp hhead
        cases rest with
        | nil => exact String.toList_inj.mp hrest
        | cons c cs => exact absurd hrest (hplain c cs)
      · exact absurd h (by simp)

end

/-! ## The whole command line -/

/-- **What is true of a reader** after the arguments `read`: it holds the values that are written in them, and a flag
    waits for a value if it is the last of them. -/
structure Follows (read : List String) (r : Reader) : Prop where
  holds : ∀ flag value, r.Holds flag value ↔ Writes flag value read
  waits : r.escaped = false → ∀ flag : ValueFlag, r.pending = some (flag, none) ↔ [flag.bare] <:+ read

/-- One more argument writes a flag's value if the value is attached to it, or if it is the plain argument behind the
    bare flag. -/
theorem writes_concat_iff {flag : ValueFlag} {value argument : String} {read : List String} :
    Writes flag value (read ++ [argument]) ↔
      Writes flag value read ∨ argument = flag.attached value ∨
        argument = value ∧ IsPlain value ∧ [flag.bare] <:+ read := by
  constructor
  · rintro (mem | ⟨plain, behind⟩)
    · rcases List.mem_append.mp mem with mem | mem
      · exact Or.inl (.attached mem)
      · exact Or.inr (Or.inl (List.mem_singleton.mp mem).symm)
    · rcases List.infix_concat_iff.mp behind with hsuffix | hinfix
      · rcases List.suffix_concat_iff.mp hsuffix with hnil | ⟨t, ht, hbare⟩
        · exact absurd hnil (by simp)
        · have hsplit : [flag.bare] ++ [value] = t ++ [argument] := ht
          obtain ⟨rfl, hvalue⟩ := List.append_inj' hsplit rfl
          exact Or.inr (Or.inr ⟨(List.cons.inj hvalue).1.symm, plain, hbare⟩)
      · exact Or.inl (.separate plain hinfix)
  · rintro ((mem | ⟨plain, behind⟩) | rfl | ⟨rfl, plain, t, rfl⟩)
    · exact .attached (List.mem_append_left _ mem)
    · exact .separate plain (behind.trans (List.prefix_append _ _).isInfix)
    · exact .attached (List.mem_append_right _ List.mem_cons_self)
    · exact .separate plain ⟨t, [], by simp⟩

/-- A flag with its value attached writes this value and no other. -/
theorem writes_concat_attached_iff {flag other : ValueFlag} {value w : String} {read : List String} :
    Writes other w (read ++ [flag.attached value]) ↔ Writes other w read ∨ other = flag ∧ w = value := by
  rw [writes_concat_iff, attached_eq_attached_iff]
  refine or_congr_right (or_iff_left ?_)
  rintro ⟨rfl, plain, -⟩
  exact not_isPlain_attached plain

/-- A plain argument writes itself, as the value of the bare flag in front of it. -/
theorem writes_concat_iff_of_isPlain {flag : ValueFlag} {value argument : String} {read : List String}
    (h : IsPlain argument) :
    Writes flag value (read ++ [argument]) ↔ Writes flag value read ∨ argument = value ∧ [flag.bare] <:+ read := by
  rw [writes_concat_iff]
  refine or_congr_right ⟨?_, ?_⟩
  · rintro (rfl | ⟨heq, -, hbare⟩)
    · exact absurd h not_isPlain_attached
    · exact ⟨heq, hbare⟩
  · rintro ⟨rfl, hbare⟩
    exact Or.inr ⟨rfl, h, hbare⟩

/-- Any other argument writes nothing. -/
theorem writes_concat_iff_of_not_isPlain {flag : ValueFlag} {value argument : String} {read : List String}
    (h : ¬ IsPlain argument) (hne : argument ≠ flag.attached value) :
    Writes flag value (read ++ [argument]) ↔ Writes flag value read := by
  rw [writes_concat_iff]
  refine or_iff_left ?_
  rintro (hattached | ⟨rfl, plain, -⟩)
  · exact hne hattached
  · exact h plain

theorem bare_suffix_concat_iff {flag : ValueFlag} {argument : String} {read : List String} :
    [flag.bare] <:+ read ++ [argument] ↔ argument = flag.bare := by
  rw [List.suffix_concat_iff]
  constructor
  · rintro (hnil | ⟨t, ht, -⟩)
    · exact absurd hnil (by simp)
    · cases t with
      | nil => exact (List.cons.inj ht).1.symm
      | cons x t => exact absurd (List.cons.inj ht).2 (by simp)
  · rintro rfl
    exact Or.inr ⟨[], rfl, List.nil_suffix⟩

/-- **One argument** keeps it true that the reader holds what is written. -/
theorem Follows.concat {read : List String} {argument : String} {r s : Reader} (hr : Follows read r)
    (h : r.argument argument = .ok s) : Follows (read ++ [argument]) s := by
  obtain ⟨hescaped, htakes⟩ := takes_of_argument h
  cases htakes with
  | attached flag value eq settles =>
    subst eq
    constructor
    · intro f v
      rw [settles.holds, hr.holds, writes_concat_attached_iff]
    · intro _ f
      rw [settles.pending, bare_suffix_concat_iff]
      exact iff_of_false (by simp) attached_ne_bare
  | bare flag eq settled settles next =>
    subst eq next
    -- a flag that waits for its value holds none yet
    have hheld : ∀ f v, Reader.Holds { settled with pending := some (flag, none) } f v ↔ settled.Holds f v := by
      intro f v
      simp [Reader.Holds, settles.pending]
    constructor
    · intro f v
      rw [hheld, settles.holds, hr.holds, noValue, or_false,
        writes_concat_iff_of_not_isPlain not_isPlain_bare attached_ne_bare.symm]
    · intro _ f
      rw [bare_suffix_concat_iff, bare_eq_bare_iff]
      simp
  | value flag plain waits next =>
    subst next
    constructor
    · intro f v
      rw [writes_concat_iff_of_isPlain plain, ← hr.holds, ← hr.waits hescaped f, Reader.Holds, Reader.Holds, waits]
      simp only [Option.some.injEq, Prod.mk.injEq, reduceCtorEq, and_false, or_false, and_true]
      exact or_congr_right and_comm
    · intro _ f
      rw [bare_suffix_concat_iff]
      refine iff_of_false (by simp) ?_
      rintro rfl
      exact not_isPlain_bare plain
  | switches hyphen ne_bare ne_attached settles =>
    constructor
    · intro f v
      rw [settles.holds, hr.holds, noValue, or_false, writes_concat_iff_of_not_isPlain hyphen (ne_attached f v)]
    · intro _ f
      rw [settles.pending, bare_suffix_concat_iff]
      exact iff_of_false (by simp) (ne_bare f)
  | escape eq next =>
    subst eq next
    have hheld : ∀ f v, Reader.Holds { r with escaped := true } f v ↔ r.Holds f v := fun _ _ => Iff.rfl
    constructor
    · intro f v
      -- two hyphens alone are too short for the name of a flag
      have hne : "--" ≠ f.attached v := by
        intro hattached
        have hlist := attached_toList f v
        rw [← hattached] at hlist
        exact absurd hlist (by simp)
      rw [hheld, hr.holds, writes_concat_iff_of_not_isPlain (not_isPlain_of_toList rfl) hne]
    · intro hfalse
      exact absurd hfalse (by simp)

/-- **Any number of arguments** keeps it true. -/
theorem Follows.append {read arguments : List String} {r s : Reader} (hr : Follows read r)
    (h : arguments.foldlM Reader.argument r = .ok s) : Follows (read ++ arguments) s := by
  induction arguments generalizing read r with
  | nil =>
    obtain rfl := Except.ok.inj h
    rwa [List.append_nil]
  | cons argument rest ih =>
    rw [List.foldlM_cons, bind_eq_ok_iff] at h
    obtain ⟨t, ht, hrest⟩ := h
    have hstep := ih (hr.concat ht) hrest
    rwa [List.append_assoc] at hstep

/-- Before the first argument nothing is held, and no flag waits. -/
theorem follows_nil : Follows [] {} where
  holds := by
    intro flag value
    constructor
    · rintro (h | h)
      · cases flag <;> exact absurd h (by simp [ValueFlag.get?])
      · exact absurd h (by simp)
    · rintro (mem | ⟨-, behind⟩)
      · exact absurd mem List.not_mem_nil
      · exact absurd (List.infix_nil.mp behind) (by simp)
  waits := by
    intro _ flag
    exact iff_of_false (by simp) fun h => absurd (List.suffix_nil.mp h) (by simp)

/-- **An accepted command line gives each flag the value that is written for it**, as it is written, and none that is
    not. -/
theorem get?_eq_some_iff_writes {arguments : List String} {given : Flags} (h : flags arguments = .ok given)
    {flag : ValueFlag} {value : String} : flag.get? given = some value ↔ Writes flag value arguments := by
  unfold flags at h
  obtain ⟨r, hread, h⟩ := bind_eq_ok_iff.mp h
  obtain ⟨s, hsettle, h⟩ := bind_eq_ok_iff.mp h
  obtain rfl := Except.ok.inj h
  have hsettles := settles_settle hsettle
  rw [← holds_iff_of_pending hsettles.pending, hsettles.holds, noValue, or_false, (follows_nil.append hread).holds,
    List.nil_append]

example : flags ["--evaluator=", "-v", "--models-path", "-"] =
    .ok { evaluator := some "", modelsPath := some "-", verbose := true } := by
  rfl

end RecordGate.CommandLine
