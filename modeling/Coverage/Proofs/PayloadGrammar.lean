/-
What the payloads of records look like, field by field. A payload has its
longest pieces without a comma as fields (`HasFields`), and each type of
record asks for fields of a certain form. A reader accepts just the
payloads whose fields have the form, reads what the form says, and blames
every other payload, whole and under the type of its record (`Accepts`).

Some fields have a place in the form and no part in what is said: where a
function ends, what follows the hits of a line, the numbers of a branch.
Payloads that differ in such fields only are read alike (`ReadsAlike`),
and so are the longer and the shorter form of a record.
-/
import Coverage.Proofs.GcovGrammar
import Coverage.Proofs.LcovGrammar

namespace Coverage

namespace Record

-- =============================================================== fields

/-- The payload has these fields: there are no commas in them, and it is
put together from them with commas between. -/
structure HasFields (payload : List Char) (fs : List (List Char)) :
    Prop where
  ne_nil : fs ≠ []
  no_comma : ∀ f ∈ fs, ',' ∉ f
  payload : payload = join fs

/-- A payload has just the fields that it is cut into. -/
theorem fields_eq_iff {payload : List Char} {fs : List (List Char)} :
    fields payload = fs ↔ HasFields payload fs := by
  constructor
  · rintro rfl
    exact ⟨List.splitOn_ne_nil _ _, fun f => Text.not_mem_of_mem_splitOn,
      (List.intercalate_splitOn ',').symm⟩
  · rintro ⟨hne, hcomma, rfl⟩
    exact fields_join hne hcomma

/-- Every payload has fields, and no others. -/
theorem hasFields_fields (payload : List Char) :
    HasFields payload (fields payload) :=
  fields_eq_iff.1 rfl

-- ============================================================== readers

variable {α : Type}

/-- The reader accepts the payloads whose fields have the form, and no
others: those it blames. -/
structure Accepts (kind : RecordKind)
    (read : List Char → Except Fault α)
    (Form : List (List Char) → α → Prop) : Prop where
  ok_iff : ∀ payload a,
    read payload = .ok a ↔ ∃ fs, HasFields payload fs ∧ Form fs a
  blames : ∀ payload, Blames kind payload (read payload)

/-- Payloads with these fields and payloads with those are accepted alike
and read as the same. -/
def ReadsAlike (read : List Char → Except Fault α)
    (fs gs : List (List Char)) : Prop :=
  ∀ p q, HasFields p fs → HasFields q gs →
    (read p).toOption = (read q).toOption

theorem toOption_eq_some_iff {x : Except Fault α} {a : α} :
    x.toOption = some a ↔ x = .ok a := by
  cases x with
  | error fault => exact iff_of_false nofun nofun
  | ok b =>
      show some b = some a ↔ Except.ok b = .ok a
      rw [Option.some.injEq, Except.ok.injEq]

variable {kind : RecordKind} {read : List Char → Except Fault α}
  {Form : List (List Char) → α → Prop}

/-- A payload with known fields is read as what the form says of them. -/
theorem Accepts.ok_iff_form (h : Accepts kind read Form)
    {payload : List Char} {fs : List (List Char)}
    (hfs : HasFields payload fs) {a : α} :
    read payload = .ok a ↔ Form fs a := by
  rw [h.ok_iff]
  constructor
  · rintro ⟨gs, hgs, ha⟩
    rw [← fields_eq_iff] at hfs hgs
    rwa [← hfs, hgs]
  · exact fun ha => ⟨fs, hfs, ha⟩

/-- Fields that have the form for the same are read alike. -/
theorem Accepts.readsAlike (h : Accepts kind read Form)
    {fs gs : List (List Char)} (hform : ∀ a, Form fs a ↔ Form gs a) :
    ReadsAlike read fs gs := by
  intro p q hp hq
  refine Option.ext fun a => ?_
  rw [toOption_eq_some_iff, toOption_eq_some_iff, h.ok_iff_form hp,
    h.ok_iff_form hq, hform]

/-- Readers whose readings, as data, agree with a grammar accept what the
grammar has. -/
theorem accepts_of_judges {G : Tracefile.Grammar} {toDatum : α → Datum}
    (hinj : Function.Injective toDatum)
    (h : ∀ payload, G.Judges kind payload ((read payload).map toDatum))
    (hform : ∀ payload a, G.Says payload kind (toDatum a)
      ↔ Form (fields payload) a) :
    Accepts kind read Form := by
  constructor
  · intro payload a
    have hmap : (read payload).map toDatum = .ok (toDatum a)
        ↔ read payload = .ok a := by
      rw [exceptMap_eq_ok_iff]
      constructor
      · rintro ⟨b, hb, hab⟩
        rw [hb, hinj hab]
      · exact fun ha => ⟨a, ha, rfl⟩
    rw [← hmap, (h payload).ok_iff, hform]
    constructor
    · exact fun ha => ⟨_, hasFields_fields payload, ha⟩
    · rintro ⟨fs, hfs, ha⟩
      rwa [fields_eq_iff.2 hfs]
  · intro payload fault hfault
    refine (h payload).blames fault ?_
    rw [hfault]
    rfl

-- ======================================================== hits of a line

/-- A line and its hits, and perhaps one field more. -/
inductive LineForm (fs : List (List Char)) (p : Nat × Count) : Prop
  | mk {line hits : List Char} (more : Option (List Char))
      (hfields : fs = line :: hits :: more.toList)
      (hline : IsNumber line p.1) (hhits : IsCount hits p.2)

/-- What the grammar says of the hits of a line is a form of its fields.
-/
theorem lineHits_iff {payload : List Char} {p : Nat × Count} :
    LineHits payload p.1 p.2 ↔ LineForm (fields payload) p := by
  constructor
  · rintro (⟨hfields, hline, hhits⟩ | ⟨hfields, hline, hhits⟩)
    · exact .mk none hfields hline hhits
    · exact .mk (some _) hfields hline hhits
  · rintro ⟨more, hfields, hline, hhits⟩
    cases more with
    | none => exact .plain hfields hline hhits
    | some m => exact .extended hfields hline hhits

/-- What follows the hits does not matter. -/
theorem lineForm_iff {line hits : List Char} (more : Option (List Char))
    {p : Nat × Count} :
    LineForm (line :: hits :: more.toList) p
      ↔ IsNumber line p.1 ∧ IsCount hits p.2 := by
  constructor
  · rintro ⟨more', hfields, hline, hhits⟩
    injection hfields with hl hfields
    injection hfields with hh
    rw [hl, hh]
    exact ⟨hline, hhits⟩
  · rintro ⟨hline, hhits⟩
    exact .mk more rfl hline hhits

/-- A checksum behind the hits of a line has no influence. -/
theorem Accepts.readsAlike_line {kind : RecordKind}
    {read : List Char → Except Fault (Nat × Count)}
    (h : Accepts kind read LineForm) (line hits more : List Char) :
    ReadsAlike read [line, hits, more] [line, hits] :=
  h.readsAlike fun _ =>
    (lineForm_iff (some more)).trans (lineForm_iff none).symm

end Record

-- ================================================================= gcov

namespace Gcov

open Record

/-- Where a function starts, its hits and its name; perhaps there is one
field more, where it ends, behind the start. -/
inductive FunctionForm (fs : List (List Char)) (r : FunctionRecord) : Prop
  | mk {start hits name : List Char} (last : Option (List Char))
      (hfields : fs = start :: (last.toList ++ [hits, name]))
      (hstart : IsNumber start r.start) (hhits : IsCount hits r.hits)
      (hname : r.name = String.ofList name)

/-- A line and the word for an outcome. -/
inductive BranchForm (fs : List (List Char)) (p : Nat × BranchStatus) :
    Prop
  | mk {line : List Char} (hfields : fs = [line, (word p.2).toList])
      (hline : IsNumber line p.1)

/-- The function record of gcov is accepted by its form. -/
theorem accepts_function : Accepts .function readFunction FunctionForm := by
  refine accepts_of_judges ?_ judges_function fun payload r => ?_
  · rintro ⟨name, start, hits⟩ ⟨name', start', hits'⟩ h
    cases h
    rfl
  · obtain ⟨name, start, hits⟩ := r
    constructor
    · intro h
      cases h with
      | function hfields hstart hhits =>
          exact .mk none hfields hstart hhits rfl
      | functionWithEnd hfields hstart hhits =>
          exact .mk (some _) hfields hstart hhits rfl
    · rintro ⟨last, hfields, hstart, hhits, rfl⟩
      cases last with
      | none => exact .function hfields hstart hhits
      | some e => exact .functionWithEnd hfields hstart hhits

/-- The line record of gcov is accepted by its form. -/
theorem accepts_lcount : Accepts .lcount readLine LineForm := by
  refine accepts_of_judges ?_ judges_lcount fun payload p => ?_
  · rintro ⟨n, c⟩ ⟨n', c'⟩ h
    cases h
    rfl
  · rw [← lineHits_iff]
    constructor
    · rintro ⟨⟩
      assumption
    · exact .lcount

/-- The branch record of gcov is accepted by its form. -/
theorem accepts_branch : Accepts .branch readBranch BranchForm := by
  refine accepts_of_judges ?_ judges_branch fun payload p => ?_
  · rintro ⟨n, status⟩ ⟨n', status'⟩ h
    cases h
    rfl
  · obtain ⟨n, status⟩ := p
    constructor
    · intro h
      cases h with
      | branch hfields hnumber => exact .mk hfields hnumber
    · rintro ⟨hfields, hline⟩
      exact .branch hfields hline

/-- Where the function ends does not matter. -/
theorem functionForm_iff {start hits name : List Char}
    (last : Option (List Char)) {r : FunctionRecord} :
    FunctionForm (start :: (last.toList ++ [hits, name])) r
      ↔ IsNumber start r.start ∧ IsCount hits r.hits
        ∧ r.name = String.ofList name := by
  constructor
  · rintro ⟨last', hfields, hstart, hhits, hname⟩
    injection hfields with hs hfields
    obtain ⟨-, hend⟩ := List.append_inj' hfields rfl
    injection hend with hh hend
    injection hend with hn
    rw [hs, hh, hn]
    exact ⟨hstart, hhits, hname⟩
  · rintro ⟨hstart, hhits, hname⟩
    exact .mk last rfl hstart hhits hname

/-- An end line between start and hits has no influence. -/
theorem readsAlike_function (start last hits name : List Char) :
    ReadsAlike readFunction [start, last, hits, name]
      [start, hits, name] :=
  accepts_function.readsAlike fun _ =>
    (functionForm_iff (some last)).trans (functionForm_iff none).symm

end Gcov

-- ================================================================= lcov

namespace Lcov

open Record

/-- Where a function starts and its name; perhaps there is one field more
between them, where it ends, and that has to be a number. -/
inductive StartForm (fs : List (List Char)) (p : String × Nat) : Prop
  | mk {start name : List Char} (last : Option (List Char))
      (hfields : fs = start :: (last.toList ++ [name]))
      (hlast : ∀ e ∈ last, ∃ m, IsNumber e m)
      (hstart : IsNumber start p.2) (hname : p.1 = String.ofList name)

/-- The hits of a function and its name. -/
inductive HitsForm (fs : List (List Char)) (p : String × Count) : Prop
  | mk {hits name : List Char} (hfields : fs = [hits, name])
      (hhits : IsCount hits p.2) (hname : p.1 = String.ofList name)

/-- How a branch went, from how often it was taken. A hyphen stands for a
branch that was never reached. -/
inductive Went (taken : List Char) (status : BranchStatus) : Prop
  | counted {c : Count} (hcount : IsCount taken c)
      (hstatus : status = if 0 < c.toNat then .taken else .notTaken)
  | notReached (hhyphen : taken = ['-']) (hstatus : status = .notTaken)

/-- A line, two numbers for the branch, and how often it was taken. -/
inductive BranchHitsForm (fs : List (List Char))
    (p : Nat × BranchStatus) : Prop
  | mk {line taken : List Char} (block branch : List Char)
      (hfields : fs = [line, block, branch, taken])
      (hline : IsNumber line p.1) (htaken : Went taken p.2)

-- how a payload is read does not hang on the source root
/-- The start record of lcov is accepted by its form. -/
theorem accepts_functionStart :
    Accepts .functionStart readFunctionStart StartForm := by
  refine accepts_of_judges ?_ (judges_functionStart none) fun payload p => ?_
  · rintro ⟨name, start⟩ ⟨name', start'⟩ h
    cases h
    rfl
  · obtain ⟨name, start⟩ := p
    constructor
    · intro h
      cases h with
      | functionStart hfields hstart =>
          exact .mk none hfields nofun hstart rfl
      | functionStartWithEnd hfields hlast hstart =>
          refine .mk (some _) hfields ?_ hstart rfl
          rintro e ⟨⟩
          exact ⟨_, hlast⟩
    · rintro ⟨last, hfields, hlast, hstart, rfl⟩
      cases last with
      | none => exact .functionStart hfields hstart
      | some e =>
          obtain ⟨m, hm⟩ := hlast e rfl
          exact .functionStartWithEnd hfields hm hstart

/-- The hits record of lcov is accepted by its form. -/
theorem accepts_functionHits :
    Accepts .functionHits readFunctionHits HitsForm := by
  refine accepts_of_judges ?_ (judges_functionHits none) fun payload p => ?_
  · rintro ⟨name, hits⟩ ⟨name', hits'⟩ h
    cases h
    rfl
  · obtain ⟨name, hits⟩ := p
    constructor
    · intro h
      cases h with
      | functionHits hfields hhits => exact .mk hfields hhits rfl
    · rintro ⟨hfields, hhits, rfl⟩
      exact .functionHits hfields hhits

/-- The line record of lcov is accepted by its form. -/
theorem accepts_lineHits :
    Accepts .lineHits Lcov.readLineHits LineForm := by
  refine accepts_of_judges ?_ (judges_lineHits none) fun payload p => ?_
  · rintro ⟨n, c⟩ ⟨n', c'⟩ h
    cases h
    rfl
  · rw [← lineHits_iff]
    constructor
    · rintro ⟨⟩
      assumption
    · exact .lineHits

/-- The branch record of lcov is accepted by its form. -/
theorem accepts_branchHits :
    Accepts .branchHits readBranchHits BranchHitsForm := by
  have hwent : ∀ c : Count,
      (if 0 < c.toNat then .taken else .notTaken : BranchStatus)
        = if c.toNat = 0 then .notTaken else .taken := by
    intro c
    by_cases h : c.toNat = 0
    · rw [if_pos h, if_neg (by omega)]
    · rw [if_neg h, if_pos (Nat.pos_of_ne_zero h)]
  refine accepts_of_judges ?_ (judges_branchHits none) fun payload p => ?_
  · rintro ⟨n, status⟩ ⟨n', status'⟩ h
    cases h
    rfl
  · obtain ⟨n, status⟩ := p
    constructor
    · intro h
      cases h with
      | branchHits hfields hnumber htaken =>
          exact .mk _ _ hfields hnumber (.counted htaken (hwent _).symm)
      | branchNotReached hfields hnumber =>
          exact .mk _ _ hfields hnumber (.notReached rfl rfl)
    · rintro ⟨block, branch, hfields, hline, htaken⟩
      cases htaken with
      | counted hcount hstatus =>
          rw [hstatus, hwent]
          exact .branchHits hfields hline hcount
      | notReached hhyphen hstatus =>
          rw [hhyphen] at hfields
          rw [hstatus]
          exact .branchNotReached hfields hline

/-- Where the function ends has to be a number, and matters no more. -/
theorem startForm_iff {start name : List Char} {last : Option (List Char)}
    (hlast : ∀ e ∈ last, ∃ m, IsNumber e m) {p : String × Nat} :
    StartForm (start :: (last.toList ++ [name])) p
      ↔ IsNumber start p.2 ∧ p.1 = String.ofList name := by
  constructor
  · rintro ⟨last', hfields, -, hstart, hname⟩
    injection hfields with hs hfields
    obtain ⟨-, hend⟩ := List.append_inj' hfields rfl
    injection hend with hn
    rw [hs, hn]
    exact ⟨hstart, hname⟩
  · rintro ⟨hstart, hname⟩
    exact .mk last rfl hlast hstart hname

/-- An end line has no influence, as long as it is a number. -/
theorem readsAlike_functionStart {start last name : List Char} {m : Nat}
    (hlast : IsNumber last m) :
    ReadsAlike readFunctionStart [start, last, name] [start, name] := by
  have hnumber : ∀ e ∈ some last, ∃ m, IsNumber e m := by
    rintro e ⟨⟩
    exact ⟨m, hlast⟩
  have hshort : ∀ e ∈ (none : Option (List Char)), ∃ m, IsNumber e m :=
    nofun
  exact accepts_functionStart.readsAlike fun _ =>
    (startForm_iff hnumber).trans (startForm_iff hshort).symm

/-- The numbers of a branch do not matter. -/
theorem branchHitsForm_iff {line block branch taken : List Char}
    {p : Nat × BranchStatus} :
    BranchHitsForm [line, block, branch, taken] p
      ↔ IsNumber line p.1 ∧ Went taken p.2 := by
  constructor
  · rintro ⟨block', branch', hfields, hline, htaken⟩
    cases hfields
    exact ⟨hline, htaken⟩
  · rintro ⟨hline, htaken⟩
    exact .mk block branch rfl hline htaken

/-- Block and branch have no influence, whatever they are. -/
theorem readsAlike_branchHits
    (line block branch block' branch' taken : List Char) :
    ReadsAlike readBranchHits [line, block, branch, taken]
      [line, block', branch', taken] :=
  accepts_branchHits.readsAlike fun _ =>
    branchHitsForm_iff.trans branchHitsForm_iff.symm

end Lcov

-- ========================================================== all the types

namespace Tracefile

open Record

/-- Each type of record about a file accepts just the payloads of its
form, reads what the form says, and blames any other payload. The fields
that say nothing change neither what is accepted nor what is read: where
a function of gcov ends, what follows the hits of a line, the two numbers
of a branch, and where a function of lcov ends if that is a number. -/
theorem payloads_accepted :
    (Accepts .function Gcov.readFunction Gcov.FunctionForm
      ∧ Accepts .lcount Gcov.readLine LineForm
      ∧ Accepts .branch Gcov.readBranch Gcov.BranchForm)
    ∧ (Accepts .functionStart Lcov.readFunctionStart Lcov.StartForm
      ∧ Accepts .functionHits Lcov.readFunctionHits Lcov.HitsForm
      ∧ Accepts .lineHits Lcov.readLineHits LineForm
      ∧ Accepts .branchHits Lcov.readBranchHits Lcov.BranchHitsForm)
    ∧ (∀ start last hits name,
      ReadsAlike Gcov.readFunction [start, last, hits, name]
        [start, hits, name])
    ∧ (∀ line hits more,
      ReadsAlike Gcov.readLine [line, hits, more] [line, hits]
        ∧ ReadsAlike Lcov.readLineHits [line, hits, more] [line, hits])
    ∧ (∀ line block branch block' branch' taken,
      ReadsAlike Lcov.readBranchHits [line, block, branch, taken]
        [line, block', branch', taken])
    ∧ ∀ start last name m, IsNumber last m →
      ReadsAlike Lcov.readFunctionStart [start, last, name]
        [start, name] :=
  ⟨⟨Gcov.accepts_function, Gcov.accepts_lcount, Gcov.accepts_branch⟩,
    ⟨Lcov.accepts_functionStart, Lcov.accepts_functionHits,
      Lcov.accepts_lineHits, Lcov.accepts_branchHits⟩,
    Gcov.readsAlike_function,
    fun _ _ _ => ⟨Gcov.accepts_lcount.readsAlike_line _ _ _,
      Lcov.accepts_lineHits.readsAlike_line _ _ _⟩,
    Lcov.readsAlike_branchHits,
    fun _ _ _ _ => Lcov.readsAlike_functionStart⟩

/-- A function with an end line is read as without it, and with an end
line that is no number it is blamed. -/
theorem payloads_accepted_endLine :
    IsNumber "9".toList 9
      ∧ HasFields "+3,9,f".toList ["+3".toList, "9".toList, "f".toList]
      ∧ HasFields "+3,f".toList ["+3".toList, "f".toList]
      ∧ (Lcov.readFunctionStart "+3,9,f".toList).toOption = some ("f", 3)
      ∧ (Lcov.readFunctionStart "+3,f".toList).toOption = some ("f", 3)
      ∧ ∃ defect, Lcov.readFunctionStart "+3,x,f".toList
        = .error (.record .functionStart "+3,x,f".toList defect) := by
  have hnine : IsNumber "9".toList 9 :=
    (@readNumber_eq_ok_iff .functionStart [] .endLine _ _).1 rfl
  have hlong : HasFields "+3,9,f".toList
      ["+3".toList, "9".toList, "f".toList] :=
    fields_eq_iff.1 (by decide)
  have hshort : HasFields "+3,f".toList ["+3".toList, "f".toList] :=
    fields_eq_iff.1 (by decide)
  obtain ⟨-, ⟨hstart, -⟩, -, -, -, halike⟩ := payloads_accepted
  have hread : (Lcov.readFunctionStart "+3,f".toList).toOption
      = some ("f", 3) := by decide
  have hrefused : ∃ fault,
      Lcov.readFunctionStart "+3,x,f".toList = .error fault :=
    ⟨_, rfl⟩
  obtain ⟨fault, hfault⟩ := hrefused
  obtain ⟨defect, rfl⟩ := hstart.blames _ fault hfault
  refine ⟨hnine, hlong, hshort, ?_, hread, defect, hfault⟩
  rw [halike _ _ _ 9 hnine _ _ hlong hshort, hread]

end Tracefile

end Coverage
