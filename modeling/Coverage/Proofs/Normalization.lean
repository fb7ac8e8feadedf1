/-
Making names relative to an absolute root loses nothing. Every file of the
set goes to one name, its own or the one that it has below the root. What
stands under a name afterwards is the file that had it, with those merged
in that were moved there, in the order of their old names
(`FileSet.MadeOf`); and a merged file holds just what its parts hold
(`FileData.IsSumOf`). A file that is neither moved nor joined by others
stays as it was, and a second time nothing is moved at all.

# How it is proved

What stands under a name is known from `get?_normalize`. Here its parts
are named, and `FileData.isSumOf_mergeAll?` says what they come to: a
look-up in merged files is the sum of the look-ups, whatever is looked up.
-/
import Coverage.Proofs.Contents
import Coverage.Proofs.SourceRoot

namespace Coverage

-- ======================================================== sums of files

/-- Outcomes one after the other. -/
def Outcomes.concat (os : List Outcomes) : Outcomes :=
  ⟨os.flatMap (·.toList)⟩

theorem Outcomes.sum_eq_concat (os : List Outcomes) :
    os.sum = concat os := by
  induction os with
  | nil => rfl
  | cons o os ih =>
      rw [List.sum_cons, ih]
      ext1
      simp [concat]

namespace FileData

/-- The file holds what the files hold together, and nothing else: hits
add up, outcomes follow one another, and of the start lines of a function
the first that is known is kept. -/
structure IsSumOf (d : FileData) (ds : List FileData) : Prop where
  lines : ∀ line : Nat, d.lines[line]?
    = ifAny Count.total (ds.filterMap fun e => e.lines[line]?)
  functions : ∀ g : String, d.functions[g]?
    = ifAny FunctionData.total (ds.filterMap fun e => e.functions[g]?)
  branches : ∀ line : Nat, d.branches[line]?
    = ifAny Outcomes.concat (ds.filterMap fun e => e.branches[line]?)
  regions : ∀ r : Region, d.regions[r]?
    = ifAny Count.total (ds.filterMap fun e => e.regions[r]?)

/-- A look-up that adds up when two files are merged adds up over all. -/
theorem bind_mergeAll? {V : Type} [AddMonoid V]
    {look : FileData → Option V}
    (h : ∀ d e, look (d.merge e) = Option.merge (· + ·) (look d) (look e))
    (ds : List FileData) :
    (mergeAll? ds).bind look = ifAny List.sum (ds.filterMap look) := by
  induction ds with
  | nil => rfl
  | cons d ds ih =>
      have hsum : ifAny List.sum ((d :: ds).filterMap look)
          = Option.merge (· + ·) (look d)
              (ifAny List.sum (ds.filterMap look)) := by
        cases hd : look d with
        | none => rw [List.filterMap_cons_none hd, Option.merge_none_left]
        | some v => rw [List.filterMap_cons_some hd, merge_some_ifAny_sum]
      rw [hsum, ← ih, mergeAll?_cons]
      cases mergeAll? ds with
      | none =>
          rw [Option.merge_none_right, Option.bind_none,
            Option.merge_none_right]
          rfl
      | some e => exact h d e

/-- Merged files hold what the files hold together. -/
theorem isSumOf_mergeAll? {ds : List FileData} {d : FileData}
    (h : mergeAll? ds = some d) : d.IsSumOf ds := by
  have hlook : ∀ {V : Type} [AddMonoid V] (look : FileData → Option V),
      (∀ e f, look (e.merge f) = Option.merge (· + ·) (look e) (look f)) →
        look d = ifAny List.sum (ds.filterMap look) := by
    intro V _ look hmerge
    rw [← bind_mergeAll? hmerge, h, Option.bind_some]
  constructor
  · intro line
    have hsum := hlook (fun e => e.lines[line]?) fun e f =>
      Ledger.getElem?_merge_eq e.lines f.lines line
    rwa [funext Count.sum_eq] at hsum
  · intro g
    have hsum := hlook (fun e => e.functions[g]?) fun e f =>
      Ledger.getElem?_merge_eq e.functions f.functions g
    rwa [funext FunctionData.sum_eq] at hsum
  · intro line
    have hsum := hlook (fun e => e.branches[line]?) fun e f =>
      Ledger.getElem?_merge_eq e.branches f.branches line
    rwa [funext Outcomes.sum_eq_concat] at hsum
  · intro r
    have hsum := hlook (fun e => e.regions[r]?) fun e f =>
      Ledger.getElem?_merge_eq e.regions f.regions r
    rwa [funext Count.sum_eq] at hsum

end FileData

-- ============================================================ regrouping

namespace FileSet

/-- The file of that name, unless it is moved to another. -/
def staying (S : FileSet) (root : List Char) (m : String) :
    Option FileData :=
  if relativeName? root m = none then S.get? m else none

/-- What is merged under a name: the file that stays there, and the moved
ones under that name. -/
def parts (S : FileSet) (root : List Char) (m : String)
    (moved : List (String × FileData)) : List FileData :=
  (S.staying root m).toList ++ moved.map fun p => { p.2 with name := m }

/-- Under the name stands what stood there with the moved files merged in,
which are all other files whose names become it. -/
structure MadeOf (S T : FileSet) (root : List Char) (m : String)
    (moved : List (String × FileData)) : Prop where
  sorted : moved.Pairwise fun a b => a.1 < b.1
  mem_iff : ∀ n d, (n, d) ∈ moved
    ↔ S.get? n = some d ∧ n ≠ m ∧ nameBelow root n = m
  merged : T.get? m = FileData.mergeAll? (S.parts root m moved)
  name : ∀ d, T.get? m = some d → d.name = m
  sum : ∀ d, T.get? m = some d → d.IsSumOf (S.parts root m moved)

/-- The second set is the first, regrouped by the names below the root. -/
structure Regroups (S T : FileSet) (root : List Char) : Prop where
  names : ∀ m, m ∈ T.names ↔ ∃ n ∈ S.names, nameBelow root n = m
  files : ∀ m, ∃ moved, S.MadeOf T root m moved
  unmoved : ∀ n d, S.get? n = some d → relativeName? root n = none →
    (∀ k ∈ S.names, relativeName? root k ≠ some n) → T.get? n = some d

variable {S : FileSet} {root : List Char}

/-- The files that are gathered under a name are the one that stays there
and those that are moved to it. -/
theorem gathering_eq_parts (hroot : SourcePath.isAbsolute root = true)
    (hS : S.Keyed) (m : String) :
    S.gathering (nameBelow root) m
      = S.parts root m
          (S.toList.filter fun p => nameBelow root p.1 = m ∧ p.1 ≠ m) := by
  have hkeep : (S.toList.filter
      (fun p => nameBelow root p.1 = m ∧ p.1 = m)).map
        (fun p => { p.2 with name := m }) = (S.staying root m).toList := by
    unfold staying
    cases hm : relativeName? root m with
    | none =>
        have hkeeping := filter_keeping_eq S hm
        unfold nameBelow
        rw [hkeeping, if_pos rfl]
        cases hd : S.get? m with
        | none => rfl
        | some d =>
            show [{ d with name := m }] = [d]
            rw [← hS m d hd]
    | some t =>
        -- the file of that name is moved, and to another name
        have hnone : ∀ p : String × FileData,
            ¬ (nameBelow root p.1 = m ∧ p.1 = m) := by
          rintro p ⟨hp, rfl⟩
          have hstable := relativeName?_nameBelow hroot p.1
          rw [hp, hm] at hstable
          cases hstable
        rw [if_neg (by simp)]
        simp [hnone]
  rw [gathering, List.map_append, hkeep]
  rfl

/-- What stands under a name after normalizing is made of the file that
had it and those that are moved there. -/
theorem madeOf_normalize (hroot : SourcePath.isAbsolute root = true)
    (hS : S.Keyed) (m : String) :
    S.MadeOf (S.normalize root) root m
      (S.toList.filter fun p => nameBelow root p.1 = m ∧ p.1 ≠ m) := by
  have hmerged : (S.normalize root).get? m
      = FileData.mergeAll? (S.parts root m
          (S.toList.filter fun p => nameBelow root p.1 = m ∧ p.1 ≠ m)) := by
    rw [get?_normalize hroot hS, gathered, gathering_eq_parts hroot hS]
  refine ⟨(pairwise_lt_toList S).filter _, fun n d => ?_, hmerged,
    fun d hd => hS.normalize hroot m d hd, fun d hd => ?_⟩
  · rw [List.mem_filter, mem_toList, decide_eq_true_eq,
      and_comm (a := n ≠ m)]
  · exact FileData.isSumOf_mergeAll? (hmerged.symm.trans hd)

/-- The names are those that the names of the set become. -/
theorem mem_names_normalize (hroot : SourcePath.isAbsolute root = true)
    (hS : S.Keyed) (m : String) :
    m ∈ (S.normalize root).names
      ↔ ∃ n ∈ S.names, nameBelow root n = m := by
  rw [mem_names, ← Option.isSome_iff_exists, get?_normalize hroot hS,
    isSome_gathered]

/-- Where no file is moved to, a file that is not moved stays. -/
theorem get?_normalize_of_unmoved
    (hroot : SourcePath.isAbsolute root = true) (hS : S.Keyed) {n : String}
    {d : FileData} (hd : S.get? n = some d)
    (hn : relativeName? root n = none)
    (hothers : ∀ k ∈ S.names, relativeName? root k ≠ some n) :
    (S.normalize root).get? n = some d := by
  have hmoved : S.toList.filter
      (fun p => nameBelow root p.1 = n ∧ p.1 ≠ n) = [] := by
    rw [List.filter_eq_nil_iff]
    rintro ⟨k, e⟩ hk hcond
    obtain ⟨hbelow, hne⟩ := of_decide_eq_true hcond
    unfold nameBelow at hbelow
    cases hrel : relativeName? root k with
    | none => exact hne (by rw [← hbelow, hrel]; rfl)
    | some t =>
        rw [hrel] at hbelow
        have hmem := (mem_names S).2 ⟨e, (mem_toList S).1 hk⟩
        exact hothers k hmem (hrel.trans (congrArg some hbelow))
  rw [(madeOf_normalize hroot hS n).merged, hmoved, parts, staying,
    if_pos hn, hd]
  rfl

/-- Making names relative to an absolute root regroups a keyed set, and
doing it again changes nothing. -/
theorem normalize_regroups (hroot : SourcePath.isAbsolute root = true)
    (hS : S.Keyed) :
    S.Regroups (S.normalize root) root
      ∧ (S.normalize root).normalize root = S.normalize root := by
  refine ⟨⟨mem_names_normalize hroot hS, fun m =>
    ⟨_, madeOf_normalize hroot hS m⟩, fun n d hd hn hothers =>
      get?_normalize_of_unmoved hroot hS hd hn hothers⟩, ?_⟩
  refine normalize_eq_self fun m hm => ?_
  obtain ⟨n, -, rfl⟩ := (mem_names_normalize hroot hS m).1 hm
  exact relativeName?_nameBelow hroot n

/-- One file under three spellings, and one that lies elsewhere. -/
def spelledThrice : FileSet :=
  .ofList
    [(FileData.empty "/r/a.c").addBranch 3 .taken,
      (FileData.empty "a.c").addBranch 3 .notTaken,
      (FileData.empty "/r//a.c").addFunction "f" 2 (.saturate 1),
      FileData.empty "/x/b.c"]

/-- The three become one file, whose outcomes stand in the order of the
old names, and the other stays. -/
theorem normalize_regroups_spelledThrice :
    SourcePath.isAbsolute ['/', 'r'] = true ∧ spelledThrice.Keyed
      ∧ (spelledThrice.normalize ['/', 'r']).names = ["/x/b.c", "a.c"]
      ∧ ((spelledThrice.normalize ['/', 'r']).get? "a.c").bind
          (fun d => d.branches[3]?) = some ⟨[.notTaken, .taken]⟩
      ∧ (spelledThrice.normalize ['/', 'r']).get? "/x/b.c"
        = spelledThrice.get? "/x/b.c"
      ∧ spelledThrice.Regroups (spelledThrice.normalize ['/', 'r'])
          ['/', 'r'] := by
  have hroot : SourcePath.isAbsolute ['/', 'r'] = true := by decide
  have hS : spelledThrice.Keyed := Keyed.empty.insertMany _
  have hregroups := (normalize_regroups hroot hS).1
  refine ⟨hroot, hS, by decide +kernel, by decide +kernel, ?_, hregroups⟩
  have hmem : "/x/b.c" ∈ spelledThrice.names := by decide +kernel
  obtain ⟨d, hd⟩ := (mem_names _).1 hmem
  rw [hd]
  exact hregroups.unmoved _ d hd (by decide +kernel) (by decide +kernel)

end FileSet

end Coverage
