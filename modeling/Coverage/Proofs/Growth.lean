/-
Data is only ever added. Decode inputs, with whatever success, name
files, add data, insert and merge files, derive lines: every file, line,
function, branch and region that was known before is known after. No
count has become smaller, the outcomes of a line have only grown at
their end, and a function starts where it started.

So a line that was hit stays hit, however large the sums become. They
are cut off at their limit, but never wrap.

# How it is proved

`Within` says of two values that the second knows what the first does:
of counts, of functions, of ledgers, of files and of sets, each by means
of the one before. A sum knows what its first part does, so a merged
file knows what the file did that was merged into, and a set changed at
one file knows what it did if that file does (`within_update`). Edits
and insertions are such changes. Only deriving lines is not a sum; it
puts lines where there were none.
-/
import Coverage.Decoding
import Coverage.Proofs.DerivedLines

namespace Coverage

-- =============================================================== values

/-- The second count is not smaller than the first; in particular what
was hit stays hit. -/
structure Count.Within (a b : Count) : Prop where
  le : a.toNat ≤ b.toNat
  hit : a.isHit = true → b.isHit = true

/-- A count stays within one that is no lower. -/
theorem Count.Within.of_le {a b : Count} (h : a.toNat ≤ b.toNat) :
    a.Within b := by
  refine ⟨h, fun ha => ?_⟩
  rw [isHit, bne_iff_ne] at ha ⊢
  omega

/-- Counts never fall by adding. -/
theorem Count.within_add (a b : Count) : a.Within (a + b) :=
  .of_le (toNat_le_toNat_add a b)

/-- The function ran as often at least, and starts where it did if that
was known. -/
structure FunctionData.Within (a b : FunctionData) : Prop where
  hits : a.hits.Within b.hits
  start : a.start ≠ 0 → b.start = a.start

/-- Adding to a function lowers no hits and keeps a known start. -/
theorem FunctionData.within_add (a b : FunctionData) : a.Within (a + b) where
  hits := Count.within_add a.hits b.hits
  start h := by rw [start_add, if_neg h]

/-- The outcomes that were listed before stand in front. -/
def Outcomes.Within (o p : Outcomes) : Prop := o.toList <+: p.toList

/-- Further outcomes come behind those before. -/
theorem Outcomes.within_add (o p : Outcomes) : o.Within (o + p) :=
  List.prefix_append o.toList p.toList

-- ============================================================== ledgers

namespace Ledger

variable {K V : Type} [Ord K] [Std.TransOrd K]

/-- What stands in the first ledger stands in the second one as well,
with a value that has this relation to it. -/
def Within (R : V → V → Prop) (m n : Ledger K V) : Prop :=
  ∀ (k : K) (v : V), m[k]? = some v → ∃ w, n[k]? = some w ∧ R v w

variable {R : V → V → Prop} {m n o : Ledger K V}

/-- Growth of a ledger goes on if that of its entries does. -/
theorem Within.trans (hR : ∀ u v w, R u v → R v w → R u w)
    (h : Within R m n) (h' : Within R n o) : Within R m o := by
  intro k u hu
  obtain ⟨v, hv, huv⟩ := h k u hu
  obtain ⟨w, hw, hvw⟩ := h' k v hv
  exact ⟨w, hw, hR u v w huv hvw⟩

/-- Anything is growth from nothing. -/
theorem Within.of_empty (R : V → V → Prop) (n : Ledger K V) :
    Within R ∅ n := by
  intro k v hv
  rw [Std.ExtTreeMap.getElem?_empty] at hv
  cases hv

/-- A ledger is within what it is merged into. -/
theorem within_merge [Std.LawfulEqOrd K] [AddMonoid V]
    (hR : ∀ u v, R u (u + v)) (m n : Ledger K V) :
    Within R m (m.merge n) := by
  intro k u hu
  rw [getElem?_merge_eq, hu]
  cases n[k]? with
  | none =>
      refine ⟨u, Option.merge_none_right, ?_⟩
      have hzero := hR u 0
      rwa [add_zero] at hzero
  | some v => exact ⟨u + v, rfl, hR u v⟩

end Ledger

-- ================================================================ files

namespace FileData

/-- Whatever the first file knows the second one does. -/
structure Within (d e : FileData) : Prop where
  lines : Ledger.Within Count.Within d.lines e.lines
  functions : Ledger.Within FunctionData.Within d.functions e.functions
  branches : Ledger.Within Outcomes.Within d.branches e.branches
  regions : Ledger.Within Count.Within d.regions e.regions

/-- A file is within every file that it is merged into. -/
theorem within_merge (d e : FileData) : d.Within (d.merge e) where
  lines := Ledger.within_merge Count.within_add _ _
  functions := Ledger.within_merge FunctionData.within_add _ _
  branches := Ledger.within_merge Outcomes.within_add _ _
  regions := Ledger.within_merge Count.within_add _ _

theorem Within.refl (d : FileData) : d.Within d := by
  have h := within_merge d (empty d.name)
  rwa [merge_empty] at h

theorem Within.trans {d e f : FileData} (h : d.Within e)
    (h' : e.Within f) : d.Within f where
  lines := h.lines.trans
    (fun _ _ _ ab bc => .of_le (ab.le.trans bc.le)) h'.lines
  functions := h.functions.trans
    (fun _ _ _ ab bc => ⟨.of_le (ab.hits.le.trans bc.hits.le), fun ha => by
      have hb := ab.start ha
      rw [bc.start (hb ▸ ha), hb]⟩) h'.functions
  branches := h.branches.trans (fun _ _ _ ab bc => ab.trans bc) h'.branches
  regions := h.regions.trans
    (fun _ _ _ ab bc => .of_le (ab.le.trans bc.le)) h'.regions

/-- Whatever is added to a file, its data grow. -/
theorem within_add (d : FileData) (x : Datum) : d.Within (d.add x) := by
  rw [add_eq_merge d d.name x]
  exact within_merge d _

/-- The file with other lines is not less, if there were no lines. -/
theorem within_of_lines_eq_empty {d : FileData} (h : d.lines = ∅)
    (lines : Ledger Nat Count) : d.Within { d with lines } where
  lines := by
    rw [h]
    exact .of_empty _ _
  functions := (Within.refl d).functions
  branches := (Within.refl d).branches
  regions := (Within.refl d).regions

/-- Deriving lines only adds lines, and only where there were none. -/
theorem within_tryDeriveLines (d : FileData) :
    d.Within d.tryDeriveLines := by
  unfold tryDeriveLines deriveLines
  by_cases h : d.lines.isEmpty = true
  · rw [if_pos h]
    exact within_of_lines_eq_empty (Std.ExtTreeMap.isEmpty_iff.1 h) _
  · rw [if_neg h]
    exact .refl d

/-- Lines that are derived in passing add to a file that does not
clash. -/
theorem within_withRegionLines {d : FileData} (h : d.clashes = false) :
    d.Within d.withRegionLines := by
  unfold withRegionLines
  split
  · exact .refl d
  · next hregions =>
      have hlines : d.lines = ∅ := by
        rw [← Std.ExtTreeMap.isEmpty_iff]
        simpa [clashes, hregions] using h
      exact within_of_lines_eq_empty hlines _

end FileData

-- ================================================================= sets

namespace FileSet

/-- Whatever the first set knows of a file the second one does. -/
def Within (S T : FileSet) : Prop :=
  ∀ n d, S.get? n = some d → ∃ e, T.get? n = some e ∧ d.Within e

variable {S T U : FileSet}

theorem Within.refl (S : FileSet) : S.Within S :=
  fun _ d hd => ⟨d, hd, .refl d⟩

theorem Within.trans (h : S.Within T) (h' : T.Within U) : S.Within U := by
  intro n d hd
  obtain ⟨e, he, hde⟩ := h n d hd
  obtain ⟨f, hf, hef⟩ := h' n e he
  exact ⟨f, hf, hde.trans hef⟩

/-- A change of one file adds to the set if it adds to every file. -/
theorem within_update {f : FileData → FileData}
    (hf : ∀ d : FileData, d.Within (f d)) (S : FileSet) (name : String) :
    S.Within (S.update name f) := by
  intro n d hd
  rw [get?_update]
  by_cases hn : name = n
  · rw [if_pos hn, hn, getOrEmpty, hd]
    exact ⟨f d, rfl, hf d⟩
  · rw [if_neg hn]
    exact ⟨d, hd, .refl d⟩

/-- Inserting a file lets the set grow. -/
theorem within_insert (S : FileSet) (d : FileData) :
    S.Within (S.insert d) := by
  intro n e he
  rw [get?_insert, he]
  split
  · exact ⟨e.merge d, rfl, FileData.within_merge e d⟩
  · exact ⟨e, rfl, .refl e⟩

/-- Edits let the set grow. -/
theorem within_applyAll (S : FileSet) (edits : List Edit) :
    S.Within (S.applyAll edits) := by
  induction edits generalizing S with
  | nil => exact .refl S
  | cons e es ih =>
      rw [applyAll_cons, apply_eq_insert]
      exact (within_insert S e.data).trans (ih _)

/-- Deriving the lines of a whole set only adds, also where it stops. -/
theorem within_deriveLines (S : FileSet) :
    S.Within S.deriveLines.1 := by
  intro n d hd
  rw [get?_fst_deriveLines, hd]
  split
  · next hmem =>
      -- the pass got past this file, so it does not clash
      obtain ⟨⟨m, e⟩, hp, rfl⟩ := List.mem_map.1 hmem
      have he := (mem_toList S).1 ((List.takeWhile_prefix _).subset hp)
      cases hd.symm.trans he
      have hclash := List.mem_takeWhile_imp hp
      exact ⟨_, rfl, FileData.within_withRegionLines (by simpa using hclash)⟩
  · exact ⟨d, rfl, .refl d⟩

end FileSet

-- =========================================================== operations

/-- Something that is done to a set of files to learn more about them. -/
inductive Operation
  /-- An input is decoded, up to its end or its first fault. -/
  | decode (format : Format) (s : Settings) (stream : ByteStream)
      (pieceSize : Option Nat)
  /-- A file is asked for, which makes it. -/
  | touch (name : String)
  /-- A line, function, branch or region is added to a file. -/
  | add (name : String) (datum : Datum)
  /-- A file is inserted under its name. -/
  | insert (d : FileData)
  /-- A file is merged into the one of that name, whatever its own is. -/
  | merge (name : String) (d : FileData)
  /-- The lines of one file are derived, unless it refuses. -/
  | deriveLinesOf (name : String)
  /-- The lines of all files are derived, up to the first that refuses. -/
  | deriveLines

namespace FileSet

variable [Libraries]

/-- The set after the operation. -/
def perform (S : FileSet) : Operation → FileSet
  | .decode format s stream pieceSize =>
    (S.record (format.decode s stream pieceSize)).1
  | .touch name => S.touch name
  | .add name datum => S.update name (·.add datum)
  | .insert d => S.insert d
  | .merge name d => S.update name (·.merge d)
  | .deriveLinesOf name => S.update name FileData.tryDeriveLines
  | .deriveLines => S.deriveLines.1

/-- The set after operations, one after the other. -/
def performAll (S : FileSet) (ops : List Operation) : FileSet :=
  ops.foldl perform S

/-- Whatever is done to a set, everything that was known is known
afterwards. -/
theorem within_perform (S : FileSet) (op : Operation) :
    S.Within (S.perform op) := by
  cases op with
  | decode format s stream pieceSize => exact within_applyAll S _
  | touch name => exact within_update .refl S name
  | add name datum => exact within_update (·.within_add datum) S name
  | insert d => exact within_insert S d
  | merge name d => exact within_update (·.within_merge d) S name
  | deriveLinesOf name =>
      exact within_update FileData.within_tryDeriveLines S name
  | deriveLines => exact within_deriveLines S

/-- Whatever is done to a set, and in whatever order, everything that was
known is known afterwards: files, lines, functions, branches and regions
stay, hits do not become fewer, outcomes stay in front, and a start line
that is known does not change. -/
theorem within_performAll (S : FileSet) (ops : List Operation) :
    S.Within (S.performAll ops) := by
  induction ops generalizing S with
  | nil => exact .refl S
  | cons op ops ih => exact (within_perform S op).trans (ih _)

end FileSet

end Coverage
