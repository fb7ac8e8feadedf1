/-
The format does not matter. A listing leaves the same set of files
whether it is read from a tracefile of gcov, from one of lcov, or taken
as the tree of a document, and whatever the set was before.

# How it is proved

How tracefiles are read is known (`Gcov.decode_gcov`,
`Lcov.decode_lcov`), so what is left is that the data which the formats
supply for a file come to the same. They differ in two ways. lcov says
where a function starts and how often it ran in two records, and these
add up to the function (`add_start_hits`). And records of different
kinds may stand in another order; data that do not interfere may be
exchanged (`Independent`), and so whole sections may be told apart
(`addAll_flatMap_append`).
-/
import Coverage.Proofs.Contents
import Coverage.Proofs.ListingReading

namespace Coverage

-- ================================================================= data

namespace FunctionData

/-- A start and hits that follow are both kept. -/
theorem start_add_hits (start : Nat) (hits : Count) :
    (⟨start, 0⟩ + ⟨0, hits⟩ : FunctionData) = ⟨start, hits⟩ := by
  ext1
  · rw [start_add]
    split
    · next h0 => exact h0.symm
    · rfl
  · exact Count.zero_add hits

/-- So are hits and a start that follows. -/
theorem hits_add_start (start : Nat) (hits : Count) :
    (⟨0, hits⟩ + ⟨start, 0⟩ : FunctionData) = ⟨start, hits⟩ := by
  ext1
  · rfl
  · exact Count.add_zero hits

end FunctionData

/-- The two data may be added in either order. -/
def Independent (x y : Datum) : Prop :=
  ∀ d : FileData, (d.add x).add y = (d.add y).add x

theorem independent_line_branch (line : Nat) (hits : Count) (n : Nat)
    (status : BranchStatus) :
    Independent (.line line hits) (.branch n status) := fun _ => rfl

/-- Where one function starts is independent of how often another one
ran, or the same one. -/
theorem independent_hits_start (g h : String) (start : Nat)
    (hits : Count) :
    Independent (.function g 0 hits) (.function h start 0) := by
  intro d
  simp only [FileData.add, FileData.addFunction]
  congr 1
  by_cases hname : g = h
  · rw [hname, Ledger.post_post, Ledger.post_post,
      FunctionData.start_add_hits, FunctionData.hits_add_start]
  · refine Std.ExtTreeMap.ext_getElem? fun {k} => ?_
    simp only [Ledger.getElem?_post, Std.LawfulEqOrd.compare_eq_iff_eq]
    by_cases hg : g = k
    · rw [if_neg fun hk => hname (hg.trans hk.symm), if_pos hg,
        if_pos hg, if_neg fun hk => hname (hg.trans hk.symm)]
    · rw [if_neg hg, if_neg hg]

namespace FileData

/-- Data that are all independent of a datum may be added before it. -/
theorem addAll_add {x : Datum} {ys : List Datum}
    (h : ∀ y ∈ ys, Independent x y) (d : FileData) :
    (d.add x).addAll ys = (d.addAll ys).add x := by
  induction ys generalizing d with
  | nil => rfl
  | cons y ys ih =>
      have hy := h y List.mem_cons_self d
      show ((d.add x).add y).addAll ys = ((d.add y).addAll ys).add x
      rw [hy, ih fun z hz => h z (List.mem_cons_of_mem _ hz)]

/-- Sections that are independent of one another may be exchanged. -/
theorem addAll_comm {xs ys : List Datum}
    (h : ∀ x ∈ xs, ∀ y ∈ ys, Independent x y) (d : FileData) :
    (d.addAll xs).addAll ys = (d.addAll ys).addAll xs := by
  induction xs generalizing d with
  | nil => rfl
  | cons x xs ih =>
      have hx := addAll_add (h x List.mem_cons_self) d
      show ((d.add x).addAll xs).addAll ys = ((d.addAll ys).add x).addAll xs
      rw [ih fun z hz => h z (List.mem_cons_of_mem _ hz), hx]

/-- What is said item by item in two parts may be said part by part, if
a second part is independent of the first parts behind it. -/
theorem addAll_flatMap_append {α : Type} {f g : α → List Datum}
    (h : ∀ a b, ∀ x ∈ g a, ∀ y ∈ f b, Independent x y) (as : List α)
    (d : FileData) :
    d.addAll (as.flatMap fun a => f a ++ g a)
      = (d.addAll (as.flatMap f)).addAll (as.flatMap g) := by
  induction as generalizing d with
  | nil => rfl
  | cons a as ih =>
      have hpast : ∀ x ∈ g a, ∀ y ∈ as.flatMap f, Independent x y := by
        intro x hx y hy
        obtain ⟨b, -, hy⟩ := List.mem_flatMap.1 hy
        exact h a b x hx y hy
      simp only [List.flatMap_cons, addAll_append]
      rw [ih, addAll_comm hpast]

/-- The start of a function and its hits add up to the function. -/
theorem add_start_hits (d : FileData) (g : String) (start : Nat)
    (hits : Count) :
    d.addAll [.function g start 0, .function g 0 hits]
      = d.addAll [.function g start hits] := by
  simp only [addAll, List.foldl_cons, List.foldl_nil, add, addFunction,
    Ledger.post_post, FunctionData.start_add_hits]

end FileData

-- ================================================================ files

namespace Lcov

open Listing

/-- The data of a file come to the same in lcov as in the tree. -/
theorem addAll_data (f : File) (d : FileData) :
    d.addAll (data f) = d.addAll f.tree.data := by
  have hfunction : ∀ (g : Function) (d : FileData),
      d.addAll [startDatum g, hitsDatum g] = d.addAll [g.tree.datum] :=
    fun g d => FileData.add_start_hits d _ _ _
  have hfunctions := foldl_flatMap_congr hfunction f.functions d
  have hlines : f.lines.flatMap
      (fun l => lineDatum l :: l.branches.map (branchDatum l))
        = f.tree.lines.flatMap GcovJson.Line.data := by
    rw [File.tree, List.flatMap_map]
    refine congrArg (List.flatMap · f.lines) (funext fun l => ?_)
    rw [GcovJson.Line.data, Line.tree, List.map_map]
    rfl
  rw [data, GcovJson.File.data, FileData.addAll_append,
    FileData.addAll_append, hlines]
  refine congrArg (FileData.addAll · _) (hfunctions.trans ?_)
  rw [← List.map_eq_flatMap, File.tree, List.map_map]
  rfl

/-- They come to the same kind by kind as well. -/
theorem addAll_dataByKind (f : File) (d : FileData) :
    d.addAll (dataByKind f) = d.addAll (data f) := by
  have hfunctions := FileData.addAll_flatMap_append
    (f := fun g => [startDatum g]) (g := fun g => [hitsDatum g])
    (fun a b x hx y hy => by
      rw [List.mem_singleton.1 hx, List.mem_singleton.1 hy]
      exact independent_hits_start _ _ _ _) f.functions d
  have hlines := FileData.addAll_flatMap_append
    (f := fun l => [lineDatum l])
    (g := fun l => l.branches.map (branchDatum l))
    (fun a b x hx y hy => by
      obtain ⟨c, -, rfl⟩ := List.mem_map.1 hx
      rw [List.mem_singleton.1 hy]
      exact fun d => (independent_line_branch _ _ _ _ d).symm) f.lines
  rw [← List.map_eq_flatMap, ← List.map_eq_flatMap] at hfunctions
  simp only [← List.map_eq_flatMap] at hlines
  rw [dataByKind, data, FileData.addAll_append, FileData.addAll_append,
    FileData.addAll_append, FileData.addAll_append, ← hlines,
    ← hfunctions]
  rfl

end Lcov

-- ================================================================= sets

namespace FileSet

open Listing

/-- A listing is recorded alike in all data that come to the same. -/
theorem applyAll_edits {data : File → List Datum}
    (h : ∀ f d, FileData.addAll d (data f) = d.addAll f.tree.data)
    (S : FileSet) (l : Listing) :
    S.applyAll (l.files.flatMap fun f => Lcov.edits f (data f))
      = S.applyAll l.tree.edits := by
  rw [GcovJson.edits, Listing.tree, List.flatMap_map]
  refine foldl_flatMap_congr (fun f S => ?_) l.files S
  show (S.update (String.ofList f.name.text) id).applyAll _
    = (S.update (String.ofList f.name.text) id).applyAll
      (f.tree.data.map (.add (String.ofList f.name.text)))
  rw [applyAll_map_add, applyAll_map_add]
  exact congrArg (S.update _) (funext fun d => h f d)

/-- A listing is read without a fault, and leaves the same set of files,
from a tracefile of gcov, from one of lcov, with the records in either
order, and as the tree of a document, whatever was in the set before. -/
theorem record_listing (S : FileSet) (l : Listing) :
    S.record (Gcov.decode l.gcov) = (S.applyAll l.tree.edits, none)
      ∧ S.record (Lcov.decode none l.lcov)
        = (S.applyAll l.tree.edits, none)
      ∧ S.record (Lcov.decode none l.lcovByKind)
        = (S.applyAll l.tree.edits, none) := by
  have hbyKind : ∀ f d, FileData.addAll d (Lcov.dataByKind f)
      = d.addAll f.tree.data := fun f d =>
    (Lcov.addAll_dataByKind f d).trans (Lcov.addAll_data f d)
  refine ⟨?_, ?_, ?_⟩
  · rw [Gcov.decode_gcov, record]
  · rw [Lcov.decode_lcov, record, applyAll_edits Lcov.addAll_data]
  · rw [Lcov.decode_lcovByKind, record, applyAll_edits hbyKind]

/-- A name without a comma that ends in no white space. -/
def runName : FunctionName where
  text := "run(int)".toList
  closed := .of_getLast? (by decide) (c := ')') rfl rfl
  no_comma := by decide

/-- A file with a blank in its name, a function that is listed twice with
different starts, and a line that is listed twice with branches. -/
def branchingFile : File where
  name := ⟨"a b.c".toList, .of_getLast? (by decide) (c := 'c') rfl rfl⟩
  functions := [⟨runName, 3, .saturate 2, none⟩,
    ⟨runName, 7, .saturate Count.limit,
      some ⟨"9".toList, by decide, by decide⟩⟩]
  lines := [⟨4, .saturate 2, [⟨.saturate 2, 0, 0⟩, ⟨0, 0, 1⟩]⟩,
    ⟨4, .saturate 1, [⟨0, 0, 0⟩]⟩]

/-- That file, and it once more. -/
def branchingTwice : Listing := ⟨[branchingFile, branchingFile]⟩

/-- The two tracefiles of the listing differ, and what is read from either
adds up: the first start, the hits up to the limit, the outcomes in
order. -/
theorem record_listing_branchingTwice :
    Text.encodeLines branchingFile.gcov
        = ("file:a b.c\nfunction:3,2,run(int)\n"
          ++ "function:7,9,18446744073709551615,run(int)\n"
          ++ "lcount:4,2\nbranch:4,taken\nbranch:4,nottaken\n"
          ++ "lcount:4,1\nbranch:4,nottaken\n").toUTF8.data.toList
      ∧ branchingTwice.lcov ≠ branchingTwice.lcovByKind
      ∧ ∃ T : FileSet,
        FileSet.empty.record (Gcov.decode branchingTwice.gcov) = (T, none)
        ∧ FileSet.empty.record (Lcov.decode none branchingTwice.lcov)
          = (T, none)
        ∧ FileSet.empty.record (Lcov.decode none branchingTwice.lcovByKind)
          = (T, none)
        ∧ (T.get? "a b.c").map (·.functions.toList)
          = some [("run(int)", ⟨3, .saturate Count.limit⟩)]
        ∧ (T.get? "a b.c").map (·.lines.toList) = some [(4, .saturate 6)]
        ∧ (T.get? "a b.c").map (·.branches.toList)
          = some [(4, ⟨[.taken, .notTaken, .notTaken, .taken, .notTaken,
            .notTaken]⟩)] := by
  obtain ⟨hgcov, hlcov, hbyKind⟩ :=
    record_listing FileSet.empty branchingTwice
  exact ⟨by decide +kernel, by decide +kernel, _, hgcov, hlcov, hbyKind,
    by decide +kernel, by decide +kernel, by decide +kernel⟩

end FileSet

end Coverage
