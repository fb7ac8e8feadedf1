/-
The format of regions does not matter. A listing of blocks leaves the
same set of files whether it is read from a profile of the Go tools or
from an export of llvm-cov, whatever the set was before, and so the same
lines are derived from it (`record_blockListing`).

# How it is proved

What the formats ask for is known (`decode_profile`,
`decode_exportBytes`). An export makes every file before it adds to it,
which a profile leaves to the first block. Each file of a listing has a
block, so this makes no difference (`applyAll_touch`).
-/
import Coverage.Proofs.BlockListing
import Coverage.Proofs.Contents
import Coverage.Proofs.JsonText

namespace Coverage

namespace FileSet

open BlockListing (File Block)

/-- A file that is added to need not be made before. -/
theorem applyAll_touch (S : FileSet) (file : String) {xs : List Datum}
    (hne : xs ≠ []) :
    S.applyAll (.touch file :: xs.map (.add file))
      = S.applyAll (xs.map (.add file)) := by
  cases xs with
  | nil => exact absurd rfl hne
  | cons x rest =>
      have hfirst : (S.apply (.touch file)).apply (.add file x)
          = S.apply (.add file x) :=
        update_update S file id (·.add x)
      rw [List.map_cons, applyAll_cons, applyAll_cons, hfirst,
        applyAll_cons]

/-- So the files of a listing need not be made first. -/
theorem applyAll_blockListing (S : FileSet) (l : BlockListing) :
    S.applyAll (l.files.flatMap fun f => .touch f.key :: f.edits)
      = S.applyAll (l.files.flatMap File.edits) := by
  refine foldl_flatMap_congr (fun f T => ?_) l.files S
  have hdata : f.edits = (f.blocks.map Block.datum).map (.add f.key) := by
    rw [File.edits, List.map_map]
    rfl
  have hne : f.blocks.map Block.datum ≠ [] :=
    List.map_eq_nil_iff.not.2 f.blocks_ne_nil
  rw [hdata]
  exact T.applyAll_touch f.key hne

/-- A listing of blocks is read without a fault, and leaves the same set
of files, from a profile and from an export, in JSON or as it is,
whatever was in the set before. So the same lines come of it. -/
theorem record_blockListing [Libraries] [LawfulLibraries] (S : FileSet)
    (l : BlockListing) :
    S.record (GoProfile.decode l.profile)
        = (S.applyAll (l.files.flatMap File.edits), none)
      ∧ S.record (LlvmExport.decode ⟨l.exportBytes, none⟩)
        = (S.applyAll (l.files.flatMap File.edits), none)
      ∧ S.record l.toExport.journal
        = (S.applyAll (l.files.flatMap File.edits), none)
      ∧ (S.record (GoProfile.decode l.profile)).1.deriveLines
        = (S.record (LlvmExport.decode ⟨l.exportBytes, none⟩)).1.deriveLines
      := by
  have hprofile : S.record (GoProfile.decode l.profile)
      = (S.applyAll (l.files.flatMap File.edits), none) := by
    rw [l.decode_profile, record]
  have hexport : S.record (LlvmExport.decode ⟨l.exportBytes, none⟩)
      = (S.applyAll (l.files.flatMap File.edits), none) := by
    rw [l.decode_exportBytes, record, S.applyAll_blockListing]
  refine ⟨hprofile, hexport, ?_, ?_⟩
  · rw [l.journal_toExport, record, S.applyAll_blockListing]
  · rw [hprofile, hexport]

open BuiltIn

/-- Two blocks with the same places and counts that add up beyond the
limit, a block that ends before it begins, and a file that is listed
twice, under a name with quotes and a blank. -/
def quotedBlocks : BlockListing where
  mode := " count\r".toList
  mode_no_lineFeed := by decide
  files :=
    [⟨"\"a b\".go".toList, List.cons_ne_nil _ _, by decide, by decide,
      [⟨⟨1, 1⟩, ⟨3, 2⟩, 2, .saturate Count.limit, by decide⟩,
        ⟨⟨1, 1⟩, ⟨3, 2⟩, 1, .saturate 2, by decide⟩], List.cons_ne_nil _ _⟩,
      ⟨"b.go".toList, List.cons_ne_nil _ _, by decide, by decide,
        [⟨⟨9, 1⟩, ⟨2, 7⟩, 0, 0, by decide⟩], List.cons_ne_nil _ _⟩,
      ⟨"\"a b\".go".toList, List.cons_ne_nil _ _, by decide, by decide,
        [⟨⟨2, 1⟩, ⟨2, 5⟩, 1, .saturate 3, by decide⟩], List.cons_ne_nil _ _⟩]

/-- The listing is one profile and one export, and what is read from
either adds up. -/
theorem record_blockListing_quotedBlocks :
    quotedBlocks.profile = ("mode: count\r\n"
        ++ "\"a b\".go:1.1,3.2 2 18446744073709551615\n"
        ++ "\"a b\".go:1.1,3.2 1 2\nb.go:9.1,2.7 0 0\n"
        ++ "\"a b\".go:2.1,2.5 1 3\n").toUTF8.data.toList
      ∧ ∃ T : FileSet,
        FileSet.empty.record (GoProfile.decode quotedBlocks.profile)
          = (T, none)
        ∧ FileSet.empty.record
            (LlvmExport.decode ⟨quotedBlocks.exportBytes, none⟩) = (T, none)
        ∧ FileSet.empty.record quotedBlocks.toExport.journal = (T, none)
        ∧ T.names = ["\"a b\".go", "b.go"]
        ∧ (T.get? "\"a b\".go").map (·.regions.toList)
          = some [(⟨1, 1, 3, 2⟩, .saturate Count.limit),
            (⟨2, 1, 2, 5⟩, .saturate 3)] := by
  obtain ⟨hprofile, hexport, hjournal, -⟩ :=
    record_blockListing FileSet.empty quotedBlocks
  exact ⟨by decide +kernel, _, hprofile, hexport, hjournal,
    by decide +kernel, by decide +kernel⟩

end FileSet

end Coverage
