/-
No region touches too many lines. Only two formats know of regions, and
both refuse those that touch more than `Region.maxLines` lines, so what
an input asks for never brings one in, whatever its format
(`Format.narrow_decode`). Merging files and deriving lines brings none in
either.

This bounds what can be derived from a file: at most `Region.maxLines`
lines for each of its regions (`size_regionLines_le`).
-/
import Coverage.Decoding
import Coverage.Proofs.BlockGrammar
import Coverage.Proofs.DerivedLines
import Coverage.Proofs.ExportMeaning
import Coverage.Proofs.GcovGrammar
import Coverage.Proofs.LcovGrammar
import Coverage.Proofs.LineReading

namespace Coverage

-- ================================================================ files

namespace FileData

variable {d e : FileData}

/-- No region of the file touches too many lines. -/
def Narrow (d : FileData) : Prop :=
  ∀ (r : Region) (hits : Count),
    d.regions[r]? = some hits → r.lineCount ≤ Region.maxLines

/-- A file without regions is narrow. -/
theorem Narrow.of_regions_eq_empty (h : d.regions = ∅) : d.Narrow := by
  intro r hits hr
  rw [h, Std.ExtTreeMap.getElem?_empty] at hr
  cases hr

/-- A region that is narrow itself may be added. -/
theorem Narrow.addRegion (hd : d.Narrow) {r : Region}
    (hr : r.lineCount ≤ Region.maxLines) (hits : Count) :
    (d.addRegion r hits).Narrow := by
  intro s hits' hs
  by_cases hrs : r = s
  · rwa [← hrs]
  · rw [FileData.addRegion, Ledger.getElem?_post_of_ne _ hrs] at hs
    exact hd s hits' hs

/-- Merging brings no region in that was in neither file. -/
theorem Narrow.merge (hd : d.Narrow) (he : e.Narrow) : (d.merge e).Narrow := by
  intro r hits hr
  rw [FileData.merge, Ledger.getElem?_merge_eq] at hr
  cases her : e.regions[r]? with
  | some hits' => exact he r hits' her
  | none =>
      rw [her, Option.merge_none_right] at hr
      exact hd r hits hr

/-- Deriving lines leaves the regions as they are. -/
theorem Narrow.tryDeriveLines (hd : d.Narrow) : d.tryDeriveLines.Narrow := by
  unfold FileData.tryDeriveLines deriveLines
  split
  · next hok =>
      split at hok
      · cases hok
        exact hd
      · cases hok
  · exact hd

/-- So does deriving them for files with regions only. -/
theorem Narrow.withRegionLines (hd : d.Narrow) :
    d.withRegionLines.Narrow := by
  unfold FileData.withRegionLines
  split
  · exact hd
  · exact hd

end FileData

-- =============================================================== inputs

open FileData (Narrow)

/-- Records of tracefiles bring no regions in. -/
theorem Tracefile.narrow_decode {G : Grammar}
    {item : List Char → Except Fault Item} (h : G.ReadBy item)
    (hregion : ∀ payload kind r c, ¬ G.Says payload kind (.region r c))
    (s : ByteStream) :
    ∀ e ∈ ((reader item).decode s).edits, e.data.Narrow := by
  refine LineReader.forall_mem_edits_decode ?_ s
  intro current line next es hread e he
  obtain ⟨i, hi, hstep⟩ := exceptBind_eq_ok_iff.1 hread
  cases (h.ok_iff line i).1 hi with
  | file hline =>
      cases hstep
      rw [List.mem_singleton.1 he]
      exact .of_regions_eq_empty rfl
  | endOfFile hend hline =>
      cases hstep
      exact absurd he List.not_mem_nil
  | ignored htype hline =>
      cases hstep
      exact absurd he List.not_mem_nil
  | @datum kind payload x hkind hline hsaid =>
      cases current with
      | none => cases hstep
      | some file =>
          cases hstep
          rw [List.mem_singleton.1 he]
          cases x with
          | line n hits => exact .of_regions_eq_empty rfl
          | function g start hits => exact .of_regions_eq_empty rfl
          | branch n status => exact .of_regions_eq_empty rfl
          | region r hits => exact absurd hsaid (hregion _ _ _ _)

/-- Nor do documents of gcov. -/
theorem GcovJson.narrow_edits (d : GcovJson) :
    ∀ e ∈ d.edits, e.data.Narrow := by
  intro e he
  obtain ⟨f, -, he⟩ := List.mem_flatMap.1 he
  rcases List.mem_cons.1 he with rfl | he
  · exact .of_regions_eq_empty rfl
  · obtain ⟨x, hx, rfl⟩ := List.mem_map.1 he
    rcases List.mem_append.1 hx with hx | hx
    · obtain ⟨g, -, rfl⟩ := List.mem_map.1 hx
      exact .of_regions_eq_empty rfl
    · obtain ⟨l, -, hx⟩ := List.mem_flatMap.1 hx
      rcases List.mem_cons.1 hx with rfl | hx
      · exact .of_regions_eq_empty rfl
      · obtain ⟨c, -, rfl⟩ := List.mem_map.1 hx
        exact .of_regions_eq_empty rfl

/-- An event of an export asks for no region that touches too many
lines. -/
theorem LlvmExport.Event.Asks.narrow {ev : Event} {e : Edit}
    (h : ev.Asks e) : e.data.Narrow := by
  cases h with
  | file name => exact .of_regions_eq_empty rfl
  | region hspan => exact (Narrow.of_regions_eq_empty rfl).addRegion hspan _
  | function hfile hstart hrange => exact .of_regions_eq_empty rfl

/-- So an export asks for none, be it read to its end or not. -/
theorem LlvmExport.narrow_journal (x : LlvmExport) :
    ∀ e ∈ x.journal.edits, e.data.Narrow := by
  have hall : ∀ {evs : List Event} {edits : List Edit},
      List.Forall₂ Event.Asks evs edits → ∀ e ∈ edits, e.data.Narrow := by
    intro evs edits hasks
    induction hasks with
    | nil => exact fun e he => absurd he List.not_mem_nil
    | cons he _ ih => exact List.forall_mem_cons.2 ⟨he.narrow, ih⟩
  unfold journal
  split
  · rw [steps_eq_map]
    rcases ofSteps_cases x.events with ⟨edits, hasks, hrun⟩ | hstop
    · rw [hrun]
      exact hall hasks
    · obtain ⟨before, ev, after, edits, fault, -, hasks, -, hrun⟩ := hstop
      rw [hrun]
      exact hall hasks
  · exact fun e he => absurd he List.not_mem_nil

/-- Blocks of profiles do not touch too many lines. -/
theorem GoProfile.narrow_decode (s : ByteStream) :
    ∀ e ∈ (decode s).edits, e.data.Narrow := by
  refine LineReader.forall_mem_edits_decode ?_ s
  intro seen line next es hread e he
  change read seen line = .ok (next, es) at hread
  unfold read at hread
  split at hread
  · cases hread
    exact absurd he List.not_mem_nil
  · split at hread
    · obtain ⟨b, hb, hes⟩ := exceptBind_eq_ok_iff.1 hread
      obtain ⟨hline, hfile, hcolon, hname, hfirst, hlast, hstatements,
        hcount, hspan⟩ := readBlock_eq_ok_iff.1 hb
      cases hes
      rw [List.mem_singleton.1 he]
      exact (Narrow.of_regions_eq_empty rfl).addRegion hspan _
    · split at hread
      · cases hread
        exact absurd he List.not_mem_nil
      · cases hread

/-- No input in any format brings a region in that touches too many
lines. -/
theorem Format.narrow_decode [Libraries] (format : Format) (s : Settings)
    (stream : ByteStream) (pieceSize : Option Nat) :
    ∀ e ∈ (format.decode s stream pieceSize).edits, e.data.Narrow := by
  cases format with
  | gcov =>
      exact Tracefile.narrow_decode Gcov.readBy Gcov.not_says_region stream
  | lcov =>
      exact Tracefile.narrow_decode (Lcov.readBy s.sourceRoot)
        Lcov.not_says_region stream
  | gcovJson =>
      show ∀ e ∈ (GcovJson.decode _).edits, e.data.Narrow
      unfold GcovJson.decode
      split
      · exact GcovJson.narrow_edits _
      · exact fun e he => absurd he List.not_mem_nil
  | llvm =>
      show ∀ e ∈ (LlvmExport.decode _).edits, e.data.Narrow
      unfold LlvmExport.decode
      split
      · exact LlvmExport.narrow_journal _
      · exact fun e he => absurd he List.not_mem_nil
  | goProfile => exact GoProfile.narrow_decode stream

-- ======================================================== derived lines

/-- An entry that is posted to adds one entry at most. -/
theorem Ledger.size_post_le {K V : Type} [Ord K] [Std.TransOrd K] [Zero V]
    [Add V] (m : Ledger K V) (k : K) (v : V) :
    (m.post k v).size ≤ m.size + 1 :=
  Std.ExtTreeMap.size_alter_le_size

/-- A region adds as many lines as it touches, at most. -/
theorem Ledger.size_foldl_post_le {K V : Type} [Ord K] [Std.TransOrd K]
    [Zero V] [Add V] (ks : List K) (v : V) (m : Ledger K V) :
    (ks.foldl (fun m k => post m k v) m).size ≤ m.size + ks.length := by
  induction ks generalizing m with
  | nil => exact Nat.le_refl _
  | cons k ks ih =>
      have hpost := size_post_le m k v
      have hrest := ih (m.post k v)
      rw [List.foldl_cons, List.length_cons]
      omega

namespace FileData

/-- There are at most so many derived lines for each region. -/
theorem size_regionLines_le {d : FileData} (hd : d.Narrow) :
    d.regionLines.size ≤ Region.maxLines * d.regions.size := by
  have hfold : ∀ (entries : List (Region × Count)) (m : Ledger Nat Count),
      (∀ p ∈ entries, p.1.lineCount ≤ Region.maxLines) →
        (entries.foldl (fun m p => p.1.lines.foldl
          (fun m l => Ledger.post m l p.2) m) m).size
            ≤ m.size + Region.maxLines * entries.length := by
    intro entries
    induction entries with
    | nil => exact fun m _ => Nat.le_refl _
    | cons p entries ih =>
        intro m hentries
        obtain ⟨hp, hentries⟩ := List.forall_mem_cons.1 hentries
        have hone := Ledger.size_foldl_post_le p.1.lines p.2 m
        rw [Region.length_lines] at hone
        have hrest := ih (p.1.lines.foldl
          (fun m l => Ledger.post m l p.2) m) hentries
        rw [List.foldl_cons, List.length_cons, Nat.mul_succ]
        omega
  have hall : ∀ p ∈ d.regions.toList, p.1.lineCount ≤ Region.maxLines :=
    fun p hp => hd p.1 p.2
      (Std.ExtTreeMap.mem_toList_iff_getElem?_eq_some.1 hp)
  have hsize := hfold d.regions.toList ∅ hall
  rw [Std.ExtTreeMap.size_empty, Nat.zero_add,
    Std.ExtTreeMap.length_toList] at hsize
  rw [regionLines, Std.ExtTreeMap.foldl_eq_foldl_toList]
  exact hsize

/-- The lines of a file that has none can be derived, and there are at
most so many for each region. -/
theorem Narrow.exists_deriveLines {d : FileData} (hd : d.Narrow)
    (hlines : d.lines = ∅) :
    ∃ e, d.deriveLines = .ok e
      ∧ e.lines.size ≤ Region.maxLines * d.regions.size := by
  have hempty : d.lines.isEmpty = true :=
    Std.ExtTreeMap.isEmpty_iff.2 hlines
  exact ⟨_, if_pos hempty, size_regionLines_le hd⟩

end FileData

end Coverage
