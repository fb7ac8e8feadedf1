/-
Segments of exports in JSON. A segment is read from an array of at least
five items: two numbers below 2^32 and one below 2^64, all three written
without sign, fraction and exponent, and two truth values (`IsSegment`).
It is read from nothing else, and what it holds is what these say.

What stands behind the fifth item changes nothing, whatever it is, and
neither does it in an export (`segments_exact`). An export and what is
left of it when its segments are cut to five items (`trim`) are read
alike, because the difference is in a field of a field of a field, each of
which is read alike.
-/
import Coverage.FileSet
import Coverage.LlvmExport
import Coverage.Proofs.JsonText
import Coverage.Proofs.JsonWriting

namespace Coverage.LlvmExport

open Json (Tree IsText Document)
open Json.Quoted (piecesOf)

-- ============================================================ segments

/-- The tree is an array whose first five items say the segment: three
numbers without sign, fraction and exponent, and two truth values. What
follows them does not matter. -/
inductive IsSegment : Tree → Segment → Prop
  | mk {line column count : Json.Number.Numeral} {s : Segment}
      (hline : line.IsNatural s.line) (hlineBound : s.line < 1 <<< 32)
      (hcolumn : column.IsNatural s.column)
      (hcolumnBound : s.column < 1 <<< 32)
      (hcount : count.IsNatural s.count.toNat)
      (hcountBound : s.count.toNat < 1 <<< 64) (more : List Tree) :
      IsSegment (.array (.number line :: .number column :: .number count
        :: .bool s.hasCount :: .bool s.isEntry :: more)) s

/-- A segment is read just from an array whose first five items are read
as its parts. The array must not be cut, but its further items are left
alone. -/
theorem Segment.ofJson_eq_ok_iff {v : Json} {s : Segment} :
    Segment.ofJson v = .ok s
      ↔ ∃ line column count hasCount isEntry more,
        v = .array (line :: column :: count :: hasCount :: isEntry :: more)
            none
          ∧ line.asNat lineBound = .ok s.line
          ∧ column.asNat lineBound = .ok s.column
          ∧ count.asCount = .ok s.count ∧ hasCount.asBool = .ok s.hasCount
          ∧ isEntry.asBool = .ok s.isEntry := by
  constructor
  · intro h
    cases v with
    | array items cut =>
        simp only [Segment.ofJson, exceptBind_eq_ok_iff, Prod.exists,
          Json.takeItem_eq_ok_iff, Json.orFault_eq_ok_iff] at h
        obtain ⟨line, _, rfl, m, hline, column, _, rfl, k, hcolumn,
          count, _, rfl, c, hcount, hasCount, _, rfl, b, hhasCount,
          isEntry, more, rfl, e, hisEntry, rfl, rfl⟩ := h
        exact ⟨_, _, _, _, _, _, rfl, hline, hcolumn, hcount, hhasCount,
          hisEntry⟩
    | null => cases h
    | bool b => cases h
    | number value => cases h
    | string text => cases h
    | object members cut => cases h
    | missing fault => cases h
  · rintro ⟨line, column, count, hasCount, isEntry, more, rfl, hline,
      hcolumn, hcount, hhasCount, hisEntry⟩
    show (do
      let line ← line.asNat lineBound
      let column ← column.asNat lineBound
      let count ← count.asCount
      let hasCount ← hasCount.asBool
      let isEntry ← isEntry.asBool
      Json.orFault none (⟨line, column, count, hasCount, isEntry⟩ : Segment))
        = _
    rw [hline, hcolumn, hcount, hhasCount, hisEntry]
    rfl

/-- Of a tree a segment is read just if the tree says it. -/
theorem Segment.ofJson_known_iff {t : Tree} {s : Segment} :
    Segment.ofJson t.known = .ok s ↔ IsSegment t s := by
  have hnumber : ∀ {t : Tree} {k : Nat}, t.known.asNat lineBound = .ok k
      ↔ ∃ n, t = .number n ∧ n.IsNatural k ∧ k < lineBound :=
    Tree.asNat_known_eq_ok_iff (by decide)
  rw [Segment.ofJson_eq_ok_iff]
  constructor
  · rintro ⟨_, _, _, _, _, _, hv, hline, hcolumn, hcount, hhasCount,
      hisEntry⟩
    obtain ⟨ts, rfl, hitems, -⟩ := Tree.known_eq_array_iff.1 hv
    simp only [List.map_eq_cons_iff] at hitems
    obtain ⟨line, _, rfl, rfl, column, _, rfl, rfl, count, _, rfl, rfl,
      hasCount, _, rfl, rfl, isEntry, more, rfl, rfl, -⟩ := hitems
    obtain ⟨l, rfl, hl, hlineBound⟩ := hnumber.1 hline
    obtain ⟨k, rfl, hk, hcolumnBound⟩ := hnumber.1 hcolumn
    obtain ⟨c, rfl, hc⟩ := Tree.asCount_known_eq_ok_iff.1 hcount
    obtain rfl := Tree.asBool_known_eq_ok_iff.1 hhasCount
    obtain rfl := Tree.asBool_known_eq_ok_iff.1 hisEntry
    exact .mk hl hlineBound hk hcolumnBound hc
      (Nat.lt_of_le_pred (by decide) s.count.le_limit) more
  · intro h
    cases h with
    | mk hline hlineBound hcolumn hcolumnBound hcount _ more =>
        exact ⟨_, _, _, _, _, _, rfl,
          hnumber.2 ⟨_, rfl, hline, hlineBound⟩,
          hnumber.2 ⟨_, rfl, hcolumn, hcolumnBound⟩,
          Tree.asCount_known_eq_ok_iff.2 ⟨_, rfl, hcount⟩, rfl, rfl⟩

-- ============================================================== extras

/-- A segment without what stands behind its fifth item. -/
def Segment.trim : Json → Json
  | .array items cut => .array (items.take 5) cut
  | v => v

/-- What stands behind the fifth item changes nothing, whether a segment
is read or not. -/
theorem Segment.ofJson_trim (v : Json) :
    Segment.ofJson (Segment.trim v) = Segment.ofJson v := by
  cases v with
  | array items cut =>
      match items with
      | [] => rfl
      | [_] => rfl
      | [_, _] => rfl
      | [_, _, _] => rfl
      | [_, _, _, _] => rfl
      | _ :: _ :: _ :: _ :: _ :: _ => rfl
  | null => rfl
  | bool b => rfl
  | number value => rfl
  | string text => rfl
  | object members cut => rfl
  | missing fault => rfl

/-- A file with its segments trimmed. -/
def File.trim : Json → Json :=
  Json.onField "segments" 1 (Json.onItems Segment.trim)

/-- A part with the segments of its files trimmed. -/
def Part.trim : Json → Json :=
  Json.onField "files" 0 (Json.onItems File.trim)

/-- An export with all its segments trimmed. -/
def trim : Json → Json :=
  Json.onField "data" 1 (Json.onItems Part.trim)

/-- An export is read as what it is without them. -/
theorem read_trim (v : Json) : shape.read (trim v) = shape.read v := by
  have hsegments := Json.asList_onItems Segment.ofJson_trim
  have hfile : ∀ v, File.shape.read (File.trim v) = File.shape.read v :=
    Json.Shape.read_onField rfl rfl
      (Json.Field.read_allow_congr hsegments _ _)
  have hfiles := Json.asList_onItems hfile
  have hpart : ∀ v, Part.shape.read (Part.trim v) = Part.shape.read v :=
    Json.Shape.read_onField rfl rfl
      (Json.Field.read_allow_congr hfiles _ _)
  have hparts := Json.asList_onItems hpart
  exact Json.Shape.read_onField rfl rfl
    (Json.Field.read_allow_congr hparts _ _) v

-- ========================================================== an export

/-- The start of a region, with further items behind the fifth. -/
def startOfRegion (more : List Tree) : Tree :=
  .array ([.natural 1, .natural 12, .natural 7, .bool true, .bool true]
    ++ more)

/-- The end of it, which has no count. -/
def endOfRegion : Tree :=
  .array [.natural 3, .natural 2, .natural 0, .bool false, .bool false]

/-- An array of one number, which is larger than any that can be read. -/
def tooLarge : Tree :=
  .array [.number ⟨false, [1], [], some ⟨false, [9, 9, 9]⟩⟩]

/-- An export of one file with one region. -/
def oneRegion (more : List Tree) : Tree :=
  let segments := Tree.array [startOfRegion more, endOfRegion]
  let file := Tree.object [(piecesOf "filename", .text "a.c"),
    (piecesOf "segments", segments)]
  let part := Tree.object [(piecesOf "files", .array [file])]
  .object [(piecesOf "type", .text expectedTag),
    (piecesOf "data", .array [part])]

/-- A text of it, from the fifth item of the first segment on. -/
def oneRegionText (items : List UInt8) : List UInt8 :=
  Json.Lexer.spell "\x7b\"type\":\"llvm.coverage.json.export\","
    ++ (Json.Lexer.spell "\"data\":[\x7b\"files\":[\x7b\"filename\":\"a.c\","
    ++ (Json.Lexer.spell "\"segments\":[[1, 12,7,true,"
    ++ (items ++ Json.Lexer.spell "],[3,2,0,false,false]]\x7d]\x7d]\x7d")))

/-- A text of the start of a region, with any text of the items from the
fifth on. A blank stands before the column. -/
theorem isText_startOfRegion {more : List Tree} {bytes : List UInt8}
    (h : IsText bytes (.items (.bool true :: more))) :
    IsText (Json.Lexer.spell "[1, 12,7,true," ++ bytes ++ [']'.toUInt8])
      (.value (startOfRegion more)) := by
  have hblank : Json.AreBlank [' '.toUInt8] :=
    List.forall_mem_cons.2 ⟨rfl, nofun⟩
  have hcolumn :=
    IsText.spaced hblank (Json.isText_natural 12) Json.areBlank_nil
  have hitems := (Json.isText_natural 1).moreItems (hcolumn.moreItems
    ((Json.isText_natural 7).moreItems ((IsText.bool true).moreItems h)))
  exact hitems.array

/-- A text of its end. -/
theorem isText_endOfRegion :
    IsText (Json.Lexer.spell "[3,2,0,false,false]")
      (.value endOfRegion) := by
  have hflags := (IsText.bool false).moreItems (IsText.bool false).item
  have hitems := (Json.isText_natural 3).moreItems
    ((Json.isText_natural 2).moreItems
      ((Json.isText_natural 0).moreItems hflags))
  exact hitems.array

/-- A text of the export. -/
theorem isText_oneRegion {more : List Tree} {bytes : List UInt8}
    (h : IsText bytes (.items (.bool true :: more))) :
    IsText (oneRegionText bytes) (.value (oneRegion more)) := by
  have hsegments :=
    (isText_startOfRegion h).moreItems isText_endOfRegion.item
  have hname := Json.isText_member "filename" (Json.isText_text "a.c")
  have hfile := (hname.moreMembers
    (Json.isText_member "segments" hsegments.array)).object
  have hpart := (Json.isText_member "files" hfile.item.array).object
  have htag := Json.isText_member "type" (Json.isText_text expectedTag)
  have hexport := (htag.moreMembers
    (Json.isText_member "data" hpart.item.array)).object
  simp only [Json.memberBytes, List.append_assoc, List.cons_append]
    at hexport
  exact hexport

/-- The name of a member that is written is read as the name. -/
theorem toOption_read_piecesOf {s name : String} :
    (Json.Quoted.scalar (piecesOf s) none).read.toOption
        = some name
      ↔ s = name := by
  rw [Json.Quoted.scalar_piecesOf, Except.toOption, Option.some_inj]

/-- Trimmed exports do not show what stood behind the fifth item. -/
theorem trim_oneRegion (more : List Tree) :
    trim (oneRegion more).known = trim (oneRegion []).known := by
  simp [trim, Part.trim, File.trim, Segment.trim, oneRegion, startOfRegion,
    Tree.known, Tree.knownMembers, Tree.knownItems, Json.onField,
    Json.onItems, Json.onMember, toOption_read_piecesOf]

/-- A number out of range is a text like any other. -/
theorem isText_tooLarge :
    IsText (Json.Lexer.spell "[1e999]") (.value tooLarge) := by
  have hwhole : Json.Number.AreDigits ['1'.toUInt8] [1] :=
    ⟨nofun, List.all_eq_true.1 rfl, rfl⟩
  have hdigits : Json.Number.AreDigits (Json.Lexer.spell "999") [9, 9, 9] :=
    ⟨nofun, List.all_eq_true.1 rfl, rfl⟩
  have hexponent := Json.Number.IsExponent.some (e := ⟨false, [9, 9, 9]⟩)
    (Or.inl rfl) .none hdigits
  have hnumeral := Json.Number.IsNumeral.mk
    (n := ⟨false, [1], [], some ⟨false, [9, 9, 9]⟩⟩) hwhole (by simp) .none
    hexponent
  exact (IsText.number hnumeral).item.array

/-- The start of a region is a segment. -/
theorem isSegment_startOfRegion (more : List Tree) :
    IsSegment (startOfRegion more) ⟨1, 12, Count.saturate 7, true, true⟩ :=
  IsSegment.mk (s := ⟨1, 12, Count.saturate 7, true, true⟩)
    (Json.Number.isNatural_numeralOf 1) (by decide)
    (Json.Number.isNatural_numeralOf 12) (by decide)
    (Json.Number.isNatural_numeralOf 7) (by decide) more

-- ======================================================= exact reading

/-- A segment is read just from an array of at least five items that say
it, which is written down in `IsSegment`. What stands behind the fifth
item changes nothing, neither for a segment on its own nor in an export:
the set of files that is left, and the fault, are the same. -/
theorem segments_exact [Libraries] [LawfulLibraries] :
    (∀ t s, Segment.ofJson t.known = .ok s ↔ IsSegment t s)
      ∧ (∀ bytes t, IsText bytes (.value t) → ∀ s,
        (Libraries.document ⟨bytes, none⟩).read Segment.ofJson = .ok s
          ↔ IsSegment t s)
      ∧ (∀ items more, 5 ≤ items.length →
        Segment.ofJson (Tree.array (items ++ more)).known
          = Segment.ofJson (Tree.array items).known)
      ∧ ∀ bytes bytes' t t', IsText bytes (.value t) →
        IsText bytes' (.value t') → trim t.known = trim t'.known →
          ∀ S : FileSet, S.record (decode ⟨bytes, none⟩)
            = S.record (decode ⟨bytes', none⟩) := by
  refine ⟨fun t s => Segment.ofJson_known_iff, fun bytes t h s => ?_,
    fun items more hlength => ?_, fun bytes bytes' t t' h h' htrim S => ?_⟩
  · rw [LawfulLibraries.document_text h, Document.read_mk_eq_ok_iff,
      Segment.ofJson_known_iff]
  · have hsame : Segment.trim (Tree.array (items ++ more)).known
        = Segment.trim (Tree.array items).known := by
      simp [Tree.known, Tree.knownItems_eq_map, Segment.trim, hlength,
        List.take_append_of_le_length]
    rw [← Segment.ofJson_trim, hsame, Segment.ofJson_trim]
  · -- the two exports are one once their segments are trimmed
    have hread : shape.read t.known = shape.read t'.known := by
      rw [← read_trim, htrim, read_trim]
    have hdocument : (Libraries.document ⟨bytes, none⟩).read shape.read
        = (Libraries.document ⟨bytes', none⟩).read shape.read := by
      rw [LawfulLibraries.document_text h,
        LawfulLibraries.document_text h', Document.read_mk,
        Document.read_mk, hread]
    have hdecode : decode ⟨bytes, none⟩ = decode ⟨bytes', none⟩ := by
      rw [decode, decode, hdocument]
    rw [hdecode]

open BuiltIn

/-- A first segment with two further items, the first of them an array of
a number out of range, is read as it is without them. -/
theorem segments_exact_furtherItems :
    IsSegment (startOfRegion [tooLarge, .bool false])
        ⟨1, 12, Count.saturate 7, true, true⟩
      ∧ (Libraries.document ⟨Json.Lexer.spell
          "[1, 12,7,true,true,[1e999],false]", none⟩).read Segment.ofJson
        = .ok ⟨1, 12, Count.saturate 7, true, true⟩
      ∧ (∀ s, Segment.ofJson tooLarge.known ≠ .ok s)
      ∧ Segment.ofJson (startOfRegion [tooLarge, .bool false]).known
        = Segment.ofJson (startOfRegion []).known
      ∧ (decode ⟨oneRegionText (Json.Lexer.spell "true"), none⟩).edits
        = [.touch "a.c",
          .add "a.c" (.region ⟨1, 12, 3, 2⟩ (Count.saturate 7))]
      ∧ ∀ S : FileSet, S.record (decode
          ⟨oneRegionText (Json.Lexer.spell "true,[1e999],false"), none⟩)
        = S.record
          (decode ⟨oneRegionText (Json.Lexer.spell "true"), none⟩) := by
  obtain ⟨hvalue, htext, hfurther, hexport⟩ := segments_exact
  have hlong : IsText (Json.Lexer.spell "true,[1e999],false")
      (.items (.bool true :: [tooLarge, .bool false])) :=
    (IsText.bool true).moreItems
      (isText_tooLarge.moreItems (IsText.bool false).item)
  have hshort : IsText (Json.Lexer.spell "true") (.items [.bool true]) :=
    (IsText.bool true).item
  have hsegment := isSegment_startOfRegion [tooLarge, .bool false]
  refine ⟨hsegment, (htext _ _ (isText_startOfRegion hlong) _).2 hsegment,
    fun s h => ?_, hfurther _ _ (by decide), by decide +kernel,
    hexport _ _ _ _ (isText_oneRegion hlong) (isText_oneRegion hshort)
      (trim_oneRegion _)⟩
  -- An array of one item is no segment.
  cases (hvalue _ _).1 h

end Coverage.LlvmExport
