/-
Tracefiles mean what their records say. A tracefile can be read just when
each line means something and each record about a file follows a marker
that names one. Then there is a file for each name that occurs, and it
holds what the records about it come to, and nothing else.

# How it is proved

The reader asks for what the items say of the files that they are about
(`Tracefile.reads_iff`). For one file this is its data, in order
(`Tracefile.filterMap_edits`); the set adds them one after the other
(`getOrEmpty_applyAll`), and what that comes to is known
(`FileData.comesFrom_addAll`).
-/
import Coverage.Proofs.Attribution
import Coverage.Proofs.Contents
import Coverage.Proofs.FileSet
import Coverage.Proofs.GcovGrammar
import Coverage.Proofs.LcovGrammar

namespace Coverage

namespace Tracefile

/-- Of what the items ask for, the data of a file are what they say of
it. -/
theorem filterMap_edits (items : List Item) (name : String) :
    (edits items).filterMap (Edit.datumFor name) = dataOf items name := by
  have hone : ∀ p, (asks p).filterMap (Edit.datumFor name)
      = (saidOf name p).toList := by
    rintro ⟨current, i⟩
    cases i with
    | file n => rfl
    | endOfFile => rfl
    | ignored => rfl
    | datum kind x =>
        cases current with
        | none => rfl
        | some file =>
            by_cases hn : file = name
            · simp [asks, saidOf, Edit.datumFor, hn]
            · simp [asks, saidOf, Edit.datumFor, hn]
  rw [edits, dataOf, List.filterMap_flatMap,
    List.filterMap_eq_flatMap_toList]
  simp only [hone]

/-- What is said of a file stands in some payload. -/
theorem exists_says_of_mem_dataOf {G : Grammar}
    {lines : List (List Char)} {items : List Item}
    (hmeans : List.Forall₂ G.Means lines items) {name : String} {x : Datum}
    (hx : x ∈ dataOf items name) : ∃ kind payload, G.Says payload kind x := by
  obtain ⟨kind, hmem⟩ := mem_of_mem_dataOf hx
  have hline : ∀ i ∈ items, ∃ line, G.Means line i := by
    clear hx hmem
    induction hmeans with
    | nil => exact fun i hi => absurd hi List.not_mem_nil
    | cons hi _ ih => exact List.forall_mem_cons.2 ⟨⟨_, hi⟩, ih⟩
  obtain ⟨line, hdatum⟩ := hline _ hmem
  cases hdatum with
  | datum hkind hrecord hsaid => exact ⟨kind, _, hsaid⟩

/-- The set has a file for each name that occurs in the items, and each
holds what the items say of it and nothing else. -/
structure Describes (items : List Item) (S : FileSet) : Prop where
  names : ∀ n, n ∈ S.names ↔ Item.file n ∈ items
  name : ∀ n d, S.get? n = some d → d.name = n
  contents : ∀ n d, S.get? n = some d → d.ComesFrom (dataOf items n)
  no_regions : ∀ n d, S.get? n = some d → d.regions = ∅

/-- Items that do not speak of regions describe the set that they ask
for. -/
theorem describes_edits {items : List Item}
    (hregion : ∀ n r c, Datum.region r c ∉ dataOf items n) :
    Describes items (FileSet.empty.applyAll (edits items)) := by
  have hcontents : ∀ n d,
      (FileSet.empty.applyAll (edits items)).get? n = some d →
        d.ComesFrom (dataOf items n) := by
    intro n d hd
    have hall := FileSet.getOrEmpty_applyAll .empty (edits items) n
    rw [FileSet.getOrEmpty, hd, filterMap_edits, FileSet.getOrEmpty,
      FileSet.get?_empty] at hall
    cases hall
    exact FileData.comesFrom_addAll n _
  refine ⟨?_, FileSet.Keyed.empty.applyAll _, hcontents, ?_⟩
  · intro n
    rw [FileSet.mem_names_applyAll, exists_mem_edits_iff]
  · intro n d hd
    refine Std.ExtTreeMap.ext_getElem? fun {r} => ?_
    have hnone : (dataOf items n).filterMap (Datum.regionHits r) = [] := by
      refine List.filterMap_eq_nil_iff.2 fun x hx => ?_
      cases x with
      | line m c => rfl
      | function g start c => rfl
      | branch m status => rfl
      | region r' c => exact absurd hx (hregion n r' c)
    rw [(hcontents n d hd).regions, hnone, Std.ExtTreeMap.getElem?_empty]
    rfl

/-- The outcome is that of the grammar. The bytes can be read just when
each line means something and each record about a file follows a marker
that names one, and the set is then what the lines describe. -/
structure Grammar.IsOutcome (G : Grammar) (bytes : List UInt8)
    (outcome : FileSet × Option Fault) : Prop where
  ok_iff : outcome.2 = none ↔ ∃ items,
    List.Forall₂ G.Means (Text.lines bytes) items ∧ Attributed items
  describes : ∀ items, List.Forall₂ G.Means (Text.lines bytes) items →
    Attributed items → Describes items outcome.1

/-- A reader that follows a grammar without regions has its outcome. -/
theorem isOutcome_of_readBy {G : Grammar}
    {item : List Char → Except Fault Item} (h : G.ReadBy item)
    (hregion : ∀ payload kind r c, ¬ G.Says payload kind (.region r c))
    (bytes : List UInt8) :
    G.IsOutcome bytes
      (FileSet.empty.record ((reader item).decode bytes)) := by
  have hjournal : ∀ items,
      List.Forall₂ G.Means (Text.lines bytes) items → Attributed items →
        (reader item).decode bytes = ⟨edits items, none⟩ := by
    intro items hmeans hattr
    exact ((reads_iff h).2 ⟨items, hmeans, hattr, rfl, rfl⟩).run_eq
  refine ⟨⟨fun hnone => ?_, ?_⟩, ?_⟩
  · -- a tracefile without a fault has no line that is refused
    rcases LineReader.reads_or_refused (reader item) none
      (Text.lines bytes) with ⟨state, es, hreads⟩ | hrefused
    · obtain ⟨items, hmeans, hattr, -, -⟩ := (reads_iff h).1 hreads
      exact ⟨items, hmeans, hattr⟩
    · obtain ⟨before, line, after, state, es, fault, hlines, hreads,
        hline⟩ := hrefused
      change ((reader item).run none (Text.lines bytes)).fault = none
        at hnone
      rw [hlines, hreads.run_refused hline] at hnone
      cases hnone
  · rintro ⟨items, hmeans, hattr⟩
    show ((reader item).decode bytes).fault = none
    rw [hjournal items hmeans hattr]
  · intro items hmeans hattr
    show Describes items
      (FileSet.empty.applyAll ((reader item).decode bytes).edits)
    rw [hjournal items hmeans hattr]
    refine describes_edits fun n r c hx => ?_
    obtain ⟨kind, payload, hsaid⟩ := exists_says_of_mem_dataOf hmeans hx
    exact hregion payload kind r c hsaid

end Tracefile

-- ======================================================== either format

namespace FileSet

open Tracefile (Attributed Describes)

/-- A tracefile of gcov, or one of lcov with a source root or without, is
decoded into what its records mean. -/
theorem isOutcome_decode (bytes : List UInt8) :
    Gcov.grammar.IsOutcome bytes
        (FileSet.empty.record (Gcov.decode bytes))
      ∧ ∀ root, (Lcov.grammar root).IsOutcome bytes
        (FileSet.empty.record (Lcov.decode root bytes)) := by
  exact ⟨Tracefile.isOutcome_of_readBy Gcov.readBy Gcov.not_says_region
      bytes,
    fun root => Tracefile.isOutcome_of_readBy (Lcov.readBy root)
      Lcov.not_says_region bytes⟩

/-- A file in two sections, under two spellings. -/
def sections : List UInt8 :=
  ("TN:t\nSF:/r/a.c\nFNDA:2,f\nFN:3,9,f\nDA:1,1\nend_of_record\n"
    ++ "SF:a.c\nDA:1,+4,x\nBRDA:1,0,0,-\nend_of_record\n").toUTF8.data.toList

/-- Below the root the two sections are about one file, and this is all
that there is. -/
theorem isOutcome_decode_sections :
    (FileSet.empty.record (Lcov.decode (some ['/', 'r']) sections)).2 = none
      ∧ ∃ items, Attributed items
        ∧ (∀ n, Tracefile.Item.file n ∈ items ↔ n = "a.c")
        ∧ Describes items (FileSet.empty.record
            (Lcov.decode (some ['/', 'r']) sections)).1 := by
  obtain ⟨hok, hdescribes⟩ :=
    (isOutcome_decode sections).2 (some ['/', 'r'])
  have hnone : (FileSet.empty.record
      (Lcov.decode (some ['/', 'r']) sections)).2 = none := by
    decide +kernel
  obtain ⟨items, hmeans, hattr⟩ := hok.1 hnone
  have hset := hdescribes items hmeans hattr
  refine ⟨hnone, items, hattr, fun n => ?_, hset⟩
  have hnames : (FileSet.empty.record
      (Lcov.decode (some ['/', 'r']) sections)).1.names = ["a.c"] := by
    decide +kernel
  rw [← hset.names, hnames, List.mem_singleton]

end FileSet

end Coverage
