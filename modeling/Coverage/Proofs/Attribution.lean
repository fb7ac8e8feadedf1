/-
Which file a record is about. With all items of a tracefile in view, a
record is about the file of the last marker before it (`selected`): the
file that the marker names, or no file if the marker is an end or there
is none.

A reader has only the current file instead, and goes from line to line.
`reads_iff` says that this comes to the same. The lines are taken in just
when each of them means something and no record about a file stands where
no file is selected; then the reader ends with the file of the last
marker, and has asked for what the items say of the files that they are
about.
-/
import Mathlib.Data.List.Forall2
import Mathlib.Data.List.Induction
import Coverage.Proofs.LineReading
import Coverage.Proofs.TracefileGrammar

namespace Coverage

/-- What relates to a list with one more element at its end has one more
as well. -/
theorem forall₂_concat_left_iff {α β : Type} {R : α → β → Prop}
    {as : List α} {a : α} {bs : List β} :
    List.Forall₂ R (as ++ [a]) bs
      ↔ ∃ bs' b, List.Forall₂ R as bs' ∧ R a b ∧ bs = bs' ++ [b] := by
  rw [← List.forall₂_reverse_iff, List.reverse_append,
    List.reverse_singleton, List.singleton_append,
    List.forall₂_cons_left_iff]
  constructor
  · rintro ⟨b, rest, hb, hrest, hbs⟩
    refine ⟨rest.reverse, b, ?_, hb, ?_⟩
    · rw [← List.forall₂_reverse_iff, List.reverse_reverse]
      exact hrest
    · rw [← List.reverse_cons, ← hbs, List.reverse_reverse]
  · rintro ⟨bs', b, hbs', hb, rfl⟩
    refine ⟨b, bs'.reverse, hb, List.forall₂_reverse_iff.2 hbs', ?_⟩
    rw [List.reverse_append, List.reverse_singleton,
      List.singleton_append]

namespace Tracefile

-- ========================================================== attribution

/-- The file that is selected from a marker on; nothing if the item is no
marker. -/
def Item.marker : Item → Option (Option String)
  | .file name => some (some name)
  | .endOfFile => some none
  | .datum _ _ | .ignored => none

/-- The file of the last marker. -/
def selected (items : List Item) : Option String :=
  (items.filterMap Item.marker).getLast?.join

/-- Each item with the file that is selected where it stands. -/
def placed (items : List Item) : List (Option String × Item) :=
  items.mapIdx fun k i => (selected (items.take k), i)

/-- Every record about a file stands where a file is selected. -/
def Attributed (items : List Item) : Prop :=
  ∀ kind x, (none, Item.datum kind x) ∉ placed items

/-- What an item says of the file where it stands. -/
def saidOf (name : String) : Option String × Item → Option Datum
  | (_, .file _) | (_, .endOfFile) | (_, .ignored) | (none, .datum _ _) =>
    none
  | (some file, .datum _ x) => if file = name then some x else none

/-- What the items say of the file, in order. -/
def dataOf (items : List Item) (name : String) : List Datum :=
  (placed items).filterMap (saidOf name)

/-- What an item asks for where it stands. -/
def asks : Option String × Item → List Edit
  | (_, .file name) => [.touch name]
  | (some file, .datum _ x) => [.add file x]
  | (none, .datum _ _) | (_, .endOfFile) | (_, .ignored) => []

/-- What the items ask for. -/
def edits (items : List Item) : List Edit := (placed items).flatMap asks

-- ======================================================== one more item

variable {items : List Item} {i : Item}

theorem selected_concat :
    selected (items ++ [i]) = i.marker.getD (selected items) := by
  unfold selected
  rw [List.filterMap_append]
  cases hi : i.marker with
  | none =>
      rw [List.filterMap_cons_none hi, List.filterMap_nil, List.append_nil]
      rfl
  | some m =>
      rw [List.filterMap_cons_some hi, List.filterMap_nil,
        List.getLast?_concat]
      rfl

theorem placed_concat :
    placed (items ++ [i]) = placed items ++ [(selected items, i)] := by
  unfold placed
  rw [List.mapIdx_concat, List.take_left]
  congr 1
  refine List.mapIdx_eq_mapIdx_iff.2 fun k hk => ?_
  rw [List.take_append_of_le_length (Nat.le_of_lt hk)]

theorem attributed_concat :
    Attributed (items ++ [i]) ↔ Attributed items
      ∧ ∀ kind x, (selected items, i) ≠ (none, .datum kind x) := by
  unfold Attributed
  simp only [placed_concat, List.mem_append, List.mem_singleton, not_or]
  constructor
  · exact fun h => ⟨fun kind x => (h kind x).1,
      fun kind x heq => (h kind x).2 heq.symm⟩
  · exact fun h kind x => ⟨h.1 kind x, fun heq => h.2 kind x heq.symm⟩

theorem edits_concat :
    edits (items ++ [i]) = edits items ++ asks (selected items, i) := by
  rw [edits, placed_concat, List.flatMap_append, List.flatMap_singleton]
  rfl

/-- The reader takes an item where the items before it have led. -/
theorem step_eq_ok_iff {current next : Option String} {es : List Edit} :
    step current i = .ok (next, es)
      ↔ (∀ kind x, (current, i) ≠ (none, .datum kind x))
        ∧ next = i.marker.getD current ∧ es = asks (current, i) := by
  have hok : ∀ {a b : Option String × List Edit},
      (Except.ok a : Except Fault _) = .ok b ↔ b = a := by
    intro a b
    rw [Except.ok.injEq, eq_comm]
  cases i with
  | file name => simp [step, hok, Item.marker, asks]
  | endOfFile => simp [step, hok, Item.marker, asks]
  | ignored => simp [step, hok, Item.marker, asks]
  | datum kind x =>
      cases current with
      | none => simp [step]
      | some file => simp [step, hok, Item.marker, asks]

-- ============================================================ all items

/-- The lines are taken in just when each of them means an item and every
record about a file has one. Then the file of the last marker is the
current one, and the lines ask for what the items ask for. -/
theorem reads_iff {G : Grammar} {item : List Char → Except Fault Item}
    (h : G.ReadBy item) {lines : List (List Char)} {s : Option String}
    {es : List Edit} :
    (reader item).Reads none lines s es
      ↔ ∃ items, List.Forall₂ G.Means lines items ∧ Attributed items
        ∧ s = selected items ∧ es = edits items := by
  -- The state behind lines is what their items have selected, so the
  -- induction takes lines away at the end.
  induction lines using List.reverseRecOn generalizing s es with
  | nil =>
      rw [LineReader.reads_nil_iff]
      constructor
      · rintro ⟨rfl, rfl⟩
        exact ⟨[], .nil, fun kind x => List.not_mem_nil, rfl, rfl⟩
      · rintro ⟨items, hmeans, -, rfl, rfl⟩
        cases hmeans
        exact ⟨rfl, rfl⟩
  | append_singleton lines line ih =>
      have hread : ∀ t fs, (reader item).read t line = .ok (s, fs)
          ↔ ∃ i, G.Means line i ∧ step t i = .ok (s, fs) := by
        intro t fs
        show item line >>= step t = _ ↔ _
        rw [exceptBind_eq_ok_iff]
        simp only [h.ok_iff]
      rw [LineReader.reads_concat_iff]
      constructor
      · rintro ⟨t, fs, gs, hreads, hline, rfl⟩
        obtain ⟨items, hmeans, hattr, rfl, rfl⟩ := ih.1 hreads
        obtain ⟨i, hi, hstep⟩ := (hread _ _).1 hline
        obtain ⟨hfile, rfl, rfl⟩ := step_eq_ok_iff.1 hstep
        exact ⟨items ++ [i],
          forall₂_concat_left_iff.2 ⟨items, i, hmeans, hi, rfl⟩,
          attributed_concat.2 ⟨hattr, hfile⟩, selected_concat.symm,
          edits_concat.symm⟩
      · rintro ⟨items', hmeans', hattr', rfl, rfl⟩
        obtain ⟨items, i, hmeans, hi, rfl⟩ :=
          forall₂_concat_left_iff.1 hmeans'
        obtain ⟨hattr, hfile⟩ := attributed_concat.1 hattr'
        refine ⟨selected items, edits items, asks (selected items, i),
          ih.2 ⟨items, hmeans, hattr, rfl, rfl⟩, ?_, edits_concat⟩
        rw [hread, selected_concat]
        exact ⟨i, hi, step_eq_ok_iff.2 ⟨hfile, rfl, rfl⟩⟩

-- =================================================== what is asked for

theorem file_mem_of_selected {name : String}
    (h : selected items = some name) : Item.file name ∈ items := by
  have hlast : (items.filterMap Item.marker).getLast? = some (some name) :=
    Option.join_eq_some_iff.1 h
  obtain ⟨i, hi, hmarker⟩ :=
    List.mem_filterMap.1 (List.mem_of_getLast? hlast)
  cases i with
  | file m =>
      cases hmarker
      exact hi
  | endOfFile => cases hmarker
  | datum kind x => cases hmarker
  | ignored => cases hmarker

/-- The files that the items ask for are those that they name. -/
theorem exists_mem_edits_iff (items : List Item) (name : String) :
    (∃ e ∈ edits items, e.file = name) ↔ Item.file name ∈ items := by
  constructor
  · rintro ⟨e, he, rfl⟩
    obtain ⟨p, hp, he⟩ := List.mem_flatMap.1 he
    obtain ⟨k, hk, rfl⟩ := List.mem_mapIdx.1 hp
    cases hi : items[k] with
    | file m =>
        rw [hi] at he
        cases List.mem_singleton.1 he
        exact hi ▸ List.getElem_mem hk
    | endOfFile =>
        rw [hi] at he
        cases he
    | ignored =>
        rw [hi] at he
        cases he
    | datum kind x =>
        rw [hi] at he
        -- the file was named before, or nothing is asked for
        cases hs : selected (items.take k) with
        | none =>
            rw [hs] at he
            cases he
        | some m =>
            rw [hs] at he
            cases List.mem_singleton.1 he
            exact List.mem_of_mem_take (file_mem_of_selected hs)
  · intro h
    obtain ⟨k, hk, hi⟩ := List.getElem_of_mem h
    refine ⟨.touch name, List.mem_flatMap.2
      ⟨(selected (items.take k), items[k]), List.mem_mapIdx.2
        ⟨k, hk, rfl⟩, ?_⟩, rfl⟩
    rw [hi]
    exact List.mem_singleton_self _

theorem saidOf_eq_some_iff {name : String} {p : Option String × Item}
    {x : Datum} :
    saidOf name p = some x ↔ ∃ kind, p = (some name, .datum kind x) := by
  obtain ⟨current, i⟩ := p
  cases i with
  | file n => simp [saidOf]
  | endOfFile => simp [saidOf]
  | ignored => simp [saidOf]
  | datum kind y =>
      cases current with
      | none => simp [saidOf]
      | some file => simp [saidOf]

/-- What is said of a file stands in one of the items. -/
theorem mem_of_mem_dataOf {name : String} {x : Datum}
    (hx : x ∈ dataOf items name) : ∃ kind, Item.datum kind x ∈ items := by
  obtain ⟨p, hp, hx⟩ := List.mem_filterMap.1 hx
  obtain ⟨kind, rfl⟩ := saidOf_eq_some_iff.1 hx
  obtain ⟨k, hk, heq⟩ := List.mem_mapIdx.1 hp
  obtain ⟨-, hi⟩ := Prod.mk.inj heq
  exact ⟨kind, hi ▸ List.getElem_mem hk⟩

end Tracefile

end Coverage
