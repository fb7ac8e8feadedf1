/-
JSON values, written and read back. What is written is a tree together
with a text of it (`Written`), so that nothing is written that is not
JSON. The bytes of an array are those of its items with commas between
them, in brackets; those of an object are names and values likewise.

What is written is the document of its value for lawful libraries
(`Written.document_eq`), and readers of numbers, arrays and records get
out of the value what was put into it.
-/
import Mathlib.Data.List.Forall2
import Coverage.Proofs.JsonReading

namespace Coverage.Json

-- ============================================================= scalars

/-- A natural number, written by its digits. -/
def Tree.natural (n : Nat) : Tree := .number (Number.numeralOf n)

/-- A text, written between quotes. -/
def Tree.text (s : String) : Tree := .string (Quoted.piecesOf s)

/-- The digits of a number are a text of it. -/
theorem isText_natural (n : Nat) :
    IsText (Number.bytesOf n) (.value (.natural n)) :=
  .number (Number.isNumeral_bytesOf n)

/-- What is written between quotes is a text of it. -/
theorem isText_text (s : String) :
    IsText (Quoted.bytesOf s) (.value (.text s)) :=
  .string (Quoted.isQuoted_bytesOf s)

/-- A text is known as it is. -/
theorem Tree.known_text (s : String) :
    (Tree.text s).known = .string ⟨.ok s, none⟩ :=
  congrArg Json.string (Quoted.scalar_piecesOf s)

/-- No blanks are blanks. -/
theorem areBlank_nil : AreBlank [] := nofun

/-- The bytes of a member of an object. -/
def memberBytes (name : String) (value : List UInt8) : List UInt8 :=
  Quoted.bytesOf name ++ (':'.toUInt8 :: value)

/-- A name, a colon and a value are a member. -/
theorem isText_member (name : String) {bytes : List UInt8} {t : Tree}
    (h : IsText bytes (.value t)) :
    IsText (memberBytes name bytes)
      (.members [(Quoted.piecesOf name, t)]) :=
  .member areBlank_nil (Quoted.isQuoted_bytesOf name) areBlank_nil h

/-- What is said of one part, and then of a part in front of others with
a comma behind it, is said of all parts with commas between them. -/
theorem isText_joined {α β : Type} (bytes : α → List UInt8) (part : α → β)
    (phrase : List β → Phrase)
    (hone : ∀ a, IsText (bytes a) (phrase [part a]))
    (hmore : ∀ (a : α) (rest : List UInt8) (bs : List β),
      IsText rest (phrase bs) →
        IsText (bytes a ++ ','.toUInt8 :: rest) (phrase (part a :: bs)))
    {as : List α} (hne : as ≠ []) :
    IsText ([','.toUInt8].intercalate (as.map bytes))
      (phrase (as.map part)) := by
  induction as with
  | nil => exact absurd rfl hne
  | cons a as ih =>
      cases as with
      | nil =>
          rw [List.map_singleton, List.intercalate_singleton]
          exact hone a
      | cons next as =>
          have hrest := ih (List.cons_ne_nil next as)
          rw [List.map_cons, List.intercalate_cons_of_ne_nil (by simp),
            List.append_assoc]
          exact hmore a _ _ hrest

-- ====================================================== written values

/-- A value with a text of it. -/
structure Written where
  tree : Tree
  bytes : List UInt8
  isText : IsText bytes (.value tree)

namespace Written

/-- What is known of what is written. -/
def value (w : Written) : Json := w.tree.known

/-- A truth value. -/
def bool (b : Bool) : Written := ⟨.bool b, boolBytes b, .bool b⟩

/-- A natural number. -/
def natural (n : Nat) : Written :=
  ⟨.natural n, Number.bytesOf n, isText_natural n⟩

/-- A text. -/
def text (s : String) : Written :=
  ⟨.text s, Quoted.bytesOf s, isText_text s⟩

/-- Items with commas between them stand in an array. -/
theorem isText_items {ws : List Written} (hne : ws ≠ []) :
    IsText ([','.toUInt8].intercalate (ws.map bytes))
      (.items (ws.map tree)) :=
  isText_joined bytes tree .items (fun w => w.isText.item)
    (fun w _ _ h => w.isText.moreItems h) hne

/-- The bytes of an array with these items. -/
def arrayBytes (items : List (List UInt8)) : List UInt8 :=
  '['.toUInt8 :: ([','.toUInt8].intercalate items ++ [']'.toUInt8])

/-- An array of these items. -/
def array (ws : List Written) : Written where
  tree := .array (ws.map tree)
  bytes := arrayBytes (ws.map bytes)
  isText := by
    by_cases hne : ws = []
    · subst hne
      exact .emptyArray areBlank_nil
    · exact (isText_items hne).array

/-- A member of an object, as it is written. -/
def member (m : String × Written) : List Quoted.Piece × Tree :=
  (Quoted.piecesOf m.1, m.2.tree)

/-- Members with commas between them stand in an object. -/
theorem isText_members {ms : List (String × Written)} (hne : ms ≠ []) :
    IsText ([','.toUInt8].intercalate
      (ms.map fun m => memberBytes m.1 m.2.bytes))
      (.members (ms.map member)) := by
  have hone : ∀ m : String × Written,
      IsText (memberBytes m.1 m.2.bytes) (.members [member m]) :=
    fun m => isText_member m.1 m.2.isText
  refine isText_joined _ member .members hone (fun m rest bs h => ?_) hne
  have hmore := (hone m).moreMembers h
  exact hmore

/-- The bytes of an object with these members. -/
def objectBytes (members : List (List UInt8)) : List UInt8 :=
  '\x7b'.toUInt8 :: ([','.toUInt8].intercalate members ++ ['\x7d'.toUInt8])

/-- An object of these members, of which there is one at least. -/
def object (ms : List (String × Written)) (hne : ms ≠ []) : Written where
  tree := .object (ms.map member)
  bytes := objectBytes (ms.map fun m => memberBytes m.1 m.2.bytes)
  isText := by
    unfold objectBytes
    exact (isText_members hne).object

-- =============================================================== values

/-- The items of an array are known each. -/
theorem value_array (ws : List Written) :
    (array ws).value = .array (ws.map value) none := by
  show Json.array (Tree.knownItems (ws.map tree)) none = _
  rw [Tree.knownItems_eq_map, List.map_map]
  rfl

/-- The members of an object are known each, by their names. -/
theorem value_object (ms : List (String × Written)) (hne : ms ≠ []) :
    (object ms hne).value
      = .object (ms.map fun m => (⟨.ok m.1, none⟩, m.2.value))
        none := by
  show Json.object (Tree.knownMembers (ms.map member)) none = _
  rw [Tree.knownMembers_eq_map, List.map_map]
  refine congrArg (Json.object · none) (List.map_congr_left fun m _ => ?_)
  exact Prod.ext (Quoted.scalar_piecesOf m.1) rfl

/-- What is written is the document of its value. -/
theorem document_eq [Libraries] [LawfulLibraries] (w : Written) :
    Libraries.document ⟨w.bytes, none⟩ = ⟨w.value, none⟩ :=
  LawfulLibraries.document_text w.isText

end Written

-- ============================================================== reading

/-- Two images of a list are related if those of its elements are. -/
theorem forall₂_map_map {α β γ : Type} {R : β → γ → Prop} {f : α → β}
    {g : α → γ} {as : List α} (h : ∀ a ∈ as, R (f a) (g a)) :
    List.Forall₂ R (as.map f) (as.map g) := by
  rw [List.forall₂_map_left_iff, List.forall₂_map_right_iff,
    List.forall₂_same]
  exact h

/-- A text is read as it was written. -/
theorem asString_text (s : String) :
    asString (Written.text s).value = .ok s := by
  show asString (Tree.text s).known = .ok s
  rw [Tree.known_text]
  rfl

/-- An array is read as what its items are read as. -/
theorem asList_array {α : Type} {item : Json → Except Fault α}
    {ws : List Written} {as : List α}
    (h : List.Forall₂ (fun w a => item w.value = .ok a) ws as) :
    asList item (Written.array ws).value = .ok as := by
  have hitems : (ws.map Written.value).mapM item = .ok as := by
    induction h with
    | nil => rfl
    | cons hone _ ih =>
        rw [List.map_cons, List.mapM_cons, hone, ih]
        rfl
  rw [Written.value_array]
  show (do
    let as ← (ws.map Written.value).mapM item
    orFault none as) = _
  rw [hitems]
  rfl

/-- A member whose name is that of a field is read as the field. -/
theorem Shape.readMembers_member {α : Type} {s : Shape α} {name : String}
    {field : Field α} {v : Json} {a a' : α} {seen : List String}
    (hfield : s.fields.find? (·.name == name) = some field)
    (hseen : seen.contains name = false) (hread : field.read v a = .ok a')
    (rest : List Member) :
    s.readMembers seen a ((⟨.ok name, none⟩, v) :: rest)
      = s.readMembers (name :: seen) a' rest := by
  have hname : (⟨.ok name, none⟩ : Scalar String).read = .ok name := rfl
  rw [Shape.readMembers, hname]
  dsimp only [bind, Except.bind]
  rw [hfield]
  dsimp only
  rw [hseen, if_neg Bool.false_ne_true, hread]

section Fields

variable {α β : Type} {read : Json → Except Fault β} {v : Json} {b : β}

/-- A field that must be there is read as its value. -/
theorem Field.read_need (h : read v = .ok b) (name : String)
    (put : β → α → α) (a : α) :
    (Field.need name read put).read v a = .ok (put b a) := by
  show (do return put (← read v) a) = Except.ok (put b a)
  rw [h]
  rfl

/-- So is a field that may be left out. -/
theorem Field.read_allow (h : read v = .ok b) (name : String)
    (put : β → α → α) (a : α) :
    (Field.allow name read put).read v a = .ok (put b a) := by
  show (do return put (← read v) a) = Except.ok (put b a)
  rw [h]
  rfl

end Fields

/-- A record of two fields is read from an object that has both, one
after the other. -/
theorem Shape.read_pair {α : Type} {s : Shape α} {f g : Field α}
    (hfields : s.fields = [f, g]) (hne : f.name ≠ g.name) {v w : Written}
    {a b : α} (hf : f.read v.value s.blank = .ok a)
    (hg : g.read w.value a = .ok b) :
    s.read (Written.object [(f.name, v), (g.name, w)] nofun).value
      = .ok b := by
  have hfindf : s.fields.find? (·.name == f.name) = some f := by
    rw [hfields]
    exact List.find?_cons_of_pos (beq_self_eq_true f.name)
  have hfindg : s.fields.find? (·.name == g.name) = some g := by
    rw [hfields, List.find?_cons_of_neg (by simpa using hne)]
    exact List.find?_cons_of_pos (beq_self_eq_true g.name)
  have hnew : [f.name].contains g.name = false := by
    simpa using hne.symm
  have hmembers : s.readMembers [] s.blank
      [(⟨.ok f.name, none⟩, v.value), (⟨.ok g.name, none⟩, w.value)]
        = .ok ([g.name, f.name], b) := by
    rw [readMembers_member hfindf rfl hf, readMembers_member hfindg hnew hg]
    rfl
  rw [Written.value_object, List.map_cons, List.map_cons, List.map_nil,
    Shape.read, hmembers, hfields]
  exact if_pos (by simp)

end Coverage.Json
