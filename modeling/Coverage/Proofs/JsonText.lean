/-
Texts of JSON are read. Whatever text of a tree is read, the reader comes
to know the tree (`Tree.known`), and finds nothing wrong on the way
(`IsText.ofStream_eq`). So the libraries that the command brings along
are lawful.

# How it is proved

A text is taken for words, and the words are read as the value wherever
one is awaited (`Phrase.SpeltBy`): what a value is written as does not
depend on where it stands. Both follow the grammar, so one induction over
it does it (`IsText.exists_words`). Arrays and objects are read item by
item, and the surroundings grow by what was read before. The last word of
a value may be a number, which ends only where something follows that
cannot belong to it, so all that is known of the words is that they settle
(`Settles`).
-/
import Coverage.BuiltIn
import Coverage.Proofs.JsonWords

namespace Coverage

namespace Json

-- ============================================================= reading

namespace Reader

/-- The reader awaits a value. In a new array it could also end. -/
def Awaits (r : Reader) (around : List Hole) : Prop :=
  ∀ t, t ≠ .closeArray → r.step t = onValue around t

/-- The reader awaits the name of a member. In a new object it could
also end. -/
def AwaitsName (r : Reader) (before : List Member) (around : List Hole) :
    Prop :=
  ∀ name, r.step (.string name) = onKey before around (.string name)

/-- Where a value must follow, one is awaited. -/
theorem awaits_value (around : List Hole) :
    Awaits (.value around) around := fun _ _ => rfl

/-- In a new array an item is awaited. -/
theorem awaits_opened (around : List Hole) :
    Awaits (.opened (.array []) around) (.item [] :: around) := by
  intro t ht
  cases t with
  | closeArray => exact absurd rfl ht
  | openArray => rfl
  | openObject => rfl
  | closeObject => rfl
  | comma => rfl
  | colon => rfl
  | null => rfl
  | bool b => rfl
  | number n => rfl
  | string s => rfl
  | broken fault => rfl

end Reader

/-- The words are read as the phrase wherever one is awaited. Items and
members go on from those before them. -/
def Phrase.SpeltBy (ts : List Token) : Phrase → Prop
  | .value t => ∀ r around, Reader.Awaits r around →
      ts.foldl Reader.step r = Reader.finish t.known around
  | .items us => ∀ r before around,
      Reader.Awaits r (.item before :: around) →
        ts.foldl Reader.step r = .separator
          (.array ((Tree.knownItems us).reverse ++ before)) around
  | .members ms => ∀ r before around, Reader.AwaitsName r before around →
      ts.foldl Reader.step r = .separator
        (.object ((Tree.knownMembers ms).reverse ++ before)) around

section Phrases

variable {ts ts' : List Token} {t : Tree} {us : List Tree}
  {m : List Quoted.Piece × Tree} {ms : List (List Quoted.Piece × Tree)}

/-- Brackets are read as an array without items. -/
theorem speltBy_emptyArray :
    (Phrase.value (.array [])).SpeltBy [.openArray, .closeArray] := by
  intro r around hr
  rw [List.foldl_cons, hr .openArray nofun]
  rfl

/-- Items in brackets are read as an array. -/
theorem speltBy_array (h : (Phrase.items us).SpeltBy ts) :
    (Phrase.value (.array us)).SpeltBy
      (.openArray :: (ts ++ [.closeArray])) := by
  intro r around hr
  have hopen : r.step .openArray = .opened (.array []) around :=
    hr .openArray nofun
  rw [List.foldl_cons, hopen, List.foldl_append,
    h _ [] around (Reader.awaits_opened around), List.append_nil]
  show Reader.finish
    (.array (Tree.knownItems us).reverse.reverse none) around = _
  rw [List.reverse_reverse]
  rfl

/-- Braces are read as an object without members. -/
theorem speltBy_emptyObject :
    (Phrase.value (.object [])).SpeltBy [.openObject, .closeObject] := by
  intro r around hr
  rw [List.foldl_cons, hr .openObject nofun]
  rfl

/-- Members in braces are read as an object. -/
theorem speltBy_object (h : (Phrase.members ms).SpeltBy ts) :
    (Phrase.value (.object ms)).SpeltBy
      (.openObject :: (ts ++ [.closeObject])) := by
  intro r around hr
  have hopen : r.step .openObject = .opened (.object []) around :=
    hr .openObject nofun
  rw [List.foldl_cons, hopen, List.foldl_append,
    h _ [] around fun _ => rfl, List.append_nil]
  show Reader.finish
    (.object (Tree.knownMembers ms).reverse.reverse none) around = _
  rw [List.reverse_reverse]
  rfl

/-- A value is read as an item. -/
theorem speltBy_item (h : (Phrase.value t).SpeltBy ts) :
    (Phrase.items [t]).SpeltBy ts :=
  fun r _ _ hr => h r _ hr

/-- Items behind a comma go on from the one before it. -/
theorem speltBy_moreItems (h : (Phrase.value t).SpeltBy ts)
    (hrest : (Phrase.items us).SpeltBy ts') :
    (Phrase.items (t :: us)).SpeltBy (ts ++ .comma :: ts') := by
  intro r before around hr
  have hbehind := hrest _ _ around
    (Reader.awaits_value (.item (t.known :: before) :: around))
  rw [List.foldl_append, h r _ hr, List.foldl_cons]
  show List.foldl Reader.step
    (.value (.item (t.known :: before) :: around)) _ = _
  rw [hbehind, Tree.knownItems, List.reverse_cons, List.append_assoc]
  rfl

/-- A name, a colon and a value are read as a member. -/
theorem speltBy_member (pieces : List Quoted.Piece)
    (h : (Phrase.value t).SpeltBy ts) :
    (Phrase.members [(pieces, t)]).SpeltBy
      (.string (Quoted.scalar pieces none) :: .colon :: ts) := by
  intro r before around hr
  have hkey : Reader.onKey before around
      (.string (Quoted.scalar pieces none))
        = .colon before (Quoted.scalar pieces none) around := rfl
  rw [List.foldl_cons, hr, hkey]
  exact h _ _ (Reader.awaits_value
    (.member before (Quoted.scalar pieces none) :: around))

/-- Members behind a comma go on from the one before it. -/
theorem speltBy_moreMembers (h : (Phrase.members [m]).SpeltBy ts)
    (hrest : (Phrase.members ms).SpeltBy ts') :
    (Phrase.members (m :: ms)).SpeltBy (ts ++ .comma :: ts') := by
  intro r before around hr
  have hbehind := hrest
    (.key ((Quoted.scalar m.1 none, m.2.known) :: before) around) _ around
    fun _ => rfl
  rw [List.foldl_append, h r before around hr, List.foldl_cons]
  show List.foldl Reader.step
    (.key ((Quoted.scalar m.1 none, m.2.known) :: before) around) _ = _
  rw [hbehind, Tree.knownMembers, List.reverse_cons, List.append_assoc]
  rfl

end Phrases

/-- A text is taken for words that are read as what it is a text of. -/
theorem IsText.exists_words {bytes : List UInt8} {p : Phrase}
    (h : IsText bytes p) : ∃ ts, Settles bytes ts ∧ p.SpeltBy ts := by
  induction h with
  | null => exact ⟨_, settles_null, fun _ _ hr => hr _ nofun⟩
  | bool b => exact ⟨_, settles_bool b, fun _ _ hr => hr _ nofun⟩
  | number h => exact ⟨_, settles_number h, fun _ _ hr => hr _ nofun⟩
  | string h =>
      exact ⟨_, (lexes_quoted h).settles, fun _ _ hr => hr _ nofun⟩
  | emptyArray hblanks =>
      have hlexes := Lexes.openArray.append
        ((lexes_blank hblanks).append Lexes.closeArray)
      exact ⟨_, hlexes.settles, speltBy_emptyArray⟩
  | array _ ih =>
      obtain ⟨ts, hsettles, hspelt⟩ := ih
      have hlexes := Lexes.openArray.append
        (hsettles.append (d := ']'.toUInt8) rfl Lexes.closeArray)
      exact ⟨_, hlexes.settles, speltBy_array hspelt⟩
  | emptyObject hblanks =>
      have hlexes := Lexes.openObject.append
        ((lexes_blank hblanks).append Lexes.closeObject)
      exact ⟨_, hlexes.settles, speltBy_emptyObject⟩
  | object _ ih =>
      obtain ⟨ts, hsettles, hspelt⟩ := ih
      have hlexes := Lexes.openObject.append
        (hsettles.append (d := '\x7d'.toUInt8) rfl Lexes.closeObject)
      exact ⟨_, hlexes.settles, speltBy_object hspelt⟩
  | spaced hbefore _ hafter ih =>
      obtain ⟨ts, hsettles, hspelt⟩ := ih
      exact ⟨ts, (lexes_blank hbefore).append_settles
        (hsettles.append_blank hafter), hspelt⟩
  | item _ ih =>
      obtain ⟨ts, hsettles, hspelt⟩ := ih
      exact ⟨ts, hsettles, speltBy_item hspelt⟩
  | moreItems _ _ ih ihrest =>
      obtain ⟨ts, hsettles, hspelt⟩ := ih
      obtain ⟨ts', hsettles', hspelt'⟩ := ihrest
      exact ⟨_, hsettles.separated hsettles',
        speltBy_moreItems hspelt hspelt'⟩
  | member hbefore hname hafter _ ih =>
      obtain ⟨ts, hsettles, hspelt⟩ := ih
      have hname := (lexes_blank hbefore).append_settles
        ((lexes_quoted hname).append_settles
          ((lexes_blank hafter).append_settles
            (Lexes.colon.append_settles hsettles)))
      exact ⟨_, hname, speltBy_member _ hspelt⟩
  | moreMembers _ _ ih ihrest =>
      obtain ⟨ts, hsettles, hspelt⟩ := ih
      obtain ⟨ts', hsettles', hspelt'⟩ := ihrest
      exact ⟨_, hsettles.separated hsettles',
        speltBy_moreMembers hspelt hspelt'⟩

/-- A text is a document of what is known of its tree. -/
theorem IsText.ofStream_eq {bytes : List UInt8} {t : Tree}
    (h : IsText bytes (.value t)) :
    Document.ofStream ⟨bytes, none⟩ = ⟨t.known, none⟩ := by
  obtain ⟨ts, hsettles, hspelt⟩ := h.exists_words
  have htokens : tokens ⟨bytes, none⟩ = ts := by
    have hfinish := (hsettles []).finish
    rw [List.append_nil, List.reverse_reverse] at hfinish
    exact hfinish
  have hread : ts.foldl Reader.step (.value []) = Reader.finish t.known [] :=
    hspelt _ [] (Reader.awaits_value [])
  unfold Document.ofStream
  rw [htokens, hread]
  rfl

end Json

-- ============================================================ libraries

namespace BuiltIn

/-- Documents are read by the grammar. -/
scoped instance lawfulLibraries : LawfulLibraries where
  document_text h := h.ofStream_eq

end BuiltIn

end Coverage
