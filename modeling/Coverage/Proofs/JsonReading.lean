/-
What reading JSON values comes to. A reader of numbers, truth values or
items succeeds on just one kind of value, and of a tree that is known
just on the words that say so: a number is read only if it is written as a
natural number that fits.

What a reader of a record passes over can be changed. If one field is read
alike after the change, so is the record (`Shape.read_onField`), wherever
the field stands in it.
-/
import Coverage.Json.Shape
import Coverage.Proofs.JsonGrammar
import Coverage.Proofs.RecordReading

namespace Coverage.Json

-- ============================================================== values

/-- A natural number is read just from a number that is one and is below
the bound. -/
theorem asNat_eq_ok_iff {bound k : Nat} {v : Json} :
    v.asNat bound = .ok k
      ↔ ∃ value, v = .number value ∧ value.read = .ok (some k)
        ∧ k < bound := by
  constructor
  · intro h
    cases v with
    | number value =>
        obtain ⟨found, hfound, h⟩ := exceptBind_eq_ok_iff.1 h
        cases found with
        | none => cases h
        | some j =>
            dsimp only at h
            split at h
            · next hj =>
                cases h
                exact ⟨value, rfl, hfound, hj⟩
            · cases h
    | null => cases h
    | bool b => cases h
    | string s => cases h
    | array items cut => cases h
    | object members cut => cases h
    | missing fault => cases h
  · rintro ⟨value, rfl, hread, hk⟩
    exact exceptBind_eq_ok_iff.2 ⟨some k, hread, if_pos hk⟩

/-- A count is read just from a number that is one. -/
theorem asCount_eq_ok_iff {c : Count} {v : Json} :
    v.asCount = .ok c
      ↔ ∃ value, v = .number value ∧ value.read = .ok (some c.toNat) := by
  have hlimit := c.le_limit
  have hmap : v.asCount = (v.asNat (Count.limit + 1)).map Count.saturate :=
    rfl
  rw [hmap, exceptMap_eq_ok_iff]
  constructor
  · rintro ⟨k, hk, rfl⟩
    obtain ⟨value, hv, hread, hlt⟩ := asNat_eq_ok_iff.1 hk
    have hsame : (Count.saturate k).toNat = k :=
      Nat.min_eq_left (Nat.le_of_lt_succ hlt)
    exact ⟨value, hv, hsame.symm ▸ hread⟩
  · intro ⟨value, hv, hread⟩
    exact ⟨c.toNat,
      asNat_eq_ok_iff.2 ⟨value, hv, hread, Nat.lt_succ_of_le hlimit⟩,
      Count.ext (Nat.min_eq_left hlimit)⟩

/-- A truth value is read just from itself. -/
theorem asBool_eq_ok_iff {b : Bool} {v : Json} :
    v.asBool = .ok b ↔ v = .bool b := by
  constructor
  · intro h
    cases v with
    | bool c =>
        cases h
        rfl
    | null => cases h
    | number value => cases h
    | string s => cases h
    | array items cut => cases h
    | object members cut => cases h
    | missing fault => cases h
  · rintro rfl
    rfl

/-- An item can be taken just if there is one. -/
theorem takeItem_eq_ok_iff {cut : Option Fault} {items rest : List Json}
    {v : Json} : takeItem cut items = .ok (v, rest) ↔ items = v :: rest := by
  cases items with
  | nil => simp [takeItem]
  | cons w items => simp [takeItem]

/-- Nothing is in the way just if there is no fault. -/
theorem orFault_eq_ok_iff {α : Type} {cut : Option Fault} {a b : α} :
    orFault cut a = .ok b ↔ cut = none ∧ a = b := by
  cases cut with
  | none => simp [orFault]
  | some fault => simp [orFault]

-- =============================================================== trees

section Trees

variable {t : Tree}

/-- Only numbers are known as numbers. -/
theorem Tree.known_eq_number_iff {value : Scalar (Option Nat)} :
    t.known = .number value ↔ ∃ n, t = .number n ∧ n.scalar = value := by
  cases t <;> simp [Tree.known]

/-- Only truth values are known as truth values. -/
theorem Tree.known_eq_bool_iff {b : Bool} :
    t.known = .bool b ↔ t = .bool b := by
  cases t <;> simp [Tree.known]

/-- Only arrays are known as arrays, and none is cut. -/
theorem Tree.known_eq_array_iff {vs : List Json} {cut : Option Fault} :
    t.known = .array vs cut
      ↔ ∃ ts, t = .array ts ∧ ts.map Tree.known = vs ∧ none = cut := by
  cases t <;> simp [Tree.known, Tree.knownItems_eq_map]

/-- A natural number is read of a tree just if that is how it is written. -/
theorem Tree.asNat_known_eq_ok_iff {bound k : Nat}
    (hbound : bound ≤ Count.limit + 1) :
    t.known.asNat bound = .ok k
      ↔ ∃ n, t = .number n ∧ n.IsNatural k ∧ k < bound := by
  rw [asNat_eq_ok_iff]
  constructor
  · rintro ⟨value, hvalue, hread, hk⟩
    obtain ⟨n, ht, rfl⟩ := known_eq_number_iff.1 hvalue
    exact ⟨n, ht, (Number.Numeral.read_scalar_eq_ok_some_iff.1 hread).1, hk⟩
  · rintro ⟨n, rfl, hnatural, hk⟩
    exact ⟨n.scalar, rfl, Number.Numeral.read_scalar_eq_ok_some_iff.2
      ⟨hnatural, by omega⟩, hk⟩

/-- A count is read of a tree just if that is how it is written. -/
theorem Tree.asCount_known_eq_ok_iff {c : Count} :
    t.known.asCount = .ok c ↔ ∃ n, t = .number n ∧ n.IsNatural c.toNat := by
  rw [asCount_eq_ok_iff]
  constructor
  · rintro ⟨value, hvalue, hread⟩
    obtain ⟨n, ht, rfl⟩ := known_eq_number_iff.1 hvalue
    exact ⟨n, ht, (Number.Numeral.read_scalar_eq_ok_some_iff.1 hread).1⟩
  · rintro ⟨n, rfl, hnatural⟩
    exact ⟨n.scalar, rfl, Number.Numeral.read_scalar_eq_ok_some_iff.2
      ⟨hnatural, c.le_limit⟩⟩

/-- A truth value is read of a tree just if the tree is that word. -/
theorem Tree.asBool_known_eq_ok_iff {b : Bool} :
    t.known.asBool = .ok b ↔ t = .bool b := by
  rw [asBool_eq_ok_iff, known_eq_bool_iff]

end Trees

-- ============================================================= changes

section Changes

variable {α : Type} {f : Json → Json}

/-- Changes the items of an array. -/
def onItems (f : Json → Json) : Json → Json
  | .array items cut => .array (items.map f) cut
  | v => v

/-- Changes a member if it has that name. -/
def onMember (name : String) (f : Json → Json) : Member → Member
  | (key, v) => (key, if key.read.toOption = some name then f v else v)

/-- Changes a field of a record, which in an object has that name and in
an array that place. -/
def onField (name : String) (place : Nat) (f : Json → Json) : Json → Json
  | .object members cut => .object (members.map (onMember name f)) cut
  | .array items cut => .array (items.modify place f) cut
  | v => v

/-- An array is read alike if each of its items is. -/
theorem asList_onItems {item : Json → Except Fault α}
    (h : ∀ v, item (f v) = item v) (v : Json) :
    asList item (onItems f v) = asList item v := by
  cases v with
  | array items cut =>
      have hitems : (items.map f).mapM item = items.mapM item := by
        rw [List.mapM_map]
        exact congrArg (items.mapM ·) (funext h)
      show (do orFault cut (← (items.map f).mapM item)) = _
      rw [hitems]
      rfl
  | null => rfl
  | bool b => rfl
  | number value => rfl
  | string text => rfl
  | object members cut => rfl
  | missing fault => rfl

/-- A field is read alike if its value is. -/
theorem Field.read_allow_congr {β : Type} {read : Json → Except Fault β}
    (h : ∀ v, read (f v) = read v) (name : String) (put : β → α → α)
    (v : Json) (a : α) :
    (Field.allow name read put).read (f v) a
      = (Field.allow name read put).read v a := by
  show (do return put (← read (f v)) a) = _
  rw [h]
  rfl

namespace Shape

variable {s : Shape α} {field : Field α} {name : String} {place : Nat}

/-- The members of a record are read alike if a field of it is. A member of
another name does not change, and one of this name is read as the field
or not at all. -/
theorem readMembers_onMember
    (hname : s.fields.find? (·.name == name) = some field)
    (h : ∀ v a, field.read (f v) a = field.read v a)
    (members : List Member) (seen : List String) (a : α) :
    s.readMembers seen a (members.map (onMember name f))
      = s.readMembers seen a members := by
  induction members generalizing seen a with
  | nil => rfl
  | cons m members ih =>
      obtain ⟨key, v⟩ := m
      rw [List.map_cons, onMember]
      by_cases hkey : key.read = .ok name
      · rw [hkey, Except.toOption, if_pos rfl, readMembers, readMembers, hkey]
        dsimp only [bind, Except.bind]
        rw [hname]
        simp only [h, ih]
      · have hother : ¬ key.read.toOption = some name := by
          cases hread : key.read with
          | error fault => simp [Except.toOption]
          | ok n =>
              rw [hread] at hkey
              simpa [Except.toOption] using hkey
        rw [if_neg hother, readMembers, readMembers]
        simp only [ih]

/-- The items of a record are read alike if the field in that place is. -/
theorem readItems_modify {fields : List (Field α)}
    (hplace : fields[place]? = some field)
    (h : ∀ v a, field.read (f v) a = field.read v a) (cut : Option Fault)
    (items : List Json) (a : α) :
    readItems cut a fields (items.modify place f)
      = readItems cut a fields items := by
  induction items generalizing fields place a with
  | nil => rw [List.modify_nil]
  | cons v items ih =>
      cases fields with
      | nil => cases hplace
      | cons first fields =>
          cases place with
          | zero =>
              obtain rfl : first = field := by simpa using hplace
              rw [List.modify_zero_cons, readItems, readItems, h]
          | succ place =>
              rw [List.modify_succ_cons, readItems, readItems]
              simp only [ih (by simpa using hplace)]

/-- A record is read alike if a field of it is. -/
theorem read_onField (hname : s.fields.find? (·.name == name) = some field)
    (hplace : s.fields[place]? = some field)
    (h : ∀ v a, field.read (f v) a = field.read v a) (v : Json) :
    s.read (onField name place f v) = s.read v := by
  cases v with
  | object members cut =>
      rw [onField, Shape.read, Shape.read, readMembers_onMember hname h]
  | array items cut => exact readItems_modify hplace h cut items s.blank
  | null => rfl
  | bool b => rfl
  | number value => rfl
  | string text => rfl
  | missing fault => rfl

end Shape

end Changes

end Coverage.Json
