/-
What records are made of, said without a reader. A line is a type and a
payload with the first colon between them (`IsRecord`), and a field of
the payload may have to be a number or a count, which are decimal
numerals of their range (`Denotes`).

Reading agrees with this both ways: what is read is what the text means,
and what means something is read. A reading that fails blames the record
that it is about (`Blames`), with its whole payload.
-/
import Mathlib.Data.List.TakeWhile
import Coverage.Proofs.Writing
import Coverage.Record

namespace Coverage

-- ============================================================= numerals

namespace Text.Numeral

/-- The text behind a plus sign, if it begins with one. -/
def unsigned : List Char → List Char
  | '+' :: digits => digits
  | digits => digits

/-- The text is a decimal numeral of the number: one digit at least, and
perhaps a plus sign before them. -/
structure Denotes (text : List Char) (n : Nat) : Prop where
  ne_nil : unsigned text ≠ []
  digits : ∀ c ∈ unsigned text, c.isDigit = true
  value : Nat.ofDigitChars 10 (unsigned text) 0 = n

/-- Digits are read as their number, anything else is refused. -/
theorem readDigits_eq_ok_iff {bound seen n : Nat} {text : List Char}
    (hseen : seen < bound) :
    readDigits bound seen text = .ok n
      ↔ (∀ c ∈ text, c.isDigit = true)
        ∧ Nat.ofDigitChars 10 text seen = n ∧ n < bound := by
  constructor
  · intro h
    refine and_assoc.1 ⟨?_, readDigits_lt hseen h⟩
    induction text generalizing seen with
    | nil =>
        cases h
        exact ⟨fun c hc => absurd hc List.not_mem_nil, rfl⟩
    | cons c rest ih =>
        rw [readDigits] at h
        split at h
        · next hc =>
            dsimp only at h
            split at h
            · next hnext =>
                obtain ⟨hdigits, hvalue⟩ := ih hnext h
                exact ⟨List.forall_mem_cons.2 ⟨hc, hdigits⟩, hvalue⟩
            · cases h
        · cases h
  · rintro ⟨hdigits, rfl, hbound⟩
    exact readDigits_eq hdigits hbound

/-- A text is read as the number that it denotes, if that is below the
bound. -/
theorem read_eq_ok_iff {bound n : Nat} (hbound : 0 < bound)
    {text : List Char} :
    read bound text = .ok n ↔ Denotes text n ∧ n < bound := by
  have hdigits : read bound text = .ok n
      ↔ unsigned text ≠ [] ∧ readDigits bound 0 (unsigned text) = .ok n := by
    unfold read
    split
    · exact iff_of_false nofun fun h => h.1 rfl
    · exact iff_of_false nofun fun h => h.1 rfl
    · next digits hne =>
        exact (and_iff_right fun h => hne h).symm
    · next hne _ hsign =>
        have hself : unsigned text = text := by
          unfold unsigned
          split
          · exact absurd rfl (hsign _)
          · rfl
        rw [hself]
        exact (and_iff_right fun h => hne h).symm
  rw [hdigits, readDigits_eq_ok_iff hbound]
  constructor
  · rintro ⟨hne, hdigits, hvalue, hlt⟩
    exact ⟨⟨hne, hdigits, hvalue⟩, hlt⟩
  · rintro ⟨⟨hne, hdigits, hvalue⟩, hlt⟩
    exact ⟨hne, hdigits, hvalue, hlt⟩

end Text.Numeral

/-- Where the separator does not occur there is nothing to cut. -/
theorem Text.splitFirst?_eq_none_iff {sep : Char} {text : List Char} :
    splitFirst? sep text = none ↔ sep ∉ text := by
  have hnil : splitFirst? sep text = none
      ↔ text.dropWhile (· != sep) = [] := by
    unfold splitFirst?
    split
    · next hnil => exact iff_of_true rfl hnil
    · next hcons => exact iff_of_false nofun (by rw [hcons]; nofun)
  rw [hnil, List.dropWhile_eq_nil_iff]
  constructor
  · intro h hsep
    exact bne_iff_ne.1 (h sep hsep) rfl
  · rintro h c hc
    refine bne_iff_ne.2 ?_
    rintro rfl
    exact h hc

-- ============================================================== records

/-- What follows a reading comes to something if both do. -/
theorem exceptBind_eq_ok_iff {ε α β : Type} {x : Except ε α}
    {f : α → Except ε β} {b : β} :
    x >>= f = .ok b ↔ ∃ a, x = .ok a ∧ f a = .ok b := by
  cases x with
  | error fault => exact iff_of_false nofun nofun
  | ok a =>
      constructor
      · exact fun h => ⟨a, rfl, h⟩
      · rintro ⟨a', ha, h⟩
        cases ha
        exact h

/-- A mapped reading comes to what the reading comes to, mapped. -/
theorem exceptMap_eq_ok_iff {ε α β : Type} {x : Except ε α} {f : α → β}
    {b : β} : x.map f = .ok b ↔ ∃ a, x = .ok a ∧ f a = b := by
  cases x with
  | error fault => exact iff_of_false nofun nofun
  | ok a => simp [Except.map]

namespace Record

/-- The line is a record of that type with that payload. A line without
a colon is all type. -/
structure IsRecord (line type payload : List Char) : Prop where
  no_colon : ':' ∉ type
  line : line = type ++ ':' :: payload ∨ line = type ∧ payload = []

/-- A line is cut into its type and its payload. -/
theorem split_eq_iff {line type payload : List Char} :
    split line = (type, payload) ↔ IsRecord line type payload := by
  constructor
  · intro h
    unfold split at h
    cases hcut : Text.splitFirst? ':' line with
    | none =>
        rw [hcut] at h
        cases h
        exact ⟨Text.splitFirst?_eq_none_iff.1 hcut, Or.inr ⟨rfl, rfl⟩⟩
    | some parts =>
        rw [hcut] at h
        cases h
        obtain ⟨hline, hclean⟩ := Text.eq_of_splitFirst?_eq_some hcut
        exact ⟨hclean, Or.inl hline⟩
  · rintro ⟨hclean, rfl | ⟨rfl, rfl⟩⟩
    · rw [split, Text.splitFirst?_append hclean]
      rfl
    · rw [split, Text.splitFirst?_eq_none_iff.2 hclean]
      rfl

/-- The field is a line number or the like. -/
def IsNumber (text : List Char) (n : Nat) : Prop :=
  Text.Numeral.Denotes text n ∧ n < 1 <<< 32

/-- The field is a count. -/
def IsCount (text : List Char) (c : Count) : Prop :=
  Text.Numeral.Denotes text c.toNat

section Fields

variable {kind : RecordKind} {payload : List Char} {role : FieldRole}
  {text : List Char}

/-- A field is read as the number that it denotes, if that is below the
bound. -/
theorem readBelow_eq_ok_iff {bound n : Nat} (hbound : 0 < bound) :
    readBelow kind payload bound role text = .ok n
      ↔ Text.Numeral.Denotes text n ∧ n < bound := by
  rw [← Text.Numeral.read_eq_ok_iff hbound, readBelow]
  cases Text.Numeral.read bound text with
  | error problem =>
      constructor
      · intro h
        cases h
      · intro h
        cases h
  | ok m =>
      show Except.ok m = Except.ok n ↔ Except.ok m = Except.ok n
      rw [Except.ok.injEq, Except.ok.injEq]

/-- A field is read as a number just if it is one. -/
theorem readNumber_eq_ok_iff {n : Nat} :
    readNumber kind payload role text = .ok n ↔ IsNumber text n :=
  readBelow_eq_ok_iff (by decide)

/-- A field is read as a count just if it is one. -/
theorem readCount_eq_ok_iff {c : Count} :
    readCount kind payload role text = .ok c ↔ IsCount text c := by
  rw [readCount, exceptMap_eq_ok_iff]
  simp only [readBelow_eq_ok_iff (Nat.succ_pos _)]
  constructor
  · rintro ⟨n, ⟨hn, hlt⟩, rfl⟩
    rw [IsCount, Count.toNat_saturate, Nat.min_eq_left (by omega)]
    exact hn
  · intro h
    refine ⟨c.toNat, ⟨h, Nat.lt_succ_of_le c.le_limit⟩, ?_⟩
    ext
    exact Nat.min_eq_left c.le_limit

/-- A number and a count that follows are both read. -/
theorem readNumber_readCount_eq_ok_iff {α : Type} {f : Nat → Count → α}
    {role' : FieldRole} {text' : List Char} {a : α} :
    (readNumber kind payload role text >>= fun n =>
        readCount kind payload role' text' >>= fun c => pure (f n c))
        = .ok a
      ↔ ∃ n c, IsNumber text n ∧ IsCount text' c ∧ f n c = a := by
  constructor
  · intro h
    obtain ⟨n, hn, h⟩ := exceptBind_eq_ok_iff.1 h
    obtain ⟨c, hc, h⟩ := exceptBind_eq_ok_iff.1 h
    cases h
    exact ⟨n, c, readNumber_eq_ok_iff.1 hn, readCount_eq_ok_iff.1 hc, rfl⟩
  · rintro ⟨n, c, hn, hc, rfl⟩
    exact exceptBind_eq_ok_iff.2 ⟨n, readNumber_eq_ok_iff.2 hn,
      exceptBind_eq_ok_iff.2 ⟨c, readCount_eq_ok_iff.2 hc, rfl⟩⟩

end Fields

-- =============================================================== blame

/-- If the reading fails, the fault is one of this record. -/
def Blames {α : Type} (kind : RecordKind) (payload : List Char)
    (x : Except Fault α) : Prop :=
  ∀ fault, x = .error fault → ∃ defect, fault = .record kind payload defect

namespace Blames

variable {α β : Type} {kind : RecordKind} {payload : List Char}

/-- What succeeds blames nothing. -/
theorem ok (a : α) : Blames kind payload (.ok a) := nofun

theorem error (defect : Defect) :
    Blames (α := α) kind payload (.error (.record kind payload defect)) := by
  rintro fault ⟨⟩
  exact ⟨defect, rfl⟩

/-- Readings one after the other blame the record if each does. -/
theorem bind {x : Except Fault α} {f : α → Except Fault β}
    (hx : Blames kind payload x) (hf : ∀ a, Blames kind payload (f a)) :
    Blames kind payload (x >>= f) := by
  cases x with
  | error fault =>
      intro fault' h
      cases h
      exact hx fault rfl
  | ok a => exact hf a

theorem map {x : Except Fault α} (hx : Blames kind payload x)
    (f : α → β) : Blames kind payload (x.map f) := by
  cases x with
  | error fault =>
      intro fault' h
      cases h
      exact hx fault rfl
  | ok a => exact ok _

/-- A field that is no number is blamed on its record. -/
theorem readBelow (bound : Nat) (role : FieldRole) (text : List Char) :
    Blames kind payload (readBelow kind payload bound role text) := by
  unfold Record.readBelow
  split
  · exact ok _
  · exact error _

theorem readNumber (role : FieldRole) (text : List Char) :
    Blames kind payload (readNumber kind payload role text) :=
  readBelow _ role text

theorem readCount (role : FieldRole) (text : List Char) :
    Blames kind payload (readCount kind payload role text) :=
  (readBelow _ role text).map _

end Blames

-- ======================================================== hits of a line

/-- The payload is a line and its hits, with one more field at most. -/
inductive LineHits (payload : List Char) (n : Nat) (c : Count) : Prop
  | plain {line hits : List Char} (hfields : fields payload = [line, hits])
      (hnumber : IsNumber line n) (hhits : IsCount hits c)
  | extended {line hits more : List Char}
      (hfields : fields payload = [line, hits, more])
      (hnumber : IsNumber line n) (hhits : IsCount hits c)

variable (kind : RecordKind) (payload : List Char)

/-- A line and its hits are read from exactly the payloads that are
one. -/
theorem readLineHits_eq_ok_iff {n : Nat} {c : Count} :
    readLineHits kind payload = .ok (n, c) ↔ LineHits payload n c := by
  constructor
  · intro h
    unfold readLineHits at h
    split at h
    · next hfields =>
        obtain ⟨n, c, hn, hc, h⟩ := readNumber_readCount_eq_ok_iff.1 h
        cases h
        exact .plain hfields hn hc
    · next hfields =>
        obtain ⟨n, c, hn, hc, h⟩ := readNumber_readCount_eq_ok_iff.1 h
        cases h
        exact .extended hfields hn hc
    · cases h
  · rintro (⟨hfields, hn, hc⟩ | ⟨hfields, hn, hc⟩)
    · rw [readLineHits, hfields]
      exact readNumber_readCount_eq_ok_iff.2 ⟨n, c, hn, hc, rfl⟩
    · rw [readLineHits, hfields]
      exact readNumber_readCount_eq_ok_iff.2 ⟨n, c, hn, hc, rfl⟩

/-- Reading a line and its hits blames its record. -/
theorem blames_readLineHits :
    Blames kind payload (readLineHits kind payload) := by
  unfold readLineHits
  split
  · exact .bind (.readNumber _ _) fun _ => .bind (.readCount _ _)
      fun _ => .ok _
  · exact .bind (.readNumber _ _) fun _ => .bind (.readCount _ _)
      fun _ => .ok _
  · exact .error _

end Record

end Coverage
