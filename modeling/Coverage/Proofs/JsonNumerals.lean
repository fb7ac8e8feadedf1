/-
JSON numbers. The grammar says which bytes are a number and what its
parts are (`IsNumeral`).

Only a number without sign, fraction and exponent has a value, which is
that of its digits, and has it only if it fits into 64 bits
(`read_scalar_eq_ok_some_iff`). Every natural number can be written so
(`isNumeral_bytesOf`, `isNatural_numeralOf`).
-/
import Mathlib.Data.Nat.Digits.Defs
import Mathlib.Tactic.IntervalCases
import Coverage.Json.Number
import Coverage.Proofs.Writing

namespace Coverage.Json.Number

-- ============================================================= grammar

/-- The bytes are these digits, one at least. -/
structure AreDigits (bytes : List UInt8) (digits : List Nat) : Prop where
  ne_nil : bytes ≠ []
  isDigit : ∀ b ∈ bytes, isDigit b = true
  digits : digits = bytes.map fun b => b.toNat - '0'.toNat

/-- The bytes are a fraction, or there is none. -/
inductive IsFraction : List UInt8 → List Nat → Prop
  | none : IsFraction [] []
  | some {bytes : List UInt8} {digits : List Nat}
      (h : AreDigits bytes digits) :
      IsFraction ('.'.toUInt8 :: bytes) digits

/-- The bytes are the sign of an exponent, or there is none. -/
inductive IsSign : List UInt8 → Bool → Prop
  | none : IsSign [] false
  | plus : IsSign ['+'.toUInt8] false
  | minus : IsSign ['-'.toUInt8] true

/-- The bytes are an exponent, or there is none. -/
inductive IsExponent : List UInt8 → Option Exponent → Prop
  | none : IsExponent [] none
  | some {mark : UInt8} {sign bytes : List UInt8} {e : Exponent}
      (hmark : mark = 'e'.toUInt8 ∨ mark = 'E'.toUInt8)
      (hsign : IsSign sign e.negative) (h : AreDigits bytes e.digits) :
      IsExponent (mark :: (sign ++ bytes)) (some e)

/-- The bytes are the number. Its digits do not begin with a zero unless
that is all. -/
inductive IsNumeral : List UInt8 → Numeral → Prop
  | mk {n : Numeral} {whole fraction exponent : List UInt8}
      (hwhole : AreDigits whole n.whole)
      (hzero : ∀ d more, n.whole ≠ 0 :: d :: more)
      (hfraction : IsFraction fraction n.fraction)
      (hexponent : IsExponent exponent n.exponent) :
      IsNumeral ((if n.negative then ['-'.toUInt8] else [])
        ++ (whole ++ (fraction ++ exponent))) n

-- =============================================================== value

/-- Digits go on from what was read before. -/
theorem le_ofDigits (digits : List Nat) (seen : Nat) :
    seen ≤ ofDigits seen digits := by
  induction digits generalizing seen with
  | nil => exact Nat.le_refl seen
  | cons d digits ih =>
      have hrest := ih (10 * seen + d)
      show seen ≤ ofDigits (10 * seen + d) digits
      omega

/-- Digits of a number that fits are gathered up to the end. -/
theorem gather_of_le {digits : List Nat} {seen : Nat}
    (h : ofDigits seen digits ≤ Count.limit) :
    gather seen digits = (ofDigits seen digits, []) := by
  induction digits generalizing seen with
  | nil => rfl
  | cons d digits ih =>
      have hrest : ofDigits (10 * seen + d) digits ≤ Count.limit := h
      have hfits := Nat.le_trans (le_ofDigits digits (10 * seen + d)) hrest
      rw [gather, if_pos hfits, ih hrest]
      rfl

/-- Digits stand for what they do as digits with the lowest in front. -/
theorem ofDigits_eq (digits : List Nat) :
    ofDigits 0 digits = Nat.ofDigits 10 digits.reverse := by
  have hreverse : ∀ lowest : List Nat,
      ofDigits 0 lowest.reverse = Nat.ofDigits 10 lowest := by
    intro lowest
    induction lowest with
    | nil => rfl
    | cons d lowest ih =>
        have hlast : ofDigits 0 (lowest.reverse ++ [d])
            = 10 * ofDigits 0 lowest.reverse + d := by
          simp [ofDigits]
        rw [List.reverse_cons, hlast, ih, Nat.ofDigits_cons, Nat.add_comm]
  rw [← hreverse, List.reverse_reverse]

namespace Numeral

variable {n : Numeral} {k : Nat}

/-- The number is written without sign, fraction and exponent, and its
digits stand for `k`. -/
structure IsNatural (n : Numeral) (k : Nat) : Prop where
  no_sign : n.negative = false
  no_fraction : n.fraction = []
  no_exponent : n.exponent = none
  value : Nat.ofDigits 10 n.whole.reverse = k

/-- A number has a value just if it is written as a natural number that
fits. -/
theorem natural?_eq_some_iff :
    n.natural? = some k ↔ n.IsNatural k ∧ k ≤ Count.limit := by
  unfold natural?
  dsimp only
  rw [Option.ite_none_right_eq_some, Option.some_inj, ofDigits_eq]
  simp only [Bool.and_eq_true, Bool.not_eq_true', List.isEmpty_iff,
    Option.isNone_iff_eq_none, decide_eq_true_eq]
  constructor
  · intro ⟨⟨⟨⟨hsign, hfraction⟩, hexponent⟩, hlimit⟩, hvalue⟩
    exact ⟨⟨hsign, hfraction, hexponent, hvalue⟩, hvalue ▸ hlimit⟩
  · intro ⟨⟨hsign, hfraction, hexponent, hvalue⟩, hlimit⟩
    exact ⟨⟨⟨⟨hsign, hfraction⟩, hexponent⟩, hvalue ▸ hlimit⟩, hvalue⟩

/-- A natural number that fits is no matter of magnitude. -/
theorem IsNatural.inRange (h : n.IsNatural k) (hk : k ≤ Count.limit) :
    n.inRange = true := by
  obtain ⟨-, hfraction, hexponent, hvalue⟩ := h
  rw [← ofDigits_eq] at hvalue
  have hgather : gather 0 n.whole = (k, []) := by
    rw [gather_of_le (hvalue ▸ hk), hvalue]
  have hscaled : n.scaled = (k, 0) := by
    unfold scaled
    rw [hgather, hfraction]
    rfl
  have hpower : n.exponentValue = 0 := by
    unfold exponentValue
    rw [hexponent]
  unfold Numeral.inRange
  rw [hscaled, hpower]
  exact if_pos (Or.inr (Int.le_refl 0))

/-- A number is read as a value just if it is written as a natural number
that fits. -/
theorem read_scalar_eq_ok_some_iff :
    n.scalar.read = .ok (some k) ↔ n.IsNatural k ∧ k ≤ Count.limit := by
  rw [← natural?_eq_some_iff]
  unfold scalar
  dsimp only
  constructor
  · intro h
    split at h
    · exact Except.ok.inj h
    · cases h
  · intro h
    have hnatural := natural?_eq_some_iff.1 h
    rw [hnatural.1.inRange hnatural.2, if_pos rfl, h]

end Numeral

-- ============================================================= writing

/-- The bytes of a natural number, its digits. -/
def bytesOf (n : Nat) : List UInt8 := (Text.numeral n).map Char.toUInt8

/-- The value of a digit. -/
def digitOf (c : Char) : Nat := c.toNat - '0'.toNat

/-- The bytes of digits are these digits. -/
theorem areDigits_map {text : List Char} (hne : text ≠ [])
    (hdigits : ∀ c ∈ text, c.isDigit = true) :
    AreDigits (text.map Char.toUInt8) (text.map digitOf) := by
  have hbyte : ∀ c ∈ text, isDigit c.toUInt8 = true
      ∧ digitOf c = c.toUInt8.toNat - '0'.toNat := by
    intro c hc
    obtain ⟨hlow, hhigh⟩ := Text.toNat_of_isDigit (hdigits c hc)
    rw [← Char.ofNat_toNat c]
    generalize c.toNat = n at hlow hhigh
    interval_cases n <;> exact ⟨rfl, rfl⟩
  refine ⟨by simpa using hne, ?_, ?_⟩
  · exact List.forall_mem_map.2 fun c hc => (hbyte c hc).1
  · rw [List.map_map]
    exact List.map_congr_left fun c hc => (hbyte c hc).2

/-- Digits stand for the same number as characters and as values. -/
theorem ofDigits_map (text : List Char) (seen : Nat) :
    ofDigits seen (text.map digitOf) = Nat.ofDigitChars 10 text seen := by
  induction text generalizing seen with
  | nil => rfl
  | cons c rest ih =>
      rw [Nat.ofDigitChars_cons, ← ih]
      rfl

/-- A numeral does not begin with a zero unless that is all. -/
theorem numeral_ne_zero_cons (n : Nat) (c : Char) (rest : List Char) :
    Text.numeral n ≠ '0' :: c :: rest := by
  induction n using Nat.strongRecOn generalizing c rest with
  | _ n ih =>
      intro h
      rcases Nat.lt_or_ge n 10 with hn | hn
      · rw [Text.numeral, Nat.toDigits_of_lt_base hn] at h
        exact absurd (List.cons.inj h).2 (List.cons_ne_nil c rest).symm
      · have hdigits : Text.numeral n
            = Text.numeral (n / 10) ++ [(n % 10).digitChar] :=
          Nat.toDigits_of_base_le (by decide) hn
        have hvalue := Nat.ofDigitChars_ten_toDigits (n := n / 10)
        have hne : Text.numeral (n / 10) ≠ [] := Nat.toDigits_ne_nil
        rw [h] at hdigits
        cases hfront : Text.numeral (n / 10) with
        | nil => exact hne hfront
        | cons first more =>
            rw [hfront, List.cons_append] at hdigits
            obtain ⟨rfl, hmore⟩ := List.cons.inj hdigits
            cases more with
            | nil =>
                change Nat.ofDigitChars 10 (Text.numeral (n / 10)) 0
                  = n / 10 at hvalue
                rw [hfront] at hvalue
                have hzero : n / 10 = 0 := hvalue.symm
                omega
            | cons d more =>
                exact ih (n / 10) (by omega) d more hfront

/-- So its digits do not, either. -/
theorem map_digitOf_ne_zero_cons (n d : Nat) (more : List Nat) :
    (Text.numeral n).map digitOf ≠ 0 :: d :: more := by
  intro h
  obtain ⟨c, rest, htext, hzero, hrest⟩ := List.map_eq_cons_iff.1 h
  obtain ⟨c', rest', rfl, -, -⟩ := List.map_eq_cons_iff.1 hrest
  have hc : c.isDigit = true :=
    Text.isDigit_of_mem_numeral (htext ▸ List.mem_cons_self)
  have hlow := (Text.toNat_of_isDigit hc).1
  have hnat : c.toNat = 48 := by
    unfold digitOf at hzero
    change c.toNat - 48 = 0 at hzero
    omega
  have hchar : c = '0' := by
    rw [← Char.ofNat_toNat c, hnat]
  exact numeral_ne_zero_cons n c' rest' (hchar ▸ htext)

/-- A number as it is written by its digits. -/
def numeralOf (n : Nat) : Numeral :=
  ⟨false, (Text.numeral n).map digitOf, [], none⟩

/-- A natural number is written as the grammar has numbers. -/
theorem isNumeral_bytesOf (n : Nat) :
    IsNumeral (bytesOf n) (numeralOf n) := by
  have hdigits : AreDigits (bytesOf n) (numeralOf n).whole :=
    areDigits_map Nat.toDigits_ne_nil
      fun c hc => Text.isDigit_of_mem_numeral hc
  have hnumeral := IsNumeral.mk hdigits (map_digitOf_ne_zero_cons n)
    .none .none
  simpa [numeralOf] using hnumeral

/-- What is written for a natural number stands for it. -/
theorem isNatural_numeralOf (n : Nat) : (numeralOf n).IsNatural n := by
  refine ⟨rfl, rfl, rfl, ?_⟩
  rw [← ofDigits_eq, numeralOf, ofDigits_map]
  exact Nat.ofDigitChars_ten_toDigits

end Coverage.Json.Number
