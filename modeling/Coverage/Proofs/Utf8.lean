/-
Encoded text reads back. The scanner takes the bytes that encode a
character and has that character, wherever in a text they stand
(`foldl_step_encode`), so text that was encoded is found again
(`decode_encode`). A character other than the line feed is encoded
without that byte, so lines may be cut before they are decoded.
-/
import Coverage.Text.Lines

namespace Coverage.Text.Utf8

/-- The bytes of a text. -/
def encode (text : List Char) : List UInt8 :=
  text.flatMap String.utf8EncodeChar

-- ========================================================== first bytes

theorem toNat_ofNat {n : Nat} (h : n < 256) : (UInt8.ofNat n).toNat = n :=
  UInt8.toNat_ofNat_of_lt' h

/-- A byte below `0x80` is a character. -/
theorem start_of_one {n : Nat} (h : n < 0x80) :
    start (UInt8.ofNat n) = .whole (Char.ofNat n) := by
  unfold start
  rw [toNat_ofNat (by omega)]
  exact if_pos h

/-- The first of two bytes. -/
theorem start_of_two {n : Nat} (hlow : 0xC2 ≤ n) (hhigh : n < 0xE0) :
    start (UInt8.ofNat n) = .begun ⟨0, n - 0xC0, 0x80, 0xBF⟩ := by
  unfold start
  rw [toNat_ofNat (by omega), if_neg (by omega), if_neg (by omega),
    if_pos hhigh]

/-- The first of three bytes. Two values narrow what may follow. -/
theorem start_of_three {n : Nat} (hlow : 0xE0 ≤ n) (hhigh : n < 0xF0) :
    start (UInt8.ofNat n)
      = .begun ⟨1, n - 0xE0, if n = 0xE0 then 0xA0 else 0x80,
          if n = 0xED then 0x9F else 0xBF⟩ := by
  unfold start
  rw [toNat_ofNat (by omega), if_neg (by omega), if_neg (by omega),
    if_neg (by omega)]
  by_cases h0 : n = 0xE0
  · subst h0
    rfl
  · by_cases hd : n = 0xED
    · subst hd
      rfl
    · rw [if_neg h0, if_neg hd, if_pos hhigh, if_neg h0, if_neg hd]

/-- The first of four bytes. Two values narrow what may follow. -/
theorem start_of_four {n : Nat} (hlow : 0xF0 ≤ n) (hhigh : n ≤ 0xF4) :
    start (UInt8.ofNat n)
      = .begun ⟨2, n - 0xF0, if n = 0xF0 then 0x90 else 0x80,
          if n = 0xF4 then 0x8F else 0xBF⟩ := by
  unfold start
  rw [toNat_ofNat (by omega), if_neg (by omega), if_neg (by omega),
    if_neg (by omega), if_neg (by omega), if_neg (by omega),
    if_neg (by omega)]
  by_cases h0 : n = 0xF0
  · subst h0
    rfl
  · by_cases h4 : n = 0xF4
    · subst h4
      rfl
    · rw [if_neg h0, if_pos (by omega), if_neg h0, if_neg h4]

-- ====================================================== whole characters

/-- A byte in the interval continues the character. -/
theorem step_of_mem (pieces : List (Option Char)) {p : Partial}
    {n : Nat} (h : n < 256) (hlow : p.low.toNat ≤ n)
    (hhigh : n ≤ p.high.toNat) :
    Scan.step ⟨pieces, some p⟩ (UInt8.ofNat n)
      = match p.after with
        | 0 => ⟨some (Char.ofNat (64 * p.bits + (n - 0x80))) :: pieces, none⟩
        | more + 1 =>
          ⟨pieces, some ⟨more, 64 * p.bits + (n - 0x80), 0x80, 0xBF⟩⟩ := by
  have hin : p.low ≤ UInt8.ofNat n ∧ UInt8.ofNat n ≤ p.high := by
    rw [UInt8.le_iff_toNat_le, UInt8.le_iff_toNat_le, toNat_ofNat h]
    exact ⟨hlow, hhigh⟩
  obtain ⟨after, bits, low, high⟩ := p
  cases after with
  | zero =>
      show (if low ≤ UInt8.ofNat n ∧ UInt8.ofNat n ≤ high then
        Scan.mk (some (Char.ofNat (64 * bits
          + ((UInt8.ofNat n).toNat - 0x80))) :: pieces) none
        else _) = Scan.mk _ none
      rw [if_pos hin, toNat_ofNat h]
  | succ more =>
      show (if low ≤ UInt8.ofNat n ∧ UInt8.ofNat n ≤ high then
        Scan.mk pieces (some ⟨more, 64 * bits
          + ((UInt8.ofNat n).toNat - 0x80), 0x80, 0xBF⟩)
        else _) = Scan.mk pieces (some _)
      rw [if_pos hin, toNat_ofNat h]

/-- A byte in first position begins a character. -/
theorem step_of_begun (pieces : List (Option Char)) {b : UInt8}
    {p : Partial} (h : start b = .begun p) :
    Scan.step ⟨pieces, none⟩ b = ⟨pieces, some p⟩ := by
  show Scan.begin pieces b = _
  rw [Scan.begin, h]

/-- Two bytes are scanned as the character that they encode. -/
theorem foldl_step_two (pieces : List (Option Char)) {v : Nat}
    (hlow : 0x80 ≤ v) (hhigh : v ≤ 0x7FF) :
    [UInt8.ofNat (v / 64 % 32 + 0xC0), UInt8.ofNat (v % 64 + 0x80)].foldl
        Scan.step ⟨pieces, none⟩
      = ⟨some (Char.ofNat v) :: pieces, none⟩ := by
  have hbits : 64 * (v / 64 % 32 + 0xC0 - 0xC0) + (v % 64 + 0x80 - 0x80)
      = v := by omega
  rw [List.foldl_cons,
    step_of_begun pieces (start_of_two (by omega) (by omega)),
    List.foldl_cons, step_of_mem pieces (by omega)
      (by show 0x80 ≤ _; omega) (by show _ ≤ 0xBF; omega)]
  show Scan.mk (some (Char.ofNat _) :: pieces) none = _
  rw [hbits]

/-- So are three, unless they encode a surrogate. -/
theorem foldl_step_three (pieces : List (Option Char)) {v : Nat}
    (hlow : 0x800 ≤ v) (hhigh : v ≤ 0xFFFF)
    (hvalid : v < 0xD800 ∨ 0xDFFF < v) :
    [UInt8.ofNat (v / 4096 % 16 + 0xE0),
        UInt8.ofNat (v / 64 % 64 + 0x80),
        UInt8.ofNat (v % 64 + 0x80)].foldl Scan.step ⟨pieces, none⟩
      = ⟨some (Char.ofNat v) :: pieces, none⟩ := by
  have hbits : 64 * (64 * (v / 4096 % 16 + 0xE0 - 0xE0)
      + (v / 64 % 64 + 0x80 - 0x80)) + (v % 64 + 0x80 - 0x80) = v := by
    omega
  rw [List.foldl_cons,
    step_of_begun pieces (start_of_three (by omega) (by omega)),
    List.foldl_cons, step_of_mem pieces (by omega)]
  · show List.foldl Scan.step ⟨pieces, some ⟨0, _, 0x80, 0xBF⟩⟩ _ = _
    rw [List.foldl_cons, step_of_mem pieces (by omega)
      (by show 0x80 ≤ _; omega) (by show _ ≤ 0xBF; omega)]
    show Scan.mk (some (Char.ofNat _) :: pieces) none = _
    rw [hbits]
  · -- no overlong form
    show UInt8.toNat (if _ then _ else _) ≤ _
    split
    · show 0xA0 ≤ _
      omega
    · show 0x80 ≤ _
      omega
  · -- no surrogate
    show _ ≤ UInt8.toNat (if _ then _ else _)
    split
    · show _ ≤ 0x9F
      omega
    · show _ ≤ 0xBF
      omega

/-- So are four. -/
theorem foldl_step_four (pieces : List (Option Char)) {v : Nat}
    (hlow : 0x10000 ≤ v) (hhigh : v < 0x110000) :
    [UInt8.ofNat (v / 262144 % 8 + 0xF0),
        UInt8.ofNat (v / 4096 % 64 + 0x80),
        UInt8.ofNat (v / 64 % 64 + 0x80),
        UInt8.ofNat (v % 64 + 0x80)].foldl Scan.step ⟨pieces, none⟩
      = ⟨some (Char.ofNat v) :: pieces, none⟩ := by
  have hbits : 64 * (64 * (64 * (v / 262144 % 8 + 0xF0 - 0xF0)
      + (v / 4096 % 64 + 0x80 - 0x80)) + (v / 64 % 64 + 0x80 - 0x80))
        + (v % 64 + 0x80 - 0x80) = v := by omega
  rw [List.foldl_cons,
    step_of_begun pieces (start_of_four (by omega) (by omega)),
    List.foldl_cons, step_of_mem pieces (by omega)]
  · show List.foldl Scan.step ⟨pieces, some ⟨1, _, 0x80, 0xBF⟩⟩ _ = _
    rw [List.foldl_cons, step_of_mem pieces (by omega)
      (by show 0x80 ≤ _; omega) (by show _ ≤ 0xBF; omega)]
    show List.foldl Scan.step ⟨pieces, some ⟨0, _, 0x80, 0xBF⟩⟩ _ = _
    rw [List.foldl_cons, step_of_mem pieces (by omega)
      (by show 0x80 ≤ _; omega) (by show _ ≤ 0xBF; omega)]
    show Scan.mk (some (Char.ofNat _) :: pieces) none = _
    rw [hbits]
  · -- no overlong form
    show UInt8.toNat (if _ then _ else _) ≤ _
    split
    · show 0x90 ≤ _
      omega
    · show 0x80 ≤ _
      omega
  · -- no value past the last character
    show _ ≤ UInt8.toNat (if _ then _ else _)
    split
    · show _ ≤ 0x8F
      omega
    · show _ ≤ 0xBF
      omega

/-- The bytes of a character are scanned as that character. -/
theorem foldl_step_encodeChar (pieces : List (Option Char)) (c : Char) :
    (String.utf8EncodeChar c).foldl Scan.step ⟨pieces, none⟩
      = ⟨some c :: pieces, none⟩ := by
  have hvalid : c.val.toNat < 0xD800
      ∨ 0xDFFF < c.val.toNat ∧ c.val.toNat < 0x110000 := c.valid
  have hc : Char.ofNat c.val.toNat = c := Char.ofNat_toNat c
  unfold String.utf8EncodeChar
  generalize c.val.toNat = v at hvalid hc
  subst hc
  dsimp only
  by_cases h1 : v ≤ 0x7F
  · rw [if_pos h1]
    show Scan.begin pieces (UInt8.ofNat v) = _
    rw [Scan.begin, start_of_one (by omega)]
  · rw [if_neg h1]
    by_cases h2 : v ≤ 0x7FF
    · rw [if_pos h2]
      exact foldl_step_two pieces (by omega) h2
    · rw [if_neg h2]
      by_cases h3 : v ≤ 0xFFFF
      · rw [if_pos h3]
        exact foldl_step_three pieces (by omega) h3 (by omega)
      · rw [if_neg h3]
        exact foldl_step_four pieces (by omega) (by omega)

-- ========================================================== whole texts

/-- The bytes of a text are scanned as its characters. -/
theorem foldl_step_encode (pieces : List (Option Char))
    (text : List Char) :
    (encode text).foldl Scan.step ⟨pieces, none⟩
      = ⟨(text.map some).reverse ++ pieces, none⟩ := by
  induction text generalizing pieces with
  | nil => rfl
  | cons c rest ih =>
      rw [encode, List.flatMap_cons, List.foldl_append,
        foldl_step_encodeChar, ← encode, ih, List.map_cons,
        List.reverse_cons, List.append_assoc, List.singleton_append]

/-- Nothing in encoded text is ill-formed. -/
theorem scan_encode (text : List Char) :
    scan (encode text) = text.map some := by
  rw [scan, foldl_step_encode, List.append_nil]
  exact List.reverse_reverse _

/-- Text that was encoded is read back. -/
theorem decode_encode (text : List Char) : decode (encode text) = text := by
  rw [decode, scan_encode, List.map_map]
  exact List.map_id _

/-- It is well-formed. -/
theorem decode?_encode (text : List Char) :
    decode? (encode text) = some text := by
  rw [decode?, scan_encode]
  induction text with
  | nil => rfl
  | cons c rest ih =>
      rw [List.map_cons, List.mapM_cons, ih]
      rfl

/-- A character below `0x80` is encoded as one byte, any other in bytes
that are not below it. -/
theorem toNat_of_mem_encodeChar {c : Char} {b : UInt8}
    (hb : b ∈ String.utf8EncodeChar c) : b.toNat = c.toNat ∨ 0x80 ≤ b.toNat := by
  have hv : c.val.toNat = c.toNat := rfl
  unfold String.utf8EncodeChar at hb
  dsimp only at hb
  split at hb
  · rw [List.mem_singleton.1 hb, toNat_ofNat (by omega)]
    exact Or.inl hv
  · -- more than one byte, each with its highest bit set
    refine Or.inr ?_
    split at hb
    · simp only [List.mem_cons, List.not_mem_nil, or_false] at hb
      rcases hb with rfl | rfl
      · rw [toNat_ofNat (by omega)]
        omega
      · rw [toNat_ofNat (by omega)]
        omega
    · split at hb
      · simp only [List.mem_cons, List.not_mem_nil, or_false] at hb
        rcases hb with rfl | rfl | rfl
        · rw [toNat_ofNat (by omega)]
          omega
        · rw [toNat_ofNat (by omega)]
          omega
        · rw [toNat_ofNat (by omega)]
          omega
      · simp only [List.mem_cons, List.not_mem_nil, or_false] at hb
        rcases hb with rfl | rfl | rfl | rfl
        · rw [toNat_ofNat (by omega)]
          omega
        · rw [toNat_ofNat (by omega)]
          omega
        · rw [toNat_ofNat (by omega)]
          omega
        · rw [toNat_ofNat (by omega)]
          omega

/-- A byte below `0x80` is only in the character that it is. -/
theorem not_mem_encodeChar {c d : Char} (hd : d.toNat < 0x80)
    (hc : c ≠ d) : UInt8.ofNat d.toNat ∉ String.utf8EncodeChar c := by
  intro hb
  have hbyte := toNat_of_mem_encodeChar hb
  rw [toNat_ofNat (by omega)] at hbyte
  have hnat : c.toNat = d.toNat := by omega
  exact hc (by rw [← Char.ofNat_toNat c, hnat, Char.ofNat_toNat])

theorem lineFeed_not_mem_encode {text : List Char} (h : '\n' ∉ text) :
    lineFeed ∉ encode text := by
  intro hmem
  obtain ⟨c, hc, hbyte⟩ := List.mem_flatMap.1 hmem
  refine not_mem_encodeChar (d := '\n') (by decide) ?_ hbyte
  rintro rfl
  exact h hc

end Coverage.Text.Utf8
