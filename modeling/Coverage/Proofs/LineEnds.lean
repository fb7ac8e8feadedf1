/-
The ends of lines, byte by byte and character by character. Lines are
cut before they are decoded, so what a terminator could do to the
characters before it has to be said: nothing. A byte below `0x80` is a
character of its own wherever it stands, even where another character
has begun and is not finished (`Utf8.decode_concat`), and a line feed is
read only where a byte is one (`Utf8.lineFeed_not_mem_decode`). So it is
the same whether a line is decoded with its terminator and then stripped
of it, or cut off before.

`cutLines` lists the lines of a byte stream in the plainest way: cut at
each line feed, decode, strip. It may have an empty line more than
`lines` at the end, and otherwise they agree (`cutLines_eq_or`).

# The invariant

A character that has begun may not be finished by a byte below `0x80`,
and its value, once finished, is not below `0x80` either. The bits read
so far and the interval for the next byte tell this at each moment
(`Utf8.Partial.Proper`), and each byte keeps it so.
-/
import Coverage.Proofs.Concatenation
import Coverage.Proofs.Writing

namespace Coverage.Text

-- ============================================================ characters

namespace Utf8

/-- The character that has begun goes on with bytes from `0x80` only, and
has a value from `0x80` on when it is finished. -/
structure Partial.Proper (p : Partial) : Prop where
  low : 0x80 ≤ p.low.toNat
  bits : 2 ≤ p.bits ∨ 0 < p.after ∧ 2 ≤ 64 * p.bits + (p.low.toNat - 0x80)

/-- What a byte begins is proper. -/
theorem proper_of_start {b : UInt8} {p : Partial}
    (h : start b = .begun p) : p.Proper := by
  have hbyte : UInt8.ofNat b.toNat = b := UInt8.ofNat_toNat
  have hlow : 0xC2 ≤ b.toNat := by
    by_contra hlt
    unfold start at h
    dsimp only at h
    split at h
    · cases h
    · rw [if_pos (by omega)] at h
      cases h
  -- The first byte says how many follow, and some of them narrow the
  -- range of the second one.
  by_cases htwo : b.toNat < 0xE0
  · rw [← hbyte, start_of_two hlow htwo] at h
    cases h
    exact ⟨Nat.le_refl _, Or.inl (show 2 ≤ b.toNat - 0xC0 by omega)⟩
  by_cases hthree : b.toNat < 0xF0
  · rw [← hbyte, start_of_three (by omega) hthree] at h
    cases h
    by_cases hE0 : b.toNat = 0xE0
    · simp only [hE0]
      exact ⟨by decide, Or.inr (by decide)⟩
    · simp only [hE0, if_false]
      refine ⟨Nat.le_refl _, Or.inr ⟨Nat.one_pos, ?_⟩⟩
      show 2 ≤ 64 * (b.toNat - 0xE0) + (0x80 - 0x80)
      omega
  by_cases hfour : b.toNat ≤ 0xF4
  · rw [← hbyte, start_of_four (by omega) hfour] at h
    cases h
    by_cases hF0 : b.toNat = 0xF0
    · simp only [hF0]
      exact ⟨by decide, Or.inr (by decide)⟩
    · simp only [hF0, if_false]
      refine ⟨Nat.le_refl _, Or.inr ⟨Nat.two_pos, ?_⟩⟩
      show 2 ≤ 64 * (b.toNat - 0xF0) + (0x80 - 0x80)
      omega
  · unfold start at h
    dsimp only at h
    rw [if_neg (by omega), if_neg (by omega), if_neg (by omega),
      if_neg (by omega), if_neg (by omega), if_neg (by omega),
      if_neg (by omega), if_neg (by omega), if_neg (by omega)] at h
    cases h

/-- Only one number is that of the line feed. -/
theorem ofNat_ne_lineFeed {n : Nat} (h : n ≠ 10) :
    Char.ofNat n ≠ '\n' := by
  intro heq
  unfold Char.ofNat at heq
  by_cases hvalid : n.isValidChar
  · rw [dif_pos hvalid] at heq
    exact h (congrArg Char.toNat heq)
  · rw [dif_neg hvalid] at heq
    cases heq

namespace Scan

/-- The scan of bytes, up to their end. -/
def ofBytes (bytes : List UInt8) : Scan := bytes.foldl step ⟨[], none⟩

theorem ofBytes_concat (bytes : List UInt8) (b : UInt8) :
    ofBytes (bytes ++ [b]) = (ofBytes bytes).step b := by
  rw [ofBytes, List.foldl_append]
  rfl

/-- What has begun, if anything has, is proper. -/
def Proper (s : Scan) : Prop := ∀ p ∈ s.pending, p.Proper

theorem proper_begin (pieces : List (Option Char)) (b : UInt8) :
    (begin pieces b).Proper := by
  unfold Scan.begin
  split
  · nofun
  · next p hstart =>
      intro q hq
      cases hq
      exact proper_of_start hstart
  · nofun

/-- A scan stays proper. -/
theorem Proper.step {s : Scan} (h : s.Proper) (b : UInt8) :
    (s.step b).Proper := by
  obtain ⟨pieces, pending⟩ := s
  cases pending with
  | none => exact proper_begin pieces b
  | some p =>
      have hp : p.Proper := h p rfl
      unfold Scan.step
      dsimp only
      split
      · next hin =>
          split
          · nofun
          · intro q hq
            cases hq
            have hle := UInt8.le_iff_toNat_le.1 hin.1
            have hbits := hp.bits
            refine ⟨Nat.le_refl _, Or.inl ?_⟩
            show 2 ≤ 64 * p.bits + (b.toNat - 0x80)
            omega
      · exact proper_begin _ b

theorem proper_ofBytes (bytes : List UInt8) : (ofBytes bytes).Proper := by
  induction bytes using List.reverseRecOn with
  | nil => nofun
  | append_singleton bytes b ih =>
      rw [ofBytes_concat]
      exact ih.step b

/-- The character of a byte in first position has its value. -/
theorem eq_ofNat_of_start {b : UInt8} {c : Char} (h : start b = .whole c) :
    c = Char.ofNat b.toNat := by
  unfold start at h
  dsimp only at h
  split at h
  · cases h
    rfl
  · repeat' split at h
    all_goals cases h

/-- A piece that a byte in first position adds is no line feed, unless
the byte is one. -/
theorem lineFeed_not_mem_begin {pieces : List (Option Char)} {b : UInt8}
    (hpieces : some '\n' ∉ pieces) (hb : b ≠ lineFeed) :
    some '\n' ∉ (begin pieces b).pieces := by
  unfold Scan.begin
  split
  · next c hstart =>
      have hnat : b.toNat ≠ 10 := fun h => hb (UInt8.toNat_inj.1 h)
      have hc : c ≠ '\n' := by
        rw [eq_ofNat_of_start hstart]
        exact ofNat_ne_lineFeed hnat
      rw [List.mem_cons, not_or]
      exact ⟨fun heq => hc (Option.some.inj heq).symm, hpieces⟩
  · exact hpieces
  · rw [List.mem_cons, not_or]
    exact ⟨nofun, hpieces⟩

/-- So it is with a byte in any position: a character that it finishes
has a value from `0x80` on. -/
theorem lineFeed_not_mem_step {s : Scan} {b : UInt8} (hs : s.Proper)
    (hpieces : some '\n' ∉ s.pieces) (hb : b ≠ lineFeed) :
    some '\n' ∉ (s.step b).pieces := by
  obtain ⟨pieces, pending⟩ := s
  cases pending with
  | none => exact lineFeed_not_mem_begin hpieces hb
  | some p =>
      unfold Scan.step
      dsimp only
      split
      · split
        · next hafter =>
            have hbits : 2 ≤ p.bits := by
              have := (hs p rfl).bits
              omega
            have hc := ofNat_ne_lineFeed
              (n := 64 * p.bits + (b.toNat - 0x80)) (by omega)
            rw [List.mem_cons, not_or]
            exact ⟨fun heq => hc (Option.some.inj heq).symm, hpieces⟩
        · exact hpieces
      · refine lineFeed_not_mem_begin ?_ hb
        rw [List.mem_cons, not_or]
        exact ⟨nofun, hpieces⟩

theorem lineFeed_not_mem_ofBytes {bytes : List UInt8}
    (h : lineFeed ∉ bytes) : some '\n' ∉ (ofBytes bytes).pieces := by
  induction bytes using List.reverseRecOn with
  | nil => exact List.not_mem_nil
  | append_singleton bytes b ih =>
      rw [List.mem_append, List.mem_singleton, not_or] at h
      rw [ofBytes_concat]
      exact lineFeed_not_mem_step (proper_ofBytes bytes) (ih h.1)
        (Ne.symm h.2)

/-- The end adds nothing but a part that is ill-formed. -/
theorem mem_finish {s : Scan} {c : Char} (h : some c ∈ s.finish) :
    some c ∈ s.pieces := by
  unfold finish at h
  split at h
  · exact List.mem_reverse.1 h
  · rw [List.mem_reverse, List.mem_cons] at h
    exact h.resolve_left nofun

/-- A byte below `0x80` ends what has begun and is a character. -/
theorem finish_step {s : Scan} (hs : s.Proper) {b : UInt8}
    (hb : b.toNat < 0x80) :
    (s.step b).finish = s.finish ++ [some (Char.ofNat b.toNat)] := by
  have hbegin : ∀ pieces, begin pieces b
      = ⟨some (Char.ofNat b.toNat) :: pieces, none⟩ := by
    intro pieces
    rw [Scan.begin, ← UInt8.ofNat_toNat (x := b), start_of_one hb,
      UInt8.ofNat_toNat]
  obtain ⟨pieces, pending⟩ := s
  cases pending with
  | none =>
      show (begin pieces b).finish = _
      rw [hbegin]
      exact List.reverse_cons
  | some p =>
      have hout : ¬ (p.low ≤ b ∧ b ≤ p.high) := by
        intro hin
        have hle := UInt8.le_iff_toNat_le.1 hin.1
        have hlow := (hs p rfl).low
        omega
      unfold Scan.step
      dsimp only
      rw [if_neg hout, hbegin]
      exact List.reverse_cons

end Scan

/-- Where no byte is a line feed, none is read. -/
theorem lineFeed_not_mem_decode {raw : List UInt8} (h : lineFeed ∉ raw) :
    '\n' ∉ decode raw := by
  intro hmem
  obtain ⟨piece, hpiece, hchar⟩ := List.mem_map.1 hmem
  cases piece with
  | none => cases hchar
  | some c =>
      have hc : c = '\n' := hchar
      rw [hc] at hpiece
      exact Scan.lineFeed_not_mem_ofBytes h (Scan.mem_finish hpiece)

/-- A byte below `0x80` is a character of its own, and what is before it
is read as if nothing followed. -/
theorem decode_concat (raw : List UInt8) {b : UInt8} (hb : b.toNat < 0x80) :
    decode (raw ++ [b]) = decode raw ++ [Char.ofNat b.toNat] := by
  have hscan : scan (raw ++ [b])
      = scan raw ++ [some (Char.ofNat b.toNat)] := by
    show (Scan.ofBytes (raw ++ [b])).finish = (Scan.ofBytes raw).finish ++ _
    rw [Scan.ofBytes_concat, Scan.finish_step (Scan.proper_ofBytes raw) hb]
  rw [decode, hscan, List.map_append]
  rfl

end Utf8

-- ============================================================== trimming

/-- A character at the end that is to go goes. -/
theorem trimEnd_concat {drop : Char → Bool} {c : Char}
    (hc : drop c = true) (text : List Char) :
    trimEnd drop (text ++ [c]) = trimEnd drop text := by
  rw [trimEnd, List.reverse_concat, List.dropWhile_cons_of_pos hc, trimEnd]

/-- What is trimmed depends on the characters of the text only. -/
theorem trimEnd_congr {p q : Char → Bool} {text : List Char}
    (h : ∀ c ∈ text, p c = q c) : trimEnd p text = trimEnd q text := by
  have hdrop : ∀ l : List Char, (∀ c ∈ l, p c = q c) →
      l.dropWhile p = l.dropWhile q := by
    intro l hl
    induction l with
    | nil => rfl
    | cons c rest ih =>
        obtain ⟨hc, hrest⟩ := List.forall_mem_cons.1 hl
        rw [List.dropWhile_cons, List.dropWhile_cons, hc, ih hrest]
  rw [trimEnd, hdrop text.reverse fun c hc => h c (List.mem_reverse.1 hc),
    trimEnd]

/-- What is trimmed is an end. -/
theorem trimEnd_isPrefix (drop : Char → Bool) (text : List Char) :
    trimEnd drop text <+: text := by
  have hrev := (List.dropWhile_suffix drop (l := text.reverse)).reverse
  rwa [List.reverse_reverse] at hrev

/-- Nothing is left to trim. -/
theorem trimEnd_trimEnd (drop : Char → Bool) (text : List Char) :
    trimEnd drop (trimEnd drop text) = trimEnd drop text := by
  refine trimEnd_eq_self fun c hc => ?_
  rw [trimEnd, List.getLast?_reverse] at hc
  have hstop := List.head?_dropWhile_not drop text.reverse
  rw [hc] at hstop
  simpa using hstop

-- ================================================================= lines

/-- The byte that may stand before the one that ends a line. -/
def carriageReturn : UInt8 := 13

/-- The bytes with a carriage return before every line feed. -/
def withReturns (bytes : List UInt8) : List UInt8 :=
  bytes.flatMap fun b =>
    if b = lineFeed then [carriageReturn, lineFeed] else [b]

/-- A character of which line terminators are made. -/
def isLineEnd (c : Char) : Bool := c == '\n' || c == '\r'

/-- Some bytes as text, without line terminators at its end. -/
def cutLine (raw : List UInt8) : List Char :=
  trimEnd isLineEnd (Utf8.decode raw)

/-- What stands between line feeds, as text. -/
def cutLines (bytes : List UInt8) : List (List Char) :=
  (bytes.splitOn lineFeed).map cutLine

/-- It makes no difference whether a terminator is cut off before the
line is decoded or behind it, even if it cuts a character short. -/
theorem cutLine_concat (raw : List UInt8) {b : UInt8}
    (hb : b = lineFeed ∨ b = carriageReturn) :
    cutLine (raw ++ [b]) = cutLine raw := by
  have hbyte : b.toNat < 0x80 ∧ isLineEnd (Char.ofNat b.toNat) = true := by
    rcases hb with rfl | rfl
    · decide
    · decide
  rw [cutLine, Utf8.decode_concat raw hbyte.1, trimEnd_concat hbyte.2,
    cutLine]

/-- A line without a line feed is what the readers have of it. -/
theorem cutLine_eq_readLine {raw : List UInt8} (h : lineFeed ∉ raw) :
    cutLine raw = readLine raw := by
  refine trimEnd_congr fun c hc => ?_
  have hfeed : (c == '\n') = false := by
    rw [beq_eq_false_iff_ne]
    rintro rfl
    exact Utf8.lineFeed_not_mem_decode h hc
  rw [isLineEnd, hfeed, Bool.false_or]

theorem cutLines_of_not_mem {bytes : List UInt8} (h : lineFeed ∉ bytes) :
    cutLines bytes = [cutLine bytes] := by
  rw [cutLines, List.splitOn_eq_singleton h]
  rfl

/-- A line feed separates. -/
theorem cutLines_append_cons (x y : List UInt8) :
    cutLines (x ++ lineFeed :: y) = cutLines x ++ cutLines y := by
  rw [cutLines, List.splitOn_append_cons_self, List.map_append]
  rfl

/-- The readers have the same lines, but for an empty one at the end. -/
theorem cutLines_eq_or (bytes : List UInt8) :
    cutLines bytes = lines bytes ∨ cutLines bytes = lines bytes ++ [[]] := by
  have hcut : cutLines bytes = (bytes.splitOn lineFeed).map readLine :=
    List.map_congr_left fun raw hraw =>
      cutLine_eq_readLine (not_mem_of_mem_splitOn hraw)
  rw [hcut, lines, rawLines]
  split
  · next hlast =>
      obtain ⟨before, hbefore⟩ := List.getLast?_eq_some_iff.1 hlast
      rw [hbefore, List.dropLast_concat, List.map_append]
      exact Or.inr rfl
  · exact Or.inl rfl

/-- A carriage return at the end of a line is none of its text. -/
theorem cutLines_concat_return (x : List UInt8) :
    cutLines (x ++ [carriageReturn]) = cutLines x := by
  have hlast : ∀ raw : List UInt8, lineFeed ∉ raw →
      cutLines (raw ++ [carriageReturn]) = cutLines raw := by
    intro raw hraw
    have hboth : lineFeed ∉ raw ++ [carriageReturn] := by
      rw [List.mem_append, List.mem_singleton, not_or]
      exact ⟨hraw, by decide⟩
    rw [cutLines_of_not_mem hboth, cutLines_of_not_mem hraw,
      cutLine_concat raw (Or.inr rfl)]
  by_cases hx : lineFeed ∈ x
  · -- only the bytes behind the last line feed are concerned
    obtain ⟨raw, before, hrev, hraw⟩ :=
      List.eq_append_cons_of_mem (List.mem_reverse.2 hx)
    obtain rfl : x = before.reverse ++ lineFeed :: raw.reverse := by
      rw [← List.reverse_reverse x, hrev, List.reverse_append,
        List.reverse_cons, List.append_assoc, List.singleton_append]
    rw [List.append_assoc, List.cons_append, cutLines_append_cons,
      cutLines_append_cons, hlast _ (mt List.mem_reverse.1 hraw)]
  · exact hlast x hx

/-- Where a line may begin, what is before it makes lines of its own. -/
theorem cutLines_append {x : List UInt8} (hx : EndsLine x)
    (y : List UInt8) :
    cutLines (x ++ y) = (cutLines x).dropLast ++ cutLines y := by
  rcases hx with rfl | hlast
  · rfl
  · obtain ⟨before, rfl⟩ := List.getLast?_eq_some_iff.1 hlast
    have hnil : cutLines [] = [[]] := rfl
    rw [List.append_assoc, List.singleton_append, cutLines_append_cons,
      cutLines_append_cons, hnil, List.dropLast_concat]

end Coverage.Text
