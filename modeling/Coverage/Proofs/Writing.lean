/-
Writing what the line-oriented formats read: lines, numerals and
records. Each is read back as what was written, under a condition that
says what must not occur in it: no comma in a field, no number beyond
the bound, and a line has to be `Closed`. A record is closed if its last
field is, so this is asked of names only; numerals always are.
-/
import Coverage.Proofs.Utf8
import Coverage.Record
import Coverage.Text.Blank

namespace Coverage

namespace Text

-- ================================================================ lines

/-- The bytes of lines, each with a line feed behind it. -/
def encodeLines (lines : List (List Char)) : List UInt8 :=
  lines.flatMap fun line => Utf8.encode line ++ [lineFeed]

/-- The lines of written lines are those that were written, before they
are decoded. -/
theorem rawLines_encodeLines {lines : List (List Char)}
    (h : ∀ line ∈ lines, '\n' ∉ line) :
    rawLines (encodeLines lines) = lines.map Utf8.encode := by
  have hsplit : (encodeLines lines).splitOn lineFeed
      = lines.map Utf8.encode ++ [[]] := by
    induction lines with
    | nil => rfl
    | cons line rest ih =>
        have hline := Utf8.lineFeed_not_mem_encode
          (h line List.mem_cons_self)
        have hrest := ih fun l hl => h l (List.mem_cons_of_mem _ hl)
        rw [encodeLines, List.flatMap_cons, List.append_assoc,
          List.singleton_append, ← encodeLines,
          List.splitOn_append_cons_self_of_not_mem hline, hrest]
        rfl
  unfold rawLines
  rw [hsplit]
  dsimp only
  rw [if_pos List.getLast?_concat, List.dropLast_concat]

/-- Nothing is trimmed from a text whose last character stays. -/
theorem trimEnd_eq_self {drop : Char → Bool} {text : List Char}
    (h : ∀ c ∈ text.getLast?, drop c = false) :
    trimEnd drop text = text := by
  unfold trimEnd
  rw [← List.head?_reverse] at h
  have hrev : text.reverse.dropWhile drop = text.reverse := by
    cases hr : text.reverse with
    | nil => rfl
    | cons c rest =>
        rw [hr] at h
        have hc : drop c = false := h c rfl
        rw [List.dropWhile_cons, hc, if_neg Bool.false_ne_true]
  rw [hrev, List.reverse_reverse]

/-- What is trimmed comes behind a character that stays. -/
theorem trimEnd_append {drop : Char → Bool} {c : Char}
    (hc : drop c = false) (head tail : List Char) :
    trimEnd drop (head ++ c :: tail) = head ++ c :: trimEnd drop tail := by
  have hstop : ∀ xs : List Char,
      (xs ++ c :: head.reverse).dropWhile drop
        = xs.dropWhile drop ++ c :: head.reverse := by
    intro xs
    induction xs with
    | nil => exact List.dropWhile_cons_of_neg (by rw [hc]; nofun)
    | cons x xs ih =>
        rw [List.cons_append, List.dropWhile_cons, List.dropWhile_cons, ih]
        split
        · rfl
        · rfl
  unfold trimEnd
  rw [List.reverse_append, List.reverse_cons, List.append_assoc,
    List.singleton_append, hstop, List.reverse_append, List.reverse_cons,
    List.reverse_reverse, List.append_assoc, List.singleton_append]

/-- The text fits on a line and ends it: it has no line feed, and no
white space at its end. -/
structure Closed (text : List Char) : Prop where
  no_lineFeed : '\n' ∉ text
  no_blank_end : ∀ c ∈ text.getLast?, isBlank c = false

namespace Closed

theorem of_getLast? {text : List Char} {c : Char} (hfeed : '\n' ∉ text)
    (hlast : text.getLast? = some c) (hc : isBlank c = false) :
    Closed text := by
  refine ⟨hfeed, fun d hd => ?_⟩
  rw [Option.mem_def, hlast] at hd
  cases hd
  exact hc

/-- What stands before a separator does not matter at the end of the
line. -/
theorem append {head tail : List Char} {sep : Char}
    (hhead : '\n' ∉ head) (hsep : isBlank sep = false)
    (htail : Closed tail) : Closed (head ++ sep :: tail) := by
  have hfeed : '\n' ≠ sep := by
    rintro rfl
    cases hsep
  constructor
  · rw [List.mem_append, List.mem_cons]
    rintro (h | h | h)
    · exact hhead h
    · exact hfeed h
    · exact htail.no_lineFeed h
  · intro c hc
    rw [List.getLast?_append, List.getLast?_cons] at hc
    cases hlast : tail.getLast? with
    | none =>
        rw [hlast] at hc
        cases hc
        exact hsep
    | some d =>
        rw [hlast] at hc
        cases hc
        exact htail.no_blank_end d hlast

/-- Nor does it matter what stands before a text that is not empty. -/
theorem append_of_ne_nil {head tail : List Char} (hhead : '\n' ∉ head)
    (htail : Closed tail) (hne : tail ≠ []) : Closed (head ++ tail) := by
  constructor
  · rw [List.mem_append]
    rintro (h | h)
    · exact hhead h
    · exact htail.no_lineFeed h
  · intro c hc
    rw [List.getLast?_append] at hc
    cases hlast : tail.getLast? with
    | none => exact absurd (List.getLast?_eq_none_iff.1 hlast) hne
    | some d =>
        rw [hlast] at hc
        cases hc
        exact htail.no_blank_end _ hlast

/-- White space is trimmed from no closed text. -/
theorem trimEnd_isBlank {text : List Char} (h : Closed text) :
    trimEnd isBlank text = text :=
  trimEnd_eq_self h.no_blank_end

end Closed

/-- Written lines are read back without carriage returns at their
ends. -/
theorem lines_encodeLines_eq_map {lines : List (List Char)}
    (h : ∀ line ∈ lines, '\n' ∉ line) :
    Text.lines (encodeLines lines) = lines.map (trimEnd (· == '\r')) := by
  rw [Text.lines, rawLines_encodeLines h, List.map_map]
  refine List.map_congr_left fun line _ => ?_
  show trimEnd _ (Utf8.decode (Utf8.encode line)) = _
  rw [Utf8.decode_encode]

/-- No carriage returns are trimmed from a closed text. -/
theorem Closed.trimEnd_return {text : List Char} (h : Closed text) :
    trimEnd (· == '\r') text = text := by
  refine trimEnd_eq_self fun c hc => ?_
  rw [beq_eq_false_iff_ne]
  rintro rfl
  cases h.no_blank_end '\r' hc

/-- Written lines are read back. -/
theorem lines_encodeLines {lines : List (List Char)}
    (h : ∀ line ∈ lines, Closed line) :
    Text.lines (encodeLines lines) = lines := by
  rw [lines_encodeLines_eq_map fun line hline => (h line hline).no_lineFeed]
  exact (List.map_congr_left fun line hline =>
    (h line hline).trimEnd_return).trans (List.map_id lines)

-- ============================================================= numerals

/-- The decimal numeral of a number. -/
def numeral (n : Nat) : List Char := Nat.toDigits 10 n

theorem isDigit_of_mem_numeral {n : Nat} {c : Char}
    (hc : c ∈ numeral n) : c.isDigit = true :=
  Nat.isDigit_of_mem_toDigits (by decide) (by decide) hc

/-- A character that is no digit is not in a numeral. -/
theorem not_mem_numeral {c : Char} (hc : c.isDigit = false) (n : Nat) :
    c ∉ numeral n := by
  intro hmem
  rw [isDigit_of_mem_numeral hmem] at hc
  cases hc

theorem toNat_of_isDigit {c : Char} (hc : c.isDigit = true) :
    48 ≤ c.toNat ∧ c.toNat ≤ 57 := by
  rw [Char.isDigit, Bool.and_eq_true, decide_eq_true_eq,
    decide_eq_true_eq] at hc
  exact hc

/-- A digit is not white space. -/
theorem isBlank_of_isDigit {c : Char} (hc : c.isDigit = true) :
    isBlank c = false := by
  have hrange := toNat_of_isDigit hc
  simp only [isBlank, Bool.or_eq_false_iff, Bool.and_eq_false_iff,
    beq_eq_false_iff_ne, decide_eq_false_iff_not]
  omega

/-- A numeral may end a line. -/
theorem Closed.numeral (n : Nat) : Closed (numeral n) :=
  ⟨not_mem_numeral rfl n, fun _ hc => isBlank_of_isDigit
    (isDigit_of_mem_numeral (List.mem_of_getLast? hc))⟩

/-- Digits only make a number larger. -/
theorem le_ofDigitChars (digits : List Char) (seen : Nat) :
    seen ≤ Nat.ofDigitChars 10 digits seen := by
  induction digits generalizing seen with
  | nil => exact Nat.le_refl seen
  | cons c rest ih =>
      rw [Nat.ofDigitChars_cons]
      have hrest := ih (10 * seen + (c.toNat - '0'.toNat))
      omega

/-- Digits are read as their number if it stays below the bound. -/
theorem readDigits_eq {bound : Nat} {digits : List Char} {seen : Nat}
    (hdigits : ∀ c ∈ digits, c.isDigit = true)
    (hbound : Nat.ofDigitChars 10 digits seen < bound) :
    Numeral.readDigits bound seen digits
      = .ok (Nat.ofDigitChars 10 digits seen) := by
  induction digits generalizing seen with
  | nil => rfl
  | cons c rest ih =>
      rw [Nat.ofDigitChars_cons] at hbound
      have hle := le_ofDigitChars rest (10 * seen + (c.toNat - '0'.toNat))
      have hnext : 10 * seen + (c.toNat - '0'.toNat) < bound := by omega
      rw [Numeral.readDigits, if_pos (hdigits c List.mem_cons_self)]
      dsimp only
      rw [if_pos hnext, Nat.ofDigitChars_cons]
      exact ih (fun d hd => hdigits d (List.mem_cons_of_mem _ hd)) hbound

/-- A numeral below the bound is read back. -/
theorem read_numeral {n bound : Nat} (h : n < bound) :
    Numeral.read bound (numeral n) = .ok n := by
  have hread : Numeral.readDigits bound 0 (numeral n) = .ok n := by
    rw [readDigits_eq (fun c hc => isDigit_of_mem_numeral hc)]
    · exact congrArg Except.ok Nat.ofDigitChars_ten_toDigits
    · rw [numeral, Nat.ofDigitChars_ten_toDigits]
      exact h
  have hplus : '+' ∉ numeral n := not_mem_numeral rfl n
  have hnil : numeral n ≠ [] := Nat.toDigits_ne_nil
  generalize numeral n = text at hread hplus hnil
  unfold Numeral.read
  split
  · exact absurd rfl hnil
  · exact absurd List.mem_cons_self hplus
  · exact absurd List.mem_cons_self hplus
  · exact hread

end Text

-- ============================================================== records

namespace Record

/-- The line of a record. -/
def write (kind : String) (payload : List Char) : List Char :=
  kind.toList ++ ':' :: payload

/-- The payload that has these fields. -/
def join (fields : List (List Char)) : List Char :=
  [','].intercalate fields

/-- A written record is cut into its type and its payload. -/
theorem split_write {kind : String} (hkind : ':' ∉ kind.toList)
    (payload : List Char) :
    split (write kind payload) = (kind.toList, payload) := by
  rw [split, write, Text.splitFirst?_append hkind]
  rfl

/-- Fields without commas are found again. -/
theorem fields_join {fs : List (List Char)} (hne : fs ≠ [])
    (hcomma : ∀ f ∈ fs, ',' ∉ f) : fields (join fs) = fs :=
  List.splitOn_intercalate ',' hcomma hne

/-- A payload may end a line if its last field may and no field has a
line feed. -/
theorem closed_join {fs : List (List Char)} {last : List Char}
    (hfs : ∀ f ∈ fs, '\n' ∉ f) (hlast : Text.Closed last) :
    Text.Closed (join (fs ++ [last])) := by
  induction fs with
  | nil =>
      rw [join, List.nil_append, List.intercalate_singleton]
      exact hlast
  | cons f rest ih =>
      have hrest := ih fun g hg => hfs g (List.mem_cons_of_mem _ hg)
      have hjoin : join ((f :: rest) ++ [last])
          = f ++ ',' :: join (rest ++ [last]) := by
        rw [join, List.cons_append,
          List.intercalate_cons_of_ne_nil (by simp)]
        simp [join]
      rw [hjoin]
      exact .append (hfs f List.mem_cons_self) rfl hrest

/-- A record may end a line if its payload may. -/
theorem closed_write {kind : String} {payload : List Char}
    (hkind : '\n' ∉ kind.toList) (h : Text.Closed payload) :
    Text.Closed (write kind payload) :=
  .append hkind rfl h

variable (kind : RecordKind) (payload : List Char) (role : FieldRole)

theorem readNumber_numeral {n : Nat} (h : n < 1 <<< 32) :
    readNumber kind payload role (Text.numeral n) = .ok n := by
  rw [readNumber, readBelow, Text.read_numeral h]

theorem readCount_numeral (c : Count) :
    readCount kind payload role (Text.numeral c.toNat) = .ok c := by
  rw [readCount, readBelow,
    Text.read_numeral (Nat.lt_succ_of_le c.le_limit)]
  refine congrArg Except.ok (Count.ext ?_)
  exact Nat.min_eq_left c.le_limit

end Record

end Coverage
