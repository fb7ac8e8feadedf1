/-
Line numbers as words of thirty-two bits. The library counts lines with
plain numbers, which stop at zero when they are taken away from and never
run out. Where it matters that a computation meets neither end, it is said
once more with the steps of this module: a difference below zero is
nothing, a successor that is no word is nothing, and a ledger that is
asked for the lines from one to an earlier one answers nothing.

A computation made of such steps that comes to a result has met none of
these, and has done what it does with plain numbers.
-/
import Coverage.Ledger

namespace Coverage

namespace LineWord

/-- The last line that a word can number. -/
def last : Nat := (1 <<< 32) - 1

/-- The difference of two words, unless it is below zero. -/
def sub? (a b : Nat) : Option Nat := if b ≤ a then some (a - b) else none

/-- The word after this one, if there is one. -/
def succ? (a : Nat) : Option Nat := if a < last then some (a + 1) else none

theorem sub?_of_le {a b : Nat} (h : b ≤ a) : sub? a b = some (a - b) :=
  if_pos h

theorem succ?_of_lt {a : Nat} (h : a < last) : succ? a = some (a + 1) :=
  if_pos h

end LineWord

namespace Ledger

variable {V : Type}

/-- The entries from one line on and before another, which must not be
smaller. -/
def before? (m : Ledger Nat V) (first past : Nat) :
    Option (List (Nat × V)) :=
  if first ≤ past then
    some (m.toList.filter fun e => decide (first ≤ e.1 ∧ e.1 < past))
  else none

/-- The entries from one line up to another, which must not be smaller. -/
def upTo? (m : Ledger Nat V) (first last : Nat) :
    Option (List (Nat × V)) :=
  if first ≤ last then
    some (m.toList.filter fun e => decide (first ≤ e.1 ∧ e.1 ≤ last))
  else none

/-- Every line of the ledger is numbered by a word. -/
def FitsWords (m : Ledger Nat V) : Prop := ∀ line ∈ m, line ≤ LineWord.last

instance (m : Ledger Nat V) : Decidable m.FitsWords :=
  decidable_of_iff (∀ line ∈ m.keys, line ≤ LineWord.last)
    (forall_congr' fun _ => by rw [Std.ExtTreeMap.mem_keys])

theorem FitsWords.le {m : Ledger Nat V} (h : m.FitsWords) {line : Nat}
    {v : V} (hv : m[line]? = some v) : line ≤ LineWord.last := by
  refine h line ?_
  rw [Std.ExtTreeMap.mem_iff_isSome_getElem?, hv]
  rfl

end Ledger

end Coverage
