/-
Hit counts. A count says how often something ran; it never exceeds
what sixty-four bits hold, and a sum that would is cut off there. The
cut makes addition total, and it keeps the laws that merging needs:
addition is associative and commutative, zero changes nothing, a sum
is never below either part, and a count that left zero stays away
from it.

The view is `toNat`. Every operation is described by what it does to
that number, and two counts with the same number are the same count.
-/
namespace Coverage

/-- The largest number that a count can hold. -/
def Count.limit : Nat := (1 <<< 64) - 1

/-- How often something ran, at most `Count.limit` times. -/
@[ext]
structure Count where
  /-- The number of hits. -/
  toNat : Nat
  /-- No count exceeds the limit. -/
  le_limit : toNat ≤ Count.limit
deriving DecidableEq

namespace Count

-- ====================================================== construction

/-- Never hit. -/
instance : Zero Count := ⟨⟨0, Nat.zero_le _⟩⟩

instance : Inhabited Count := ⟨0⟩

/-- The count that holds `n`, or the limit when `n` is beyond it. -/
def saturate (n : Nat) : Count := ⟨min n limit, Nat.min_le_right _ _⟩

/-- Counts add, and stop at the limit. -/
instance : Add Count := ⟨fun a b => saturate (a.toNat + b.toNat)⟩

/-- Whether something ran at all. -/
def isHit (c : Count) : Bool := c.toNat != 0

-- ============================================================== laws

@[simp]
theorem toNat_zero : (0 : Count).toNat = 0 := rfl

@[simp]
theorem toNat_saturate (n : Nat) : (saturate n).toNat = min n limit := rfl

@[simp]
theorem toNat_add (a b : Count) :
    (a + b).toNat = min (a.toNat + b.toNat) limit := rfl

theorem add_comm (a b : Count) : a + b = b + a := by
  ext
  simp only [toNat_add]
  omega

theorem add_assoc (a b c : Count) : a + b + c = a + (b + c) := by
  ext
  have ha := a.le_limit
  have hc := c.le_limit
  simp only [toNat_add]
  omega

@[simp]
theorem zero_add (a : Count) : 0 + a = a := by
  ext
  have ha := a.le_limit
  simp only [toNat_add, toNat_zero]
  omega

@[simp]
theorem add_zero (a : Count) : a + 0 = a := by
  rw [add_comm, zero_add]

/-- A sum is never below its first part. -/
theorem toNat_le_toNat_add (a b : Count) : a.toNat ≤ (a + b).toNat := by
  have ha := a.le_limit
  simp only [toNat_add]
  omega

end Count

end Coverage
