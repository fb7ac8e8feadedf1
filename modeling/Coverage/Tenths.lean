/-
Doubles with one decimal place. A double is a whole number times a power
of two, so its exact value can be rounded in whole numbers: to the
nearest tenth, and halfway between two tenths to the even one. The
rounded value is printed without an exponent.
-/
namespace Coverage

/-- The quotient rounded to the nearest whole number, to the even one of
two that are equally near. -/
def roundHalfEven (n d : Nat) : Nat :=
  let q := n / d
  let r := n % d
  if 2 * r < d || (2 * r == d && q % 2 == 0) then q else q + 1

/-- A rounded quotient is at most half a unit off. -/
theorem roundHalfEven_near (n d : Nat) (pos : 0 < d) :
    2 * n ≤ 2 * (d * roundHalfEven n d) + d
      ∧ 2 * (d * roundHalfEven n d) ≤ 2 * n + d := by
  have split := Nat.div_add_mod n d
  have small := Nat.mod_lt n pos
  unfold roundHalfEven
  dsimp only
  split <;> rename_i h <;>
    simp only [Bool.or_eq_true, Bool.and_eq_true, decide_eq_true_eq,
      beq_iff_eq] at h
  · omega
  · rw [Nat.mul_add]
    omega

/-- The magnitude of a finite double, as a number and an exponent of
two, which is shifted by 1075. -/
def magnitude (x : Float) : Nat × Nat :=
  let bits := x.toBits.toNat
  let fraction := bits % (1 <<< 52)
  let exponent := (bits >>> 52) % (1 <<< 11)
  if exponent = 0 then (fraction, 1) else (fraction + (1 <<< 52), exponent)

/-- The magnitude of a finite double in tenths. -/
def tenths (x : Float) : Nat :=
  let (m, e) := magnitude x
  if 1075 ≤ e then (10 * m) <<< (e - 1075)
  else roundHalfEven (10 * m) (1 <<< (1075 - e))

/-- A finite double that is not negative, with one decimal place. -/
def oneDecimal (x : Float) : String :=
  let t := tenths x
  (t / 10).repr ++ "." ++ (t % 10).repr

end Coverage
