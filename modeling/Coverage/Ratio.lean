/-
What was exercised out of what could have been. A ratio is a pair of
plain numbers, so totals over many files cannot overflow. With a total
of zero there is nothing to measure, and a ratio then has no percentage
and no rating.

The rating compares `100 * hits` with multiples of the total in whole
numbers, so that 45 of 50 is exactly 90 percent. The percentage is a
double, computed in the order multiply, then divide.
-/
namespace Coverage

/-- Coarse grade of a ratio. -/
inductive Rating
  | low
  | medium
  | high
deriving DecidableEq, Repr

/-- The printed grade. -/
def Rating.name : Rating → String
  | .low => "low"
  | .medium => "medium"
  | .high => "high"

/-- Grades are ordered from low to high. -/
def Rating.rank : Rating → Nat
  | .low => 0
  | .medium => 1
  | .high => 2

instance : LE Rating := ⟨fun a b => a.rank ≤ b.rank⟩

instance (a b : Rating) : Decidable (a ≤ b) :=
  inferInstanceAs (Decidable (a.rank ≤ b.rank))

/-- Hits out of a total. -/
@[ext]
structure Ratio where
  /-- Units that ran. -/
  hits : Nat
  /-- Units that could have run. -/
  total : Nat
deriving DecidableEq, Repr

namespace Ratio

-- ======================================================= aggregation

instance : Zero Ratio := ⟨⟨0, 0⟩⟩

instance : Inhabited Ratio := ⟨0⟩

instance : Add Ratio := ⟨fun a b => ⟨a.hits + b.hits, a.total + b.total⟩⟩

/-- The ratio of a scope that is made of the scopes in the list. -/
def sum (parts : List Ratio) : Ratio := parts.foldl (· + ·) 0

/-- How many of the items pass the test, out of all of them. -/
def countIn {α : Type} (hit : α → Bool) (items : List α) : Ratio :=
  ⟨items.countP hit, items.length⟩

@[simp]
theorem hits_zero : (0 : Ratio).hits = 0 := rfl

@[simp]
theorem total_zero : (0 : Ratio).total = 0 := rfl

@[simp]
theorem hits_add (a b : Ratio) : (a + b).hits = a.hits + b.hits := rfl

@[simp]
theorem total_add (a b : Ratio) : (a + b).total = a.total + b.total := rfl

-- ========================================================= measuring

/-- There is something to measure. -/
def isValid (r : Ratio) : Bool := r.total != 0

/-- The grade: from nine tenths on high, from three quarters on medium,
else low. Without anything to measure there is none. -/
def rating (r : Ratio) : Option Rating :=
  if r.total = 0 then none
  else if 90 * r.total ≤ 100 * r.hits then some .high
  else if 75 * r.total ≤ 100 * r.hits then some .medium
  else some .low

/-- A count below `2 ^ 64` as the nearest double. -/
private def nearestDouble (n : Nat) : Float := n.toUInt64.toFloat

/-- The share that ran, in percent. -/
def percent (r : Ratio) : Option Float :=
  if r.isValid then
    some (nearestDouble r.hits * 100.0 / nearestDouble r.total)
  else none

/-- The share that did not run, in percent. -/
def missedPercent (r : Ratio) : Option Float :=
  r.percent.map (100.0 - ·)

end Ratio

end Coverage
