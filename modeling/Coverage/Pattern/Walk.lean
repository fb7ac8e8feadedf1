/-
Walks through a text. The places of a text lie before, between and behind
its characters. A walk tells from a set of places where one may be after
it. It never leads back, and it leads from a set to all places to which
it leads from the members of the set.

To walk any number of times is settled in advance, place by place from
the last to the first: whoever has walked once is at the same place still,
or at a later one, for which all is known. So walks within walks take no
more effort than walks one behind the other.
-/
namespace Coverage.Pattern

/-- A set of places; bit `k` is set if place `k` is in it. -/
abbrev Places := Nat

namespace Places

/-- The set of one place. -/
def single (k : Nat) : Places := 1 <<< k

/-- The first so many places. -/
def first (count : Nat) : Places := 1 <<< count - 1

/-- The places that are marked, the first in front. -/
def ofMarks (marks : List Bool) : Places :=
  marks.foldr (fun mark places => 2 * places + mark.toNat) 0

/-- The least place of a set that is not empty. -/
def least (places : Places) : Nat := (places ^^^ (places - 1)).log2

/-- The set without its least place. -/
def withoutLeast (places : Places) : Places := places &&& (places - 1)

/-- The places in the first set that are not in the second. -/
def difference (a b : Places) : Places := a - (a &&& b)

/-- There are fewer places in this sense when the least one is taken
away, and also when others are. -/
theorem difference_withoutLeast_lt {places : Places} (h : ¬ places = 0)
    (b : Places) : difference (withoutLeast places) b < places :=
  Nat.lt_of_le_of_lt (Nat.le_trans (Nat.sub_le ..) Nat.and_le_right)
    (Nat.sub_one_lt h)

end Places

/-- A walk through a text. -/
structure Walk where
  /-- Where the walk may end, from where it may start. -/
  ends : Places → Places

namespace Walk

/-- The walk that stays. -/
def stay : Walk := ⟨id⟩

/-- The walk across `n` characters from places in the set. -/
def across (n : Nat) (starts : Places) : Walk :=
  ⟨fun places => (places &&& starts) <<< n⟩

/-- One walk and then the other. -/
def andThen (a b : Walk) : Walk := ⟨fun places => b.ends (a.ends places)⟩

/-- Either walk. -/
def orElse (a b : Walk) : Walk :=
  ⟨fun places => a.ends places ||| b.ends places⟩

-- =========================================================== repetition

/-- Applies a step so many times, or until it changes nothing. -/
def iterate (step : Places → Places) : Nat → Places → Places
  | 0, places => places
  | times + 1, places =>
    let next := step places
    if next = places then places else iterate step times next

/-- The walk so many times, at most one more for each time up to
`max`. -/
def repeatUpTo (a : Walk) (min max : Nat) : Walk :=
  ⟨fun places =>
    let start := iterate a.ends min places
    iterate (fun reached => start ||| a.ends reached) (max - min) start⟩

/-- What the table tells of any of the places, and what was found before.
Nothing else is told of a place that was found than was found with it, so
that place is passed over. -/
def gather (table : Array Places) (places found : Places) : Places :=
  if _h : places = 0 then found
  else
    let found := found ||| table.getD places.least 0
    gather table (places.withoutLeast.difference found) found
termination_by places
decreasing_by exact Places.difference_withoutLeast_lt _h _

/-- Where walking any number of times, but once at least, leads from each
of so many places. -/
def closureTable (a : Walk) (count : Nat) : Array Places :=
  (List.range count).foldr
    (fun k table =>
      let here := Places.single k
      let next := a.ends here
      table.setIfInBounds k (next ||| gather table (next.difference here) 0))
    (Array.replicate count 0)

/-- The walk at least so many times, in a text of so many places. -/
def repeatFrom (a : Walk) (count min : Nat) : Walk :=
  let table := a.closureTable count
  match min with
  | 0 => ⟨fun places => places ||| gather table places 0⟩
  | min + 1 => ⟨fun places => gather table (iterate a.ends min places) 0⟩

end Walk

end Coverage.Pattern
