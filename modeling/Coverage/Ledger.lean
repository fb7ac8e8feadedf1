/-
Ledgers: sorted maps whose values add up. Posting a value at a key adds
it to what stands there, and a key that is new starts from zero. All
the data of a file is kept in ledgers: hits of lines and regions,
functions, outcomes of branches.

Merging posts every entry of one ledger to another. `getElem?_post` and
`getElem?_merge` say what both do to every key; two ledgers that answer
every look-up alike are equal (`Std.ExtTreeMap.ext_getElem?`), so these
two equations carry all laws of merging.
-/
import Std.Data.ExtTreeMap

namespace Coverage

/-- A sorted map whose values add up. -/
abbrev Ledger (K V : Type) [Ord K] := Std.ExtTreeMap K V

namespace Ledger

variable {K V : Type} [Ord K] [Std.TransOrd K] [Zero V] [Add V]

/-- Adds a value to what stands at the key, from zero on if it is new. -/
def post (m : Ledger K V) (k : K) (v : V) : Ledger K V :=
  m.alter k fun old => some (old.getD 0 + v)

/-- Posts every entry of the second ledger to the first. -/
def merge (m n : Ledger K V) : Ledger K V := n.foldl post m

variable [Std.LawfulEqOrd K]

theorem getElem?_post (m : Ledger K V) (k j : K) (v : V) :
    (m.post k v)[j]?
      = if compare k j = .eq then some (m[j]?.getD 0 + v) else m[j]? := by
  unfold post
  rw [Std.ExtTreeMap.getElem?_alter]
  split
  · rename_i same
    rw [Std.LawfulEqOrd.eq_of_compare same]
  · rfl

@[simp]
theorem getElem?_post_self (m : Ledger K V) (k : K) (v : V) :
    (m.post k v)[k]? = some (m[k]?.getD 0 + v) := by
  rw [getElem?_post, if_pos Std.ReflCmp.compare_self]

theorem getElem?_post_of_ne (m : Ledger K V) {k j : K} (ne : k ≠ j)
    (v : V) : (m.post k v)[j]? = m[j]? := by
  rw [getElem?_post, if_neg fun same =>
    ne (Std.LawfulEqOrd.eq_of_compare same)]

/-- Posting entries whose keys differ from `k` leaves `k` alone. -/
private theorem getElem?_foldl_post_of_ne (entries : List (K × V)) (k : K)
    (other : ∀ e ∈ entries, e.1 ≠ k) (m : Ledger K V) :
    (entries.foldl (fun m e => m.post e.1 e.2) m)[k]? = m[k]? := by
  induction entries generalizing m with
  | nil => rfl
  | cons e rest ih =>
    rw [List.foldl_cons, ih fun e' h => other e' (List.mem_cons_of_mem _ h),
      getElem?_post_of_ne _ (other e List.mem_cons_self)]

/-- Posting entries with distinct keys adds each at its own key. -/
private theorem getElem?_foldl_post_of_mem (entries : List (K × V))
    (distinct : entries.Pairwise fun a b => ¬ compare a.1 b.1 = .eq)
    {k : K} {v : V} (mem : (k, v) ∈ entries) (m : Ledger K V) :
    (entries.foldl (fun m e => m.post e.1 e.2) m)[k]?
      = some (m[k]?.getD 0 + v) := by
  induction entries generalizing m with
  | nil => cases mem
  | cons e rest ih =>
    obtain ⟨apart, distinct⟩ := List.pairwise_cons.1 distinct
    rcases List.mem_cons.1 mem with rfl | mem
    · rw [List.foldl_cons, getElem?_foldl_post_of_ne, getElem?_post_self]
      rintro e' h rfl
      exact apart e' h Std.ReflCmp.compare_self
    · rw [List.foldl_cons, ih distinct mem, getElem?_post_of_ne]
      rintro rfl
      exact apart _ mem Std.ReflCmp.compare_self

/-- At every key a merged ledger holds the sum of the two. -/
theorem getElem?_merge (m n : Ledger K V) (k : K) :
    (m.merge n)[k]?
      = match n[k]? with
        | none => m[k]?
        | some v => some (m[k]?.getD 0 + v) := by
  unfold merge
  rw [Std.ExtTreeMap.foldl_eq_foldl_toList]
  split
  · rename_i absent
    refine getElem?_foldl_post_of_ne _ k ?_ m
    rintro ⟨j, v⟩ mem rfl
    rw [Std.ExtTreeMap.mem_toList_iff_getElem?_eq_some, absent] at mem
    cases mem
  · rename_i v present
    exact getElem?_foldl_post_of_mem _
      Std.ExtTreeMap.distinct_keys_toList
      (Std.ExtTreeMap.mem_toList_iff_getElem?_eq_some.2 present) m

end Ledger

end Coverage
