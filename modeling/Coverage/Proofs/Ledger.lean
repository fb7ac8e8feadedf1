/-
The algebra of ledgers. Counts, function data and branch outcomes all
add with a zero, and that alone makes ledgers over them add: merging is
associative, the empty ledger changes nothing, and posting is merging a
ledger of one entry. Where the values commute, so do the ledgers.

# How it is proved

Everything is read key by key. `getElem?_merge_eq` says that a merged
ledger holds the optional sum of what the two hold, so each law of
merging is the same law of optional sums, and
`Std.ExtTreeMap.ext_getElem?` carries it back to ledgers.
-/
import Mathlib.Algebra.Group.Basic
import Coverage.FileData

namespace Coverage

-- ============================================================== values

instance : AddCommMonoid Count where
  add_assoc := Count.add_assoc
  zero_add := Count.zero_add
  add_zero := Count.add_zero
  add_comm := Count.add_comm
  nsmul := nsmulRec

namespace FunctionData

theorem zero_add (a : FunctionData) : 0 + a = a := by
  ext
  · simp
  · rw [hits_add, hits_zero, Count.zero_add]

theorem add_zero (a : FunctionData) : a + 0 = a := by
  ext
  · rw [start_add, start_zero]
    split
    · next hs => exact hs.symm
    · rfl
  · rw [hits_add, hits_zero, Count.add_zero]

end FunctionData

instance : AddMonoid FunctionData where
  add_assoc := FunctionData.add_assoc
  zero_add := FunctionData.zero_add
  add_zero := FunctionData.add_zero
  nsmul := nsmulRec

instance : AddMonoid Outcomes where
  add_assoc := Outcomes.add_assoc
  zero_add _ := rfl
  add_zero a := by
    ext1
    rw [Outcomes.toList_add, Outcomes.toList_zero, List.append_nil]
  nsmul := nsmulRec

-- ======================================================= optional sums

/-- What is put together in front of a list may be put together with the
rest of it. -/
theorem foldl_merge {α : Type} {op : α → α → α} [Std.Associative op]
    (os : List (Option α)) (o : Option α) :
    os.foldl (Option.merge op) o
      = Option.merge op o (os.foldl (Option.merge op) none) := by
  have hassoc : ∀ a b : Option α,
      os.foldl (Option.merge op) (Option.merge op a b)
        = Option.merge op a (os.foldl (Option.merge op) b) :=
    fun _ _ => List.foldl_assoc
  rw [← hassoc, Option.merge_none_right]

-- ============================================================ listings

namespace Ledger

variable {K V : Type} [Ord K] [Std.TransOrd K]

/-- The values are what stands behind the keys in the listing. -/
theorem values_eq_map_toList (m : Std.ExtTreeMap K V) :
    m.values = m.toList.map Prod.snd := by
  have hfold : m.values = m.foldr (fun _ v vs => v :: vs) [] := rfl
  rw [hfold, Std.ExtTreeMap.foldr_eq_foldr_toList]
  induction m.toList with
  | nil => rfl
  | cons p ps ih => rw [List.foldr_cons, ih, List.map_cons]

/-- Entries are listed in the order of their keys. -/
theorem pairwise_toList {lt : K → K → Prop}
    (hlt : ∀ j k : K, compare j k = .lt → lt j k) (m : Ledger K V) :
    m.toList.Pairwise fun a b => lt a.1 b.1 := by
  have hsorted : m.toList.Pairwise fun a b => compare a.1 b.1 = .lt :=
    Std.ExtTreeMap.ordered_keys_toList
  exact hsorted.imp (hlt _ _)

/-- Numbers are listed in order. -/
theorem pairwise_lt_toList (m : Ledger Nat V) :
    m.toList.Pairwise fun a b => a.1 < b.1 :=
  pairwise_toList (fun _ _ => Nat.compare_eq_lt.1) m

/-- Names are listed in order. -/
theorem pairwise_lt_names (m : Ledger String V) :
    m.toList.Pairwise fun a b => a.1 < b.1 :=
  pairwise_toList (fun _ _ => compareOfLessAndEq_eq_lt.1) m

variable [Std.LawfulEqOrd K]

/-- No key is listed twice. -/
theorem pairwise_ne_toList (m : Ledger K V) :
    m.toList.Pairwise fun a b => a.1 ≠ b.1 := by
  have hdistinct : m.toList.Pairwise fun a b => ¬ compare a.1 b.1 = .eq :=
    Std.ExtTreeMap.distinct_keys_toList
  exact hdistinct.imp fun hne heq =>
    hne (Std.LawfulEqOrd.compare_eq_iff_eq.2 heq)

-- ============================================================= merging

section AddMonoid

variable [AddMonoid V]

/-- A merged ledger holds at each key the optional sum of what the two
hold there. -/
theorem getElem?_merge_eq (m n : Ledger K V) (k : K) :
    (m.merge n)[k]? = Option.merge (· + ·) m[k]? n[k]? := by
  rw [getElem?_merge]
  cases n[k]? with
  | none => rw [Option.merge_none_right]
  | some v =>
      cases m[k]? with
      | none => simp
      | some u => rfl

/-- A key of either ledger is a key of both merged. -/
theorem mem_merge {m n : Ledger K V} {k : K} (h : k ∈ m ∨ k ∈ n) :
    k ∈ m.merge n := by
  rw [Std.ExtTreeMap.mem_iff_isSome_getElem?,
    Std.ExtTreeMap.mem_iff_isSome_getElem?, ← Bool.or_eq_true] at h
  rw [Std.ExtTreeMap.mem_iff_isSome_getElem?, getElem?_merge_eq,
    Option.isSome_merge]
  exact h

theorem merge_assoc (m n o : Ledger K V) :
    (m.merge n).merge o = m.merge (n.merge o) := by
  refine Std.ExtTreeMap.ext_getElem? fun {k} => ?_
  simp only [getElem?_merge_eq]
  exact Std.Associative.assoc _ _ _

@[simp]
theorem merge_empty (m : Ledger K V) : m.merge ∅ = m := by
  refine Std.ExtTreeMap.ext_getElem? fun {k} => ?_
  rw [getElem?_merge_eq, Std.ExtTreeMap.getElem?_empty,
    Option.merge_none_right]

@[simp]
theorem empty_merge (m : Ledger K V) : merge ∅ m = m := by
  refine Std.ExtTreeMap.ext_getElem? fun {k} => ?_
  rw [getElem?_merge_eq, Std.ExtTreeMap.getElem?_empty,
    Option.merge_none_left]

/-- Posting is merging a ledger of one entry. -/
theorem post_eq_merge (m : Ledger K V) (k : K) (v : V) :
    m.post k v = m.merge (post ∅ k v) := by
  refine Std.ExtTreeMap.ext_getElem? fun {j} => ?_
  rw [getElem?_merge_eq, getElem?_post, getElem?_post,
    Std.ExtTreeMap.getElem?_empty]
  split
  · rw [Option.getD_none, zero_add]
    cases m[j]? with
    | none => rw [Option.getD_none, zero_add, Option.merge_none_left]
    | some u => rfl
  · rw [Option.merge_none_right]

/-- A value that is posted is added at its key and nowhere else. -/
theorem getElem?_post_eq_merge [DecidableEq K] (m : Ledger K V) (k j : K)
    (v : V) :
    (m.post k v)[j]?
      = Option.merge (· + ·) m[j]? (if k = j then some v else none) := by
  rw [post_eq_merge, getElem?_merge_eq, getElem?_post,
    Std.ExtTreeMap.getElem?_empty, Option.getD_none, zero_add]
  simp only [Std.LawfulEqOrd.compare_eq_iff_eq]

/-- Two values posted at one key are their sum posted there. -/
theorem post_post (m : Ledger K V) (k : K) (u v : V) :
    (m.post k u).post k v = m.post k (u + v) := by
  refine Std.ExtTreeMap.ext_getElem? fun {j} => ?_
  simp only [getElem?_post]
  split
  · rw [Option.getD_some, add_assoc]
  · rfl

end AddMonoid

section AddCommMonoid

variable [AddCommMonoid V]

theorem merge_comm (m n : Ledger K V) : m.merge n = n.merge m := by
  refine Std.ExtTreeMap.ext_getElem? fun {k} => ?_
  rw [getElem?_merge_eq, getElem?_merge_eq]
  exact Std.Commutative.comm _ _

end AddCommMonoid

end Ledger

end Coverage
