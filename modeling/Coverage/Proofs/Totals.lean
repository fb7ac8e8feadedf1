/-
Totals over maps. Each entry of a map contributes something or nothing,
and what is contributed is put together by an operation that knows no
order, so the total does not depend on the order of the keys either.

Changing one entry changes the total by what that entry contributes more
than before (`totalOf_alter`). A ledger is changed in no other way, so
the total of merged ledgers is put together from their totals
(`Ledger.totalOf_merge`). Both the lines that regions give and the files
that go by one name are totals of this kind.
-/
import Mathlib.Data.List.Perm.Basic
import Coverage.Proofs.Ledger

namespace Coverage

variable {K V W : Type} [Ord K] [Std.TransOrd K]
  {op : W → W → W} {g : K → V → Option W}

/-- What the entries of the map contribute, put together; nothing if none
of them contributes. -/
def totalOf (op : W → W → W) (g : K → V → Option W)
    (t : Std.ExtTreeMap K V) : Option W :=
  (t.toList.map fun p => g p.1 p.2).foldl (Option.merge op) none

variable [Std.LawfulEqOrd K]

-- ============================================================ one entry

/-- The entry of a key may be listed before all others. -/
theorem toList_perm_erase (t : Std.ExtTreeMap K V) (k : K) :
    t.toList.Perm ((t[k]?.map (k, ·)).toList ++ (t.erase k).toList) := by
  have hnodup : ∀ u : Std.ExtTreeMap K V, u.toList.Nodup := by
    intro u
    refine (Ledger.pairwise_ne_toList u).imp ?_
    rintro a b hne rfl
    exact hne rfl
  have hout : ∀ v, (k, v) ∉ (t.erase k).toList := by
    intro v hv
    rw [Std.ExtTreeMap.mem_toList_iff_getElem?_eq_some,
      Std.ExtTreeMap.getElem?_erase_self] at hv
    cases hv
  have hfront :
      ((t[k]?.map (k, ·)).toList ++ (t.erase k).toList).Nodup := by
    cases t[k]? with
    | none => exact hnodup _
    | some v => exact List.nodup_cons.2 ⟨hout v, hnodup _⟩
  rw [List.perm_ext_iff_of_nodup (hnodup t) hfront]
  rintro ⟨j, v⟩
  simp only [List.mem_append, Option.mem_toList,
    Option.map_eq_some_iff, Prod.mk.injEq, existsAndEq,
    Std.ExtTreeMap.mem_toList_iff_getElem?_eq_some,
    Std.ExtTreeMap.getElem?_erase, Std.LawfulEqOrd.compare_eq_iff_eq]
  by_cases hj : k = j
  · subst hj
    simp
  · simp [hj]

section Commutative

variable [Std.Associative op] [Std.Commutative op]

/-- A total is put together from one entry and all others. -/
theorem totalOf_eq_merge_erase (t : Std.ExtTreeMap K V) (k : K) :
    totalOf op g t
      = Option.merge op (t[k]?.bind (g k)) (totalOf op g (t.erase k)) := by
  have hperm : totalOf op g t
      = (((t[k]?.map (k, ·)).toList ++ (t.erase k).toList).map
          fun p => g p.1 p.2).foldl (Option.merge op) none :=
    ((toList_perm_erase t k).map _).foldl_op_eq
  rw [hperm, List.map_append, List.foldl_append, foldl_merge]
  congr 1
  cases t[k]? with
  | none => rfl
  | some v => exact Option.merge_none_left

/-- If an entry contributes `x` more than before, so does the map. -/
theorem totalOf_alter (t : Std.ExtTreeMap K V) (k : K)
    {f : Option V → Option V} {x : Option W}
    (hx : (f t[k]?).bind (g k) = Option.merge op (t[k]?.bind (g k)) x) :
    totalOf op g (t.alter k f) = Option.merge op (totalOf op g t) x := by
  have hothers : (t.alter k f).erase k = t.erase k := by
    refine Std.ExtTreeMap.ext_getElem? fun {j} => ?_
    simp only [Std.ExtTreeMap.getElem?_erase,
      Std.ExtTreeMap.getElem?_alter]
    split
    · rfl
    · rfl
  have hback : ∀ a b c : Option W,
      Option.merge op (Option.merge op a b) c
        = Option.merge op (Option.merge op a c) b := by
    intro a b c
    ac_rfl
  rw [totalOf_eq_merge_erase (t.alter k f) k, totalOf_eq_merge_erase t k,
    hothers, Std.ExtTreeMap.getElem?_alter_self, hx, hback]

-- ============================================================== ledgers

namespace Ledger

variable [AddMonoid V]

/-- Posting a value adds its contribution. -/
theorem totalOf_post
    (hg : ∀ k u v, g k (u + v) = Option.merge op (g k u) (g k v))
    (m : Ledger K V) (k : K) (v : V) :
    totalOf op g (m.post k v) = Option.merge op (totalOf op g m) (g k v) := by
  refine totalOf_alter m k ?_
  cases m[k]? with
  | none =>
      rw [Option.getD_none, zero_add, Option.bind_some, Option.bind_none,
        Option.merge_none_left]
  | some u =>
      rw [Option.getD_some, Option.bind_some, Option.bind_some, hg]

/-- The total of merged ledgers is put together from the two totals. -/
theorem totalOf_merge
    (hg : ∀ k u v, g k (u + v) = Option.merge op (g k u) (g k v))
    (m n : Ledger K V) :
    totalOf op g (m.merge n)
      = Option.merge op (totalOf op g m) (totalOf op g n) := by
  have hposts : ∀ (entries : List (K × V)) (m : Ledger K V),
      totalOf op g (entries.foldl (fun m p => post m p.1 p.2) m)
        = (entries.map fun p => g p.1 p.2).foldl (Option.merge op)
            (totalOf op g m) := by
    intro entries
    induction entries with
    | nil => exact fun m => rfl
    | cons p rest ih =>
        intro m
        rw [List.foldl_cons, ih, totalOf_post hg]
        rfl
  rw [merge, Std.ExtTreeMap.foldl_eq_foldl_toList, hposts, foldl_merge]
  rfl

end Ledger

end Commutative

end Coverage
