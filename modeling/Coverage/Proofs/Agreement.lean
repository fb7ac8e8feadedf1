/-
What two sets have in common that were filled in another order. The
files, their lines and regions are the same, and so are the hits of their
functions. The outcomes of the branches of a line may be listed in
another order, and a function may start elsewhere, unless its start is
settled.

Two keyed sets agree in this way if they have the same tallies
(`agree_of_tallies`); tallies are what can be computed with, and this is
what they are worth.
-/
import Coverage.Proofs.StartLine
import Coverage.Proofs.Tally

namespace Coverage

/-- The two files have the same name, lines and regions, the same hits of
functions, and on each line the same outcomes in some order. -/
structure FileData.SameCounts (d e : FileData) : Prop where
  name : d.name = e.name
  lines : d.lines = e.lines
  regions : d.regions = e.regions
  hits : ∀ g : String,
    d.functions[g]?.map (·.hits) = e.functions[g]?.map (·.hits)
  outcomes : ∀ line : Nat,
    Option.Rel (fun o p => o.toList.Perm p.toList)
      d.branches[line]? e.branches[line]?

/-- The two sets hold the same files, up to the order of outcomes and up
to starts that are not settled. -/
structure FileSet.Agree (settled : String → String → Prop)
    (S T : FileSet) : Prop where
  names : S.names = T.names
  files : ∀ n d e, S.get? n = some d → T.get? n = some e →
    d.SameCounts e
  starts : ∀ n g, settled n g → S.startOf n g = T.startOf n g

namespace FileData

/-- Files of one name with the same tally have the same counts. -/
theorem sameCounts_of_tally {d e : FileData} (hname : d.name = e.name)
    (h : d.tally = e.tally) : d.SameCounts e where
  name := hname
  lines := congrArg Tally.lines h
  regions := congrArg Tally.regions h
  hits g := by
    have hg := congrArg (fun t : Tally => t.functions[g]?) h
    simpa only [tally, Std.ExtTreeMap.getElem?_map] using hg
  outcomes line := by
    have hline := congrArg (fun t : Tally => t.branches[line]?) h
    simp only [tally, Std.ExtTreeMap.getElem?_map] at hline
    cases hd : d.branches[line]? with
    | none =>
        rw [hd, Option.map_none, eq_comm, Option.map_eq_none_iff] at hline
        rw [hline]
        exact .none
    | some o =>
        rw [hd, Option.map_some, eq_comm, Option.map_eq_some_iff] at hline
        obtain ⟨p, hp, hsame⟩ := hline
        rw [hp]
        exact .some (Multiset.coe_eq_coe.1 hsame).symm

end FileData

namespace FileSet

variable {S T : FileSet}

/-- Sets with the same tallies have the same names. -/
theorem names_eq_of_tallies (h : S.tallies = T.tallies) :
    S.names = T.names := by
  have hnames := congrArg (·.map Prod.fst) (toList_of_tallies h)
  simp only [List.map_map, Function.comp_def] at hnames
  rw [names_eq_map_toList, names_eq_map_toList]
  exact hnames

/-- Keyed sets with the same tallies agree, up to starts. Where they have
the same starts, starts are settled. -/
theorem agree_of_tallies (hS : S.Keyed) (hT : T.Keyed)
    (h : S.tallies = T.tallies) {settled : String → String → Prop}
    (hstart : ∀ n g, settled n g → S.startOf n g = T.startOf n g) :
    Agree settled S T where
  names := names_eq_of_tallies h
  files n d e hd he := by
    refine FileData.sameCounts_of_tally ((hS n d hd).trans (hT n e he).symm)
      ?_
    have hn := tallies_eq_iff.1 h n
    rw [hd, he, Option.map_some, Option.map_some, Option.some_inj] at hn
    exact hn
  starts := hstart

end FileSet

end Coverage
