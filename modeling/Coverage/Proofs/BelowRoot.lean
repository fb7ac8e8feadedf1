/-
What it takes to lie below an absolute root. A path has a form relative
to the root exactly when the components of the root are a proper prefix
of its own (`SourcePath.isSome_relativeTo?_iff`): the text of the path,
with its doubled slashes and points, plays no part, and neither does
where the components lead.

# How it is proved

Dropping components goes over the pieces of the path and skips those that
do not count. So it succeeds exactly if the pieces stand for these
components and some more, and these are what the pieces that are left
stand for (`dropComponents_eq_some`, `isSome_dropComponents`).
-/
import Mathlib.Data.List.TakeWhile
import Coverage.Proofs.SourcePath

namespace Coverage.SourcePath

-- ============================================================== pieces

/-- The components that pieces stand for. -/
def ofPieces (pieces : List (List Char)) : List Component :=
  (pieces.filter counts).map .ofPiece

/-- Pieces in front that do not count stand for nothing. -/
theorem ofPieces_dropWhile (pieces : List (List Char)) :
    ofPieces (pieces.dropWhile (! counts ·)) = ofPieces pieces := by
  induction pieces with
  | nil => rfl
  | cons piece rest ih =>
      cases hc : counts piece with
      | true => rw [List.dropWhile_cons_of_neg (by simp [hc])]
      | false =>
          rw [List.dropWhile_cons_of_pos (by simp [hc]), ih, ofPieces,
            ofPieces, List.filter_cons_of_neg (Bool.eq_false_iff.1 hc)]

/-- The first piece that counts is the first component. -/
theorem ofPieces_of_dropWhile {pieces rest : List (List Char)}
    {piece : List Char}
    (h : pieces.dropWhile (! counts ·) = piece :: rest) :
    ofPieces pieces = .ofPiece piece :: ofPieces rest := by
  have hcounts : counts piece = true := by
    have hhead := List.head?_dropWhile_not (! counts ·) pieces
    rw [h] at hhead
    simpa using hhead
  rw [← ofPieces_dropWhile, h, ofPieces, List.filter_cons_of_pos hcounts]
  rfl

/-- What dropping components leaves stands for the others. -/
theorem dropComponents_eq_some {cs : List Component}
    {pieces rest : List (List Char)}
    (h : dropComponents cs pieces = some rest) :
    ofPieces pieces = cs ++ ofPieces rest := by
  induction cs generalizing pieces with
  | nil =>
      cases h
      rfl
  | cons c cs ih =>
      rw [dropComponents] at h
      split at h
      · cases h
      · next piece others hdrop =>
          split at h
          · next hc =>
              rw [ofPieces_of_dropWhile hdrop, hc, ih h]
              rfl
          · cases h

/-- Components that the pieces start with can be dropped. -/
theorem isSome_dropComponents {cs : List Component}
    {pieces : List (List Char)} (h : cs <+: ofPieces pieces) :
    (dropComponents cs pieces).isSome := by
  induction cs generalizing pieces with
  | nil => rfl
  | cons c cs ih =>
      rw [dropComponents]
      split
      · next hdrop =>
          rw [← ofPieces_dropWhile, hdrop] at h
          exact absurd (List.prefix_nil.1 h) (List.cons_ne_nil _ _)
      · next piece others hdrop =>
          rw [ofPieces_of_dropWhile hdrop, List.cons_prefix_cons] at h
          rw [if_pos h.1.symm]
          exact ih h.2

-- ========================================================== what is left

/-- Pieces are left after trimming if one of them counts. -/
theorem trimPieces_ne_nil {pieces : List (List Char)} {piece : List Char}
    (hmem : piece ∈ pieces) (hcounts : counts piece = true) :
    trimPieces pieces ≠ [] := by
  intro hnil
  rw [trimPieces, trimPiecesEnd, List.reverse_eq_nil_iff,
    List.dropWhile_eq_nil_iff] at hnil
  have hkept : piece ∈ pieces.dropWhile (! counts ·) := by
    rw [← List.takeWhile_append_dropWhile (p := (! counts ·)) (l := pieces),
      List.mem_append] at hmem
    refine hmem.resolve_left fun hskipped => ?_
    have hskip := List.mem_takeWhile_imp hskipped
    rw [hcounts] at hskip
    cases hskip
  have hdrop := hnil piece (List.mem_reverse.2 hkept)
  rw [hcounts] at hdrop
  cases hdrop

/-- No text is left exactly of pieces that stand for nothing. -/
theorem joined_trimPieces_eq_nil_iff (pieces : List (List Char)) :
    joined (trimPieces pieces) = [] ↔ ofPieces pieces = [] := by
  rw [ofPieces, List.map_eq_nil_iff, List.filter_eq_nil_iff]
  constructor
  · intro hnil piece hmem hcounts
    obtain ⟨first, rest, htrim⟩ :=
      List.exists_cons_of_ne_nil (trimPieces_ne_nil hmem hcounts)
    obtain ⟨c, cs, rfl⟩ := List.exists_cons_of_ne_nil
      (ne_nil_of_counts (counts_of_trimPieces_eq_cons htrim))
    obtain ⟨tail, htail⟩ := exists_joined_eq_cons c cs rest
    rw [htrim, htail] at hnil
    cases hnil
  · intro hnone
    have hdrop : pieces.dropWhile (! counts ·) = [] := by
      rw [List.dropWhile_eq_nil_iff]
      intro piece hmem
      simpa using hnone piece hmem
    rw [trimPieces, hdrop]
    rfl

-- ====================================================== below the root

theorem components_eq (path : List Char) :
    components path
      = (layout path).lead.toList ++ ofPieces (layout path).body := rfl

/-- Where the first component is the root, it is the lead of the path. -/
theorem lead_eq_root_of_isPrefix {path : List Char} {cs : List Component}
    (h : .root :: cs <+: components path) :
    (layout path).lead = some .root := by
  rw [components_eq] at h
  cases hlead : (layout path).lead with
  | none =>
      rw [hlead] at h
      have hmem : Component.root ∈ ofPieces (layout path).body :=
        h.subset List.mem_cons_self
      obtain ⟨piece, -, hpiece⟩ := List.mem_map.1 hmem
      exact absurd hpiece (ofPiece_ne_root piece)
  | some lead =>
      rw [hlead] at h
      rw [(List.cons_prefix_cons.1 h).1]

theorem lead_of_isAbsolute {path : List Char}
    (h : isAbsolute path = true) : (layout path).lead = some .root := by
  obtain ⟨cs, hcs⟩ := components_of_isAbsolute h
  exact lead_eq_root_of_isPrefix ⟨[], by rw [hcs, List.append_nil]⟩

/-- The components of an absolute path are the root and what its pieces
stand for. -/
theorem components_eq_root_cons {path : List Char}
    (h : isAbsolute path = true) :
    components path = .root :: ofPieces (layout path).body := by
  rw [components_eq, lead_of_isAbsolute h]
  rfl

/-- A path whose components start with those of an absolute one is
absolute. -/
theorem isAbsolute_of_isPrefix {root path : List Char}
    (hroot : isAbsolute root = true)
    (h : components root <+: components path) : isAbsolute path = true := by
  rw [components_eq_root_cons hroot] at h
  exact isAbsolute_of_lead_eq_root (lead_eq_root_of_isPrefix h)

/-- What lies behind an absolute root in an absolute path. -/
theorem behind?_of_isAbsolute {root path : List Char}
    (hroot : isAbsolute root = true) (hpath : isAbsolute path = true) :
    behind? path root
      = (dropComponents (ofPieces (layout root).body)
          (layout path).body).map (joined <| trimPieces ·) := by
  have hlead := lead_of_isAbsolute hpath
  unfold behind?
  simp only [components_eq_root_cons hroot, hlead, if_true]

/-- A path lies below an absolute root exactly if its components are
those of the root and some more. -/
theorem isSome_relativeTo?_iff {root path : List Char}
    (hroot : isAbsolute root = true) :
    (relativeTo? root path).isSome
      ↔ components root <+: components path
        ∧ components root ≠ components path := by
  cases hpath : isAbsolute path with
  -- a path that is not absolute cannot begin as the root does
  | false =>
      rw [relativeTo?_of_not_isAbsolute hroot hpath]
      refine iff_of_false (by decide) fun h => ?_
      rw [isAbsolute_of_isPrefix hroot h.1] at hpath
      cases hpath
  | true =>
      rw [components_eq_root_cons hroot, components_eq_root_cons hpath,
        List.cons_prefix_cons, and_iff_right rfl, relativeTo?,
        behind?_of_isAbsolute hroot hpath]
      constructor
      · intro hsome
        obtain ⟨rest, hrest⟩ := Option.isSome_iff_exists.1 hsome
        rw [Option.filter_eq_some_iff] at hrest
        obtain ⟨pieces, hdrop, rfl⟩ := Option.map_eq_some_iff.1 hrest.1
        have hpieces := dropComponents_eq_some hdrop
        refine ⟨⟨_, hpieces.symm⟩, fun heq => ?_⟩
        rw [hpieces, List.cons.injEq, List.self_eq_append_right] at heq
        -- nothing is left only if the path is the root itself
        have hnil := (joined_trimPieces_eq_nil_iff pieces).2 heq.2
        exact absurd hnil (by simpa using hrest.2)
      · rintro ⟨hstart, hne⟩
        obtain ⟨pieces, hdrop⟩ :=
          Option.isSome_iff_exists.1 (isSome_dropComponents hstart)
        have hpieces := dropComponents_eq_some hdrop
        have htext : joined (trimPieces pieces) ≠ [] := by
          rw [Ne, joined_trimPieces_eq_nil_iff]
          intro hnil
          rw [hpieces, hnil, List.append_nil] at hne
          exact hne rfl
        rw [hdrop, Option.map_some, Option.filter_some,
          if_pos (by simpa using htext)]
        rfl

end Coverage.SourcePath
