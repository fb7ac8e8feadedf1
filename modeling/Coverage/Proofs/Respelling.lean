/-
Spellings of an absolute path. A slash may be doubled, a point may stand
between two slashes, and a slash may stand at the end: none of this is a
component. And nothing else is free: two absolute paths have the same
components exactly if such changes, made and undone, lead from one to the
other (`SourcePath.components_eq_iff_eqvGen`).

# How it is proved

The components of an absolute path are what all its pieces stand for, and
a change adds a piece that does not count. Conversely each path is led to
its plainest spelling, from left to right (`eqvGen_slashed_filter`): the
pieces that do not count are taken out, and those that do are passed. What
has been passed is text that stands before the pieces still to come.
-/
import Mathlib.Data.List.Basic
import Mathlib.Logic.Relation
import Coverage.Proofs.BelowRoot

namespace Coverage.SourcePath

-- ============================================================== pieces

theorem exists_eq_slash_cons {path : List Char}
    (h : isAbsolute path = true) : ∃ rest, path = '/' :: rest := by
  cases path with
  | nil => cases h
  | cons c rest =>
      have hc : c = '/' := by simpa [isAbsolute] using h
      exact ⟨rest, by rw [hc]⟩

/-- Before the first slash there is an empty piece. -/
theorem splitOn_slash_cons (rest : List Char) :
    ('/' :: rest).splitOn '/' = [] :: rest.splitOn '/' := by
  rw [List.splitOn_cons_eq_if_modifyHead, if_pos BEq.rfl]

/-- The body of an absolute path is all that follows the first slash. -/
theorem body_slash_cons (rest : List Char) :
    (layout ('/' :: rest)).body = rest.splitOn '/' := by
  obtain ⟨first, others, hsplit⟩ := List.exists_cons_of_ne_nil
    (List.splitOn_ne_nil '/' rest)
  unfold layout
  rw [splitOn_slash_cons, hsplit]

/-- The components of an absolute path are the root and what all its
pieces stand for. -/
theorem components_of_splitOn {path : List Char}
    (h : isAbsolute path = true) :
    components path = .root :: ofPieces (path.splitOn '/') := by
  rw [components_eq_root_cons h]
  obtain ⟨rest, rfl⟩ := exists_eq_slash_cons h
  rw [body_slash_cons, splitOn_slash_cons]
  rfl

theorem ofPieces_append (ps qs : List (List Char)) :
    ofPieces (ps ++ qs) = ofPieces ps ++ ofPieces qs := by
  rw [ofPieces, List.filter_append, List.map_append, ofPieces, ofPieces]

/-- A slash does not join components. -/
theorem ofPieces_splitOn_append (before after : List Char) :
    ofPieces ((before ++ '/' :: after).splitOn '/')
      = ofPieces (before.splitOn '/') ++ ofPieces (after.splitOn '/') := by
  rw [List.splitOn_append_cons_self, ofPieces_append]

/-- Pieces that count stand for different components if they differ. -/
theorem ofPiece_injective : Function.Injective Component.ofPiece := by
  intro p q h
  unfold Component.ofPiece at h
  split at h
  · next hp =>
      split at h
      · next hq => rw [hp, hq]
      · cases h
  · split at h
    · cases h
    · exact Component.named.inj h

-- =========================================================== respelling

/-- A path is spelt with one more piece that does not count. -/
inductive Respelt : List Char → List Char → Prop
  /-- A slash is doubled. -/
  | slash (before after : List Char) :
    Respelt (before ++ '/' :: after) (before ++ '/' :: '/' :: after)
  /-- A point stands between two slashes. -/
  | point (before after : List Char) :
    Respelt (before ++ '/' :: after) (before ++ '/' :: '.' :: '/' :: after)
  /-- A slash stands at the end. -/
  | ended {path : List Char} (h : path ≠ []) : Respelt path (path ++ ['/'])

theorem isAbsolute_append {before : List Char} (h : before ≠ [])
    (after : List Char) :
    isAbsolute (before ++ after) = isAbsolute before := by
  obtain ⟨c, cs, rfl⟩ := List.exists_cons_of_ne_nil h
  rfl

/-- A slash decides on what stands before it, and on nothing behind. -/
theorem isAbsolute_append_slash (before after after' : List Char) :
    isAbsolute (before ++ '/' :: after)
      = isAbsolute (before ++ '/' :: after') := by
  cases before with
  | nil => rfl
  | cons c cs => rfl

theorem Respelt.isAbsolute_eq {path path' : List Char}
    (h : Respelt path path') : isAbsolute path = isAbsolute path' := by
  cases h with
  | slash before after => exact isAbsolute_append_slash _ _ _
  | point before after => exact isAbsolute_append_slash _ _ _
  | ended h => exact (isAbsolute_append h _).symm

/-- The piece that is added stands for nothing. -/
theorem Respelt.ofPieces_eq {path path' : List Char}
    (h : Respelt path path') :
    ofPieces (path.splitOn '/') = ofPieces (path'.splitOn '/') := by
  cases h with
  | slash before after =>
      rw [ofPieces_splitOn_append, ofPieces_splitOn_append,
        ← List.nil_append ('/' :: after), ofPieces_splitOn_append]
      rfl
  | point before after =>
      rw [ofPieces_splitOn_append, ofPieces_splitOn_append,
        ← List.singleton_append, ofPieces_splitOn_append]
      rfl
  | ended h =>
      rw [ofPieces_splitOn_append]
      exact (List.append_nil _).symm

/-- However a path is spelt, it is absolute or not, and its pieces stand
for the same. -/
theorem eq_of_eqvGen_respelt {path path' : List Char}
    (h : Relation.EqvGen Respelt path path') :
    isAbsolute path = isAbsolute path'
      ∧ ofPieces (path.splitOn '/') = ofPieces (path'.splitOn '/') := by
  induction h with
  | rel _ _ hchange => exact ⟨hchange.isAbsolute_eq, hchange.ofPieces_eq⟩
  | refl _ => exact ⟨rfl, rfl⟩
  | symm _ _ _ ih => exact ⟨ih.1.symm, ih.2.symm⟩
  | trans _ _ _ _ _ ih ih' =>
      exact ⟨ih.1.trans ih'.1, ih.2.trans ih'.2⟩

-- ==================================================== plainest spelling

/-- The pieces as text, each with a slash behind it. -/
def slashed (pieces : List (List Char)) : List Char :=
  pieces.flatMap (· ++ ['/'])

theorem slashed_cons (piece : List Char) (rest : List (List Char)) :
    slashed (piece :: rest) = piece ++ '/' :: slashed rest := by
  rw [slashed, List.flatMap_cons, List.append_assoc, List.singleton_append,
    ← slashed]

/-- Behind the last piece stands one more slash than between them. -/
theorem slashed_eq {pieces : List (List Char)} (hne : pieces ≠ []) :
    slashed pieces = joined pieces ++ ['/'] := by
  induction pieces with
  | nil => exact absurd rfl hne
  | cons p rest ih =>
      cases rest with
      | nil =>
          rw [slashed_cons, joined, List.intercalate_singleton]
          rfl
      | cons q rest =>
          rw [slashed_cons, ih (List.cons_ne_nil q rest), joined, joined,
            List.intercalate_cons_cons, List.append_assoc,
            List.append_assoc]
          rfl

/-- A path with a slash at its end is made of its pieces. -/
theorem slashed_splitOn (path : List Char) :
    slashed (path.splitOn '/') = path ++ ['/'] := by
  rw [slashed_eq (List.splitOn_ne_nil '/' path), joined,
    List.intercalate_splitOn]

/-- A piece that does not count is empty or a point, and either may be
added. -/
theorem respelt_of_not_counts {piece : List Char}
    (h : counts piece = false) (before after : List Char) :
    Respelt (before ++ '/' :: after)
      (before ++ '/' :: (piece ++ '/' :: after)) := by
  rw [counts, Bool.and_eq_false_iff, bne_eq_false_iff_eq,
    bne_eq_false_iff_eq] at h
  rcases h with rfl | rfl
  · exact .slash before after
  · exact .point before after

/-- Pieces that do not count may be taken out, whatever stands before. -/
theorem eqvGen_slashed_filter (before : List Char)
    (pieces : List (List Char)) :
    Relation.EqvGen Respelt (before ++ '/' :: slashed pieces)
      (before ++ '/' :: slashed (pieces.filter counts)) := by
  induction pieces generalizing before with
  | nil => exact .refl _
  | cons piece rest ih =>
      rw [slashed_cons]
      cases hcounts : counts piece with
      | true =>
          -- the piece is passed: it belongs to the text before the others
          have hrest := ih (before ++ '/' :: piece)
          rw [List.append_assoc, List.append_assoc] at hrest
          rw [List.filter_cons_of_pos hcounts, slashed_cons]
          exact hrest
      | false =>
          rw [List.filter_cons_of_neg (Bool.eq_false_iff.1 hcounts)]
          exact .trans _ _ _
            (.symm _ _ (.rel _ _ (respelt_of_not_counts hcounts _ _)))
            (ih before)

/-- The plainest spelling of an absolute path has the pieces that count,
and a slash behind each. -/
theorem eqvGen_plainest {path : List Char} (h : isAbsolute path = true) :
    Relation.EqvGen Respelt path
      ('/' :: slashed ((path.splitOn '/').filter counts)) := by
  obtain ⟨rest, rfl⟩ := exists_eq_slash_cons h
  have hended : Relation.EqvGen Respelt ('/' :: rest)
      ('/' :: slashed (rest.splitOn '/')) := by
    rw [slashed_splitOn]
    exact .rel _ _ (.ended (List.cons_ne_nil '/' rest))
  have hfiltered := eqvGen_slashed_filter [] (rest.splitOn '/')
  rw [List.nil_append, List.nil_append] at hfiltered
  rw [splitOn_slash_cons]
  exact .trans _ _ _ hended hfiltered

/-- Two absolute paths have the same components if one is another
spelling of the other, and only then. -/
theorem components_eq_iff_eqvGen {path path' : List Char}
    (h : isAbsolute path = true) :
    components path = components path'
      ↔ Relation.EqvGen Respelt path path' := by
  constructor
  · intro heq
    have h' : isAbsolute path' = true :=
      isAbsolute_of_isPrefix h (heq ▸ List.prefix_rfl)
    rw [components_of_splitOn h, components_of_splitOn h',
      List.cons.injEq, and_iff_right rfl] at heq
    have hkept := ofPiece_injective.list_map heq
    have hplain := eqvGen_plainest h'
    rw [← hkept] at hplain
    exact .trans _ _ _ (eqvGen_plainest h) (.symm _ _ hplain)
  · intro hrespelt
    obtain ⟨habs, hpieces⟩ := eq_of_eqvGen_respelt hrespelt
    rw [components_of_splitOn h, components_of_splitOn (habs ▸ h), hpieces]

end Coverage.SourcePath
