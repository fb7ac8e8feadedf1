/-
Paths relative to an absolute root, exactly. There is such a path just
when the components of the root are a proper prefix of those of the path.
What it is then says `SourcePath.IsRest`: the components behind those of
the root, in the very text of the path. It is not empty and not absolute,
it has no form relative to the root itself, and behind the root it is
found again.

Nothing but the components of the root is looked at. So the root may be
spelt otherwise, and a neighbour whose name begins like that of the root
does not lie under it (`SourcePath.relativeTo?_exact`).

# How it is proved

What remains is trimmed: it starts and ends with pieces that count
(`IsTrim`). Cutting it gives these pieces back, and they are not the
beginning of an absolute path. Behind the pieces of the root the same
pieces are left again (`map_trimPieces_dropComponents`).
-/
import Mathlib.Data.List.DropRight
import Coverage.Proofs.Respelling

namespace Coverage.SourcePath

-- ============================================================= trimming

theorem ofPieces_reverse (pieces : List (List Char)) :
    ofPieces pieces.reverse = (ofPieces pieces).reverse := by
  rw [ofPieces, List.filter_reverse, List.map_reverse, ofPieces]

/-- Trimming does not change what pieces stand for. -/
theorem ofPieces_trimPieces (pieces : List (List Char)) :
    ofPieces (trimPieces pieces) = ofPieces pieces := by
  rw [trimPieces, trimPiecesEnd, ofPieces_reverse, ofPieces_dropWhile,
    ofPieces_reverse, List.reverse_reverse, ofPieces_dropWhile]

/-- Trimmed pieces stay as they are. -/
theorem trimPieces_trimPieces (pieces : List (List Char)) :
    trimPieces (trimPieces pieces) = trimPieces pieces := by
  have hstart : (trimPieces pieces).dropWhile (! counts ·)
      = trimPieces pieces := by
    cases htrim : trimPieces pieces with
    | nil => rfl
    | cons first rest =>
        refine List.dropWhile_cons_of_neg ?_
        rw [counts_of_trimPieces_eq_cons htrim]
        exact Bool.false_ne_true
  rw [trimPieces, hstart, trimPieces, trimPiecesEnd, trimPiecesEnd,
    List.reverse_reverse, List.dropWhile_idempotent]

/-- Pieces in front that stand for nothing are trimmed. -/
theorem trimPieces_append {front : List (List Char)}
    (h : ofPieces front = []) (pieces : List (List Char)) :
    trimPieces (front ++ pieces) = trimPieces pieces := by
  rw [ofPieces, List.map_eq_nil_iff, List.filter_eq_nil_iff] at h
  rw [trimPieces, trimPieces, List.dropWhile_append_of_pos]
  intro piece hmem
  simpa using h piece hmem

/-- What trimming takes away at either end stands for nothing. -/
theorem exists_eq_append_trimPieces (pieces : List (List Char)) :
    ∃ front back, pieces = front ++ trimPieces pieces ++ back
      ∧ ofPieces front = [] ∧ ofPieces back = [] := by
  have hskipped : ∀ ps : List (List Char),
      ofPieces (ps.takeWhile (! counts ·)) = [] := by
    intro ps
    rw [ofPieces, List.map_eq_nil_iff, List.filter_eq_nil_iff]
    intro piece hmem
    simpa using List.mem_takeWhile_imp hmem
  let front := pieces.takeWhile (! counts ·)
  let rest := (pieces.dropWhile (! counts ·)).reverse
  let back := (rest.takeWhile (! counts ·)).reverse
  refine ⟨front, back, ?_, hskipped pieces, ?_⟩
  · have hcut : ∀ ps : List (List Char),
        ps = ps.takeWhile (! counts ·) ++ ps.dropWhile (! counts ·) :=
      fun ps => List.takeWhile_append_dropWhile.symm
    calc pieces
        = front ++ pieces.dropWhile (! counts ·) := hcut pieces
      _ = front ++ rest.reverse := congrArg _ (List.reverse_reverse _).symm
      _ = front ++ (rest.takeWhile (! counts ·)
            ++ rest.dropWhile (! counts ·)).reverse :=
          congrArg (front ++ List.reverse ·) (hcut rest)
      _ = front ++ trimPieces pieces ++ back := by
          rw [List.reverse_append, List.append_assoc]
          rfl
  · rw [ofPieces_reverse, hskipped, List.reverse_nil]

-- ============================================================ trim texts

/-- The text starts and ends with pieces that count. -/
def IsTrim (text : List Char) : Prop :=
  trimPieces (text.splitOn '/') = text.splitOn '/'

theorem IsTrim.ne_nil {text : List Char} (h : IsTrim text) :
    text ≠ [] := by
  rintro rfl
  exact absurd h (by unfold IsTrim; decide)

/-- The first piece of a trim text counts, so it is no lead. -/
theorem IsTrim.layout_eq {text : List Char} (h : IsTrim text) :
    layout text = ⟨none, text.splitOn '/'⟩ := by
  obtain ⟨first, rest, hsplit⟩ := List.exists_cons_of_ne_nil
    (List.splitOn_ne_nil '/' text)
  have hcounts : counts first = true :=
    counts_of_trimPieces_eq_cons (h.trans hsplit)
  unfold layout
  split
  · next heq =>
      rw [hsplit] at heq
      cases heq
      cases hcounts
  · next heq =>
      rw [hsplit] at heq
      cases heq
      cases hcounts
  · rfl

/-- The components of a trim text are what its pieces stand for. -/
theorem IsTrim.components_eq {text : List Char} (h : IsTrim text) :
    components text = ofPieces (text.splitOn '/') := by
  rw [SourcePath.components_eq, h.layout_eq]
  rfl

-- ======================================================= behind the root

/-- Dropping the components that pieces stand for leaves the pieces behind
them, trimming apart. -/
theorem map_trimPieces_dropComponents {cs : List Component}
    {front : List (List Char)} (h : ofPieces front = cs)
    (pieces : List (List Char)) :
    (dropComponents cs (front ++ pieces)).map trimPieces
      = some (trimPieces pieces) := by
  induction cs generalizing front with
  | nil => exact congrArg some (trimPieces_append h pieces)
  | cons c cs ih =>
      cases hdrop : front.dropWhile (! counts ·) with
      | nil =>
          rw [← ofPieces_dropWhile, hdrop] at h
          cases h
      | cons piece rest =>
          rw [ofPieces_of_dropWhile hdrop, List.cons.injEq] at h
          rw [dropComponents, List.dropWhile_append, hdrop]
          simp only [List.isEmpty_cons, List.cons_append, if_pos h.1,
            Bool.false_eq_true, if_false]
          exact ih h.2

/-- What is left behind the root and a slash is the text that stands
there, trimmed. -/
theorem behind?_append {root : List Char} (hroot : isAbsolute root = true)
    (text : List Char) :
    behind? (root ++ '/' :: text) root
      = some (joined (trimPieces (text.splitOn '/'))) := by
  have habs : isAbsolute (root ++ '/' :: text) = true := by
    obtain ⟨rest, rfl⟩ := exists_eq_slash_cons hroot
    rfl
  have hbody : (layout (root ++ '/' :: text)).body
      = (layout root).body ++ text.splitOn '/' := by
    obtain ⟨rest, rfl⟩ := exists_eq_slash_cons hroot
    rw [List.cons_append, body_slash_cons, body_slash_cons,
      List.splitOn_append_cons_self]
  have hleft := map_trimPieces_dropComponents
    (rfl : ofPieces (layout root).body = _) (text.splitOn '/')
  rw [behind?_of_isAbsolute hroot habs, hbody]
  show Option.map (joined ∘ trimPieces) _ = _
  rw [← Option.map_map, hleft, Option.map_some]

/-- A trim text behind the root is found again. -/
theorem IsTrim.relativeTo?_append {root text : List Char}
    (h : IsTrim text) (hroot : isAbsolute root = true) :
    relativeTo? root (root ++ '/' :: text) = some text := by
  have hjoined : joined (text.splitOn '/') = text :=
    List.intercalate_splitOn '/'
  rw [relativeTo?, behind?_append hroot, h, hjoined, Option.filter_some,
    if_pos (bne_iff_ne.2 h.ne_nil)]

/-- What a path is below an absolute root was left of its pieces. -/
theorem exists_pieces_of_relativeTo? {root path rest : List Char}
    (hroot : isAbsolute root = true)
    (h : relativeTo? root path = some rest) :
    isAbsolute path = true
      ∧ ∃ pieces, dropComponents (ofPieces (layout root).body)
          (layout path).body = some pieces
        ∧ trimPieces pieces ≠ [] ∧ rest = joined (trimPieces pieces) := by
  have hpath : isAbsolute path = true := by
    by_contra hrelative
    rw [relativeTo?_of_not_isAbsolute hroot
      (Bool.eq_false_iff.2 hrelative)] at h
    cases h
  rw [relativeTo?, Option.filter_eq_some_iff,
    behind?_of_isAbsolute hroot hpath] at h
  obtain ⟨pieces, hdrop, rfl⟩ := Option.map_eq_some_iff.1 h.1
  refine ⟨hpath, pieces, hdrop, fun hnil => ?_, rfl⟩
  rw [hnil] at h
  exact absurd h.2 (by decide)

-- ============================================================== verbatim

/-- Pieces behind a slash are the components behind the root. -/
theorem components_slash_joined {pieces : List (List Char)}
    (hclean : ∀ p ∈ pieces, '/' ∉ p) (hne : pieces ≠ []) :
    components ('/' :: joined pieces) = .root :: ofPieces pieces := by
  have hsplit : (joined pieces).splitOn '/' = pieces :=
    List.splitOn_intercalate '/' hclean hne
  rw [components_of_splitOn rfl, splitOn_slash_cons, hsplit]
  rfl

/-- Pieces put together, in two parts. -/
theorem joined_append {ps qs : List (List Char)} (hne : qs ≠ []) :
    joined (ps ++ qs) = slashed ps ++ joined qs := by
  induction ps with
  | nil => rfl
  | cons p ps ih =>
      rw [List.cons_append, joined, List.intercalate_cons_of_ne_nil
        (List.append_ne_nil_of_right_ne_nil ps hne), ← joined, ih,
        slashed_cons, List.append_assoc, List.append_assoc]
      rfl

/-- An absolute path is its body behind a slash. -/
theorem slash_cons_joined_body {path : List Char}
    (h : isAbsolute path = true) : '/' :: joined (layout path).body = path := by
  obtain ⟨rest, rfl⟩ := exists_eq_slash_cons h
  rw [body_slash_cons, joined, List.intercalate_splitOn]

/-- A slash behind each of the pieces adds no component. -/
theorem components_slash_slashed {pieces : List (List Char)}
    (hclean : ∀ p ∈ pieces, '/' ∉ p) :
    components ('/' :: slashed pieces) = .root :: ofPieces pieces := by
  -- behind the last slash there is an empty piece
  have hpieces : joined (pieces ++ [[]]) = slashed pieces := by
    rw [joined_append (List.cons_ne_nil [] []), joined,
      List.intercalate_singleton, List.append_nil]
  have hclean' : ∀ p ∈ pieces ++ [[]], '/' ∉ p := by
    intro p hp
    rcases List.mem_append.1 hp with hp | hp
    · exact hclean p hp
    · rw [List.mem_singleton.1 hp]
      exact List.not_mem_nil
  rw [← hpieces, components_slash_joined hclean'
    (List.append_ne_nil_of_right_ne_nil pieces (List.cons_ne_nil [] [])),
    ofPieces_append]
  exact congrArg _ (List.append_nil _)

theorem joined_isPrefix {ps : List (List Char)} (hne : ps ≠ [])
    (qs : List (List Char)) : joined ps <+: joined (ps ++ qs) := by
  cases qs with
  | nil => exact ⟨[], by rw [List.append_nil, List.append_nil]⟩
  | cons q qs =>
      rw [joined_append (List.cons_ne_nil q qs), slashed_eq hne,
        List.append_assoc]
      exact List.prefix_append _ _

/-- Dropped components are those of pieces in front. -/
theorem exists_eq_append_of_dropComponents {cs : List Component}
    {pieces rest : List (List Char)}
    (h : dropComponents cs pieces = some rest) :
    ∃ front, pieces = front ++ rest ∧ ofPieces front = cs := by
  obtain ⟨front, rfl⟩ := isSuffix_of_dropComponents h
  have hcomponents := dropComponents_eq_some h
  rw [ofPieces_append, List.append_cancel_right_eq] at hcomponents
  exact ⟨front, rfl, hcomponents⟩

/-- In front of what is left and trimmed stand pieces for what was
dropped, and behind it none that counts. -/
theorem exists_eq_append_trimPieces_of_dropComponents {cs : List Component}
    {pieces rest : List (List Char)}
    (h : dropComponents cs pieces = some rest) :
    ∃ front back, pieces = front ++ trimPieces rest ++ back
      ∧ ofPieces front = cs ∧ ofPieces back = [] := by
  obtain ⟨dropped, rfl, hdropped⟩ := exists_eq_append_of_dropComponents h
  obtain ⟨skipped, back, hrest, hskipped, hback⟩ :=
    exists_eq_append_trimPieces rest
  refine ⟨dropped ++ skipped, back, ?_, ?_, hback⟩
  · rw [List.append_assoc, List.append_assoc, ← List.append_assoc skipped,
      ← hrest]
  · rw [ofPieces_append, hskipped, List.append_nil, hdropped]

/-- The path is a spelling of the root, then the rest in the same text,
and then nothing that counts. -/
theorem exists_eq_append_relativeTo? {root path rest : List Char}
    (hroot : isAbsolute root = true)
    (h : relativeTo? root path = some rest) :
    ∃ before after, path = before ++ rest ++ after
      ∧ components before = components root
      ∧ components (before ++ rest) = components path := by
  obtain ⟨hpath, pieces, hdrop, hne, rfl⟩ :=
    exists_pieces_of_relativeTo? hroot h
  obtain ⟨front, back, hbody, hfront, hback⟩ :=
    exists_eq_append_trimPieces_of_dropComponents hdrop
  have hclean : ∀ p ∈ front ++ trimPieces pieces, '/' ∉ p := fun p hp =>
    slash_not_mem_of_mem_body (hbody ▸ List.mem_append_left back hp)
  have hnil : front ++ trimPieces pieces ≠ [] :=
    List.append_ne_nil_of_right_ne_nil front hne
  have htext : '/' :: slashed front ++ joined (trimPieces pieces)
      = '/' :: joined (front ++ trimPieces pieces) := by
    rw [joined_append hne, List.cons_append]
  obtain ⟨after, hafter⟩ := joined_isPrefix hnil back
  refine ⟨'/' :: slashed front, after, ?_, ?_, ?_⟩
  · rw [htext, List.cons_append, hafter, ← hbody, slash_cons_joined_body hpath]
  · rw [components_slash_slashed fun p hp =>
      hclean p (List.mem_append_left _ hp), hfront,
      components_eq_root_cons hroot]
  · rw [htext, components_slash_joined hclean hnil,
      components_eq_root_cons hpath, hbody,
      ofPieces_append (front ++ trimPieces pieces), hback, List.append_nil]

-- ============================================================ neighbours

/-- Nothing lies under the root whose name there, in its place, is longer
than that of the root. -/
theorem relativeTo?_of_longer_name {root path : List Char}
    (hroot : isAbsolute root = true) {parent below : List Component}
    {name more : List Char}
    (hname : components root = parent ++ [.ofPiece name])
    (hmore : more ≠ [])
    (hpath : components path = parent ++ .ofPiece (name ++ more) :: below) :
    relativeTo? root path = none := by
  by_contra hsome
  have hprefix := ((isSome_relativeTo?_iff hroot).1
    (Option.isSome_iff_ne_none.2 hsome)).1
  rw [hname, hpath, List.prefix_append_right_inj,
    List.cons_prefix_cons] at hprefix
  have hsame := ofPiece_injective hprefix.1
  rw [List.self_eq_append_right] at hsame
  exact hmore hsame

/-- Characters without separator belong to the piece behind them. -/
theorem splitOn_append_of_not_mem {sep : Char} {front : List Char}
    (h : sep ∉ front) (rest : List Char) :
    (front ++ rest).splitOn sep
      = (rest.splitOn sep).modifyHead (front ++ ·) := by
  induction front with
  | nil =>
      obtain ⟨first, others, hrest⟩ := List.exists_cons_of_ne_nil
        (List.splitOn_ne_nil sep rest)
      rw [List.nil_append, hrest, List.modifyHead_cons, List.nil_append]
  | cons c front ih =>
      rw [List.mem_cons, not_or] at h
      rw [List.cons_append, List.splitOn_cons_eq_if_modifyHead,
        if_neg (by simpa using Ne.symm h.1), ih h.2,
        List.modifyHead_modifyHead]
      rfl

/-- What begins with a piece that counts is one as well. -/
theorem counts_append {piece : List Char} (h : counts piece = true)
    (more : List Char) : counts (piece ++ more) = true := by
  rw [counts, Bool.and_eq_true, bne_iff_ne, bne_iff_ne] at h ⊢
  refine ⟨List.append_ne_nil_of_left_ne_nil h.1 more, fun hpoint => ?_⟩
  rcases List.append_eq_singleton_iff.1 hpoint with ⟨hnil, -⟩ | ⟨hself, -⟩
  · exact h.1 hnil
  · exact h.2 hself

/-- Where the text of the root ends with its name, no text that continues
this name lies under it. -/
theorem relativeTo?_of_continued {directory name more : List Char} {c : Char}
    (hroot : isAbsolute (directory ++ '/' :: name) = true)
    (hclean : '/' ∉ name) (hname : counts name = true) (hc : c ≠ '/') :
    relativeTo? (directory ++ '/' :: name)
      (directory ++ '/' :: name ++ c :: more) = none := by
  obtain ⟨first, others, hmore⟩ := List.exists_cons_of_ne_nil
    (List.splitOn_ne_nil '/' more)
  have hcontinued : (name ++ c :: more).splitOn '/'
      = (name ++ c :: first) :: others := by
    rw [splitOn_append_of_not_mem hclean,
      List.splitOn_cons_eq_if_modifyHead, if_neg (by simpa using hc), hmore,
      List.modifyHead_cons, List.modifyHead_cons]
  have hpath : isAbsolute (directory ++ '/' :: (name ++ c :: more)) = true :=
    (isAbsolute_append_slash _ _ _).trans hroot
  have hrootEnd : components (directory ++ '/' :: name)
      = (.root :: ofPieces (directory.splitOn '/')) ++ [.ofPiece name] := by
    rw [components_of_splitOn hroot, ofPieces_splitOn_append,
      List.splitOn_eq_singleton hclean, ofPieces, ofPieces,
      List.filter_cons_of_pos hname]
    rfl
  have hpathEnd : components (directory ++ '/' :: (name ++ c :: more))
      = (.root :: ofPieces (directory.splitOn '/'))
        ++ .ofPiece (name ++ c :: first) :: ofPieces others := by
    rw [components_of_splitOn hpath, ofPieces_splitOn_append, hcontinued,
      ofPieces, ofPieces, List.filter_cons_of_pos (counts_append hname _)]
    rfl
  rw [List.append_assoc, List.cons_append]
  exact relativeTo?_of_longer_name hroot hrootEnd
    (List.cons_ne_nil c first) hpathEnd

-- ============================================================ all of it

/-- What a path is relative to a root that it lies under. -/
structure IsRest (root path rest : List Char) : Prop where
  ne_nil : rest ≠ []
  relative : isAbsolute rest = false
  /-- These are the components behind those of the root. -/
  components : components path = components root ++ components rest
  /-- The text is that of the path, between a spelling of the root and
  what does not count. -/
  verbatim : ∃ before after, path = before ++ rest ++ after
    ∧ SourcePath.components before = SourcePath.components root
    ∧ SourcePath.components (before ++ rest) = SourcePath.components path
  /-- It does not lie under the root itself. -/
  stays : relativeTo? root rest = none
  /-- Behind the root it is found again. -/
  returns : relativeTo? root (root ++ '/' :: rest) = some rest

theorem isRest_of_relativeTo? {root path rest : List Char}
    (hroot : isAbsolute root = true)
    (h : relativeTo? root path = some rest) : IsRest root path rest := by
  obtain ⟨hpath, pieces, hdrop, hne, hrest⟩ :=
    exists_pieces_of_relativeTo? hroot h
  have hclean : ∀ p ∈ pieces, '/' ∉ p := fun p hp =>
    slash_not_mem_of_mem_body ((isSuffix_of_dropComponents hdrop).subset hp)
  have hsplit : rest.splitOn '/' = trimPieces pieces := by
    rw [hrest]
    exact List.splitOn_intercalate '/'
      (fun p hp => hclean p (mem_of_mem_trimPieces hp)) hne
  have htrim : IsTrim rest := by
    rw [IsTrim, hsplit, trimPieces_trimPieces]
  refine ⟨htrim.ne_nil, isAbsolute_relativeTo? hroot h, ?_,
    exists_eq_append_relativeTo? hroot h, relativeTo?_relativeTo? hroot h,
    htrim.relativeTo?_append hroot⟩
  rw [components_eq_root_cons hpath, components_eq_root_cons hroot,
    htrim.components_eq, hsplit, ofPieces_trimPieces,
    dropComponents_eq_some hdrop, List.cons_append]

/-- Only the components of the root are looked at. -/
theorem relativeTo?_congr {root root' : List Char}
    (h : components root = components root') (path : List Char) :
    relativeTo? root path = relativeTo? root' path := by
  rw [relativeTo?, behind?, h, relativeTo?, behind?]

/-- A path has a form relative to an absolute root exactly if the
components of the root are a proper prefix of its own, and that form is
what `IsRest` says. Another spelling of the root, with more or fewer
slashes and points that do not count, is a root with the same components,
and makes no difference. A path whose name at the place of that of the
root begins with it and goes on does not lie under the root, and neither
does what is written by going on with the text of the root. -/
theorem relativeTo?_exact {root : List Char}
    (hroot : isAbsolute root = true) :
    (∀ path, (relativeTo? root path).isSome
        ↔ components root <+: components path
          ∧ components root ≠ components path)
      ∧ (∀ path rest, relativeTo? root path = some rest →
        IsRest root path rest)
      ∧ (∀ root', Relation.EqvGen Respelt root root'
        ↔ components root = components root')
      ∧ (∀ root', Relation.EqvGen Respelt root root' →
        ∀ path, relativeTo? root path = relativeTo? root' path)
      ∧ (∀ path parent name more below,
        components root = parent ++ [.ofPiece name] → more ≠ [] →
        components path = parent ++ .ofPiece (name ++ more) :: below →
          relativeTo? root path = none)
      ∧ ∀ directory name c more, root = directory ++ '/' :: name →
        '/' ∉ name → counts name = true → c ≠ '/' →
          relativeTo? root (root ++ c :: more) = none := by
  refine ⟨fun path => isSome_relativeTo?_iff hroot,
    fun path rest => isRest_of_relativeTo? hroot,
    fun root' => (components_eq_iff_eqvGen hroot).symm, ?_, ?_, ?_⟩
  · intro root' hrespelt path
    exact relativeTo?_congr ((components_eq_iff_eqvGen hroot).2 hrespelt) path
  · intro path parent name more below hname hmore hpath
    exact relativeTo?_of_longer_name hroot hname hmore hpath
  · rintro directory name c more rfl hclean hname hc
    exact relativeTo?_of_continued hroot hclean hname hc

/-- A root that is spelt with a point, a path under it that is spelt with
doubled slashes, two points and a point at the end, and two neighbours. -/
theorem relativeTo?_exact_spelt :
    let root := "/r/./s".toList
    isAbsolute root = true
      ∧ relativeTo? root "/r//s/a//../b.c/.".toList
        = some "a//../b.c".toList
      ∧ IsRest root "/r//s/a//../b.c/.".toList "a//../b.c".toList
      ∧ Relation.EqvGen Respelt root "//r/s/".toList
      ∧ relativeTo? "//r/s/".toList "/r//s/a//../b.c/.".toList
        = some "a//../b.c".toList
      ∧ relativeTo? root "//r/sx/a.c".toList = none
      ∧ relativeTo? root "/r/./s.d/a.c".toList = none := by
  intro root
  have hroot : isAbsolute root = true := by decide
  obtain ⟨-, hrest, hspelt, hsame, hlonger, hcontinued⟩ :=
    relativeTo?_exact hroot
  have hrelative : relativeTo? root "/r//s/a//../b.c/.".toList
      = some "a//../b.c".toList := by decide +kernel
  have hrespelt : Relation.EqvGen Respelt root "//r/s/".toList :=
    (hspelt _).2 (by decide +kernel)
  refine ⟨hroot, hrelative, hrest _ _ hrelative, hrespelt, ?_, ?_, ?_⟩
  · rw [← hsame _ hrespelt, hrelative]
  · exact hlonger _ [.root, .named "r".toList] "s".toList "x".toList
      [.named "a.c".toList] (by decide +kernel) (by decide)
      (by decide +kernel)
  · exact hcontinued "/r/.".toList "s".toList '.' "d/a.c".toList
      (by decide +kernel) (by decide) (by decide) (by decide)

end Coverage.SourcePath
