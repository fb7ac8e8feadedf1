/-
Paths relative to an absolute root. What lies behind such a root never
starts at the root of the file system itself, and a path that does not
start there lies under no absolute root. So a name that was made
relative stays as it is when names are made relative once more
(`relativeTo?_relativeTo?`).

The reason is in the pieces of a path: none of them holds a slash, and
the first one that is kept is not empty.
-/
import Coverage.SourcePath

namespace Coverage.SourcePath

-- ============================================================== pieces

/-- The pieces of a layout are pieces of the path. -/
theorem mem_splitOn_of_mem_body {path piece : List Char}
    (h : piece ∈ (layout path).body) : piece ∈ path.splitOn '/' := by
  unfold layout at h
  split at h
  · next hsplit => exact hsplit ▸ List.mem_cons_of_mem _ h
  · next hsplit => exact hsplit ▸ List.mem_cons_of_mem _ h
  · exact h

theorem slash_not_mem_of_mem_body {path piece : List Char}
    (h : piece ∈ (layout path).body) : '/' ∉ piece :=
  Text.not_mem_of_mem_splitOn (mem_splitOn_of_mem_body h)

/-- A piece that counts has a first character. -/
theorem ne_nil_of_counts {piece : List Char} (h : counts piece = true) :
    piece ≠ [] := by
  rintro rfl
  cases h

/-- Dropping components leaves the pieces at the end. -/
theorem isSuffix_of_dropComponents {cs : List Component}
    {pieces rest : List (List Char)}
    (h : dropComponents cs pieces = some rest) : rest <:+ pieces := by
  induction cs generalizing pieces with
  | nil =>
      cases h
      exact List.suffix_rfl
  | cons c cs ih =>
      rw [dropComponents] at h
      have hsuffix := List.dropWhile_suffix (! counts ·) (l := pieces)
      split at h
      · cases h
      · next first others hdrop =>
          split at h
          · rw [hdrop] at hsuffix
            exact (ih h).trans ((List.suffix_cons first others).trans hsuffix)
          · cases h

theorem mem_of_mem_trimPieces {pieces : List (List Char)}
    {piece : List Char} (h : piece ∈ trimPieces pieces) :
    piece ∈ pieces := by
  unfold trimPieces trimPiecesEnd at h
  have hrev := (List.dropWhile_suffix _).subset (List.mem_reverse.1 h)
  exact (List.dropWhile_suffix _).subset (List.mem_reverse.1 hrev)

/-- What trimming leaves starts with a piece that counts. -/
theorem counts_of_trimPieces_eq_cons {pieces rest : List (List Char)}
    {first : List Char} (h : trimPieces pieces = first :: rest) :
    counts first = true := by
  have hpre : trimPieces pieces
      <+: pieces.dropWhile (! counts ·) := by
    unfold trimPieces trimPiecesEnd
    rw [← List.reverse_suffix, List.reverse_reverse]
    exact List.dropWhile_suffix _
  obtain ⟨tail, htail⟩ := hpre
  rw [h, List.cons_append] at htail
  have hhead := List.head?_dropWhile_not (! counts ·) pieces
  rw [← htail] at hhead
  simpa using hhead

-- ============================================================ layouts

/-- An absolute path starts with the root. -/
theorem components_of_isAbsolute {path : List Char}
    (h : isAbsolute path = true) :
    ∃ cs, components path = .root :: cs := by
  match path with
  | [] => cases h
  | c :: rest =>
      have hc : c = '/' := by simpa [isAbsolute] using h
      obtain ⟨first, others, hsplit⟩ := List.exists_cons_of_ne_nil
        (List.splitOn_ne_nil '/' rest)
      have hlayout : layout (c :: rest)
          = ⟨some .root, first :: others⟩ := by
        unfold layout
        rw [hc, List.splitOn_cons_eq_if_modifyHead, if_pos BEq.rfl,
          hsplit]
      refine ⟨((first :: others).filter counts).map .ofPiece, ?_⟩
      unfold components
      rw [hlayout]
      rfl

/-- Only an absolute path has the root as its lead. -/
theorem isAbsolute_of_lead_eq_root {path : List Char}
    (h : (layout path).lead = some .root) : isAbsolute path = true := by
  unfold layout at h
  split at h
  · next piece rest hsplit =>
      have hpath : ['/'].intercalate (path.splitOn '/') = path :=
        List.intercalate_splitOn '/'
      rw [hsplit, List.intercalate_cons_cons] at hpath
      rw [← hpath]
      rfl
  · cases h
  · cases h

-- ====================================================== below a root

/-- No piece stands for the root. -/
theorem ofPiece_ne_root (piece : List Char) :
    Component.ofPiece piece ≠ .root := by
  unfold Component.ofPiece
  split <;> exact Component.noConfusion

theorem dropComponents_root_cons (cs : List Component)
    (pieces : List (List Char)) :
    dropComponents (.root :: cs) pieces = none := by
  rw [dropComponents]
  split
  · rfl
  · rw [if_neg (ofPiece_ne_root _)]

/-- What lies behind an absolute root is put together from pieces of the
path, which starts at the root as well. -/
theorem behind?_eq_some_of_isAbsolute {path root rest : List Char}
    (hroot : isAbsolute root = true) (h : behind? path root = some rest) :
    isAbsolute path = true
      ∧ ∃ pieces, (∀ p ∈ pieces, '/' ∉ p)
        ∧ rest = joined (trimPieces pieces) := by
  obtain ⟨cs, hcs⟩ := components_of_isAbsolute hroot
  unfold behind? at h
  rw [hcs] at h
  cases hlead : (layout path).lead with
  | none =>
      simp only [hlead, dropComponents_root_cons] at h
      cases h
  | some lead =>
      simp only [hlead] at h
      split at h
      · next hl =>
          obtain ⟨pieces, hdrop, rfl⟩ := Option.map_eq_some_iff.1 h
          refine ⟨isAbsolute_of_lead_eq_root (hl ▸ hlead), pieces, ?_, rfl⟩
          intro p hp
          exact slash_not_mem_of_mem_body
            ((isSuffix_of_dropComponents hdrop).subset hp)
      · cases h

/-- Pieces put together start with the first character of the first. -/
theorem exists_joined_eq_cons (c : Char) (cs : List Char)
    (rest : List (List Char)) :
    ∃ tail, joined ((c :: cs) :: rest) = c :: tail := by
  unfold joined
  cases rest with
  | nil => exact ⟨cs, by simp⟩
  | cons p ps => exact ⟨_, by rw [List.intercalate_cons_cons]; rfl⟩

/-- Trimmed pieces put together do not start at the root. -/
theorem isAbsolute_joined_trimPieces {pieces : List (List Char)}
    (h : ∀ p ∈ pieces, '/' ∉ p) :
    isAbsolute (joined (trimPieces pieces)) = false := by
  cases htrim : trimPieces pieces with
  | nil => rfl
  | cons first rest =>
      have hfirst : '/' ∉ first :=
        h first (mem_of_mem_trimPieces (htrim ▸ List.mem_cons_self))
      obtain ⟨c, cs, rfl⟩ := List.exists_cons_of_ne_nil
        (ne_nil_of_counts (counts_of_trimPieces_eq_cons htrim))
      have hc : c ≠ '/' := fun hc => hfirst (hc ▸ List.mem_cons_self)
      obtain ⟨tail, htail⟩ := exists_joined_eq_cons c cs rest
      rw [htail]
      simpa [isAbsolute] using hc

/-- A path relative to an absolute root is not absolute. -/
theorem isAbsolute_relativeTo? {root path rest : List Char}
    (hroot : isAbsolute root = true)
    (h : relativeTo? root path = some rest) : isAbsolute rest = false := by
  rw [relativeTo?, Option.filter_eq_some_iff] at h
  obtain ⟨-, pieces, hpieces, rfl⟩ :=
    behind?_eq_some_of_isAbsolute hroot h.1
  exact isAbsolute_joined_trimPieces hpieces

/-- A path that is not absolute lies under no absolute root. -/
theorem relativeTo?_of_not_isAbsolute {root path : List Char}
    (hroot : isAbsolute root = true) (hpath : isAbsolute path = false) :
    relativeTo? root path = none := by
  cases h : relativeTo? root path with
  | none => rfl
  | some rest =>
      rw [relativeTo?, Option.filter_eq_some_iff] at h
      have habs := (behind?_eq_some_of_isAbsolute hroot h.1).1
      rw [hpath] at habs
      cases habs

/-- What was made relative to an absolute root does not lie under it. -/
theorem relativeTo?_relativeTo? {root path rest : List Char}
    (hroot : isAbsolute root = true)
    (h : relativeTo? root path = some rest) :
    relativeTo? root rest = none :=
  relativeTo?_of_not_isAbsolute hroot (isAbsolute_relativeTo? hroot h)

end Coverage.SourcePath
