/-
Cutting text at a separator. `List.splitOn` cuts everywhere; here is
the cut at the first separator only, which leaves the rest verbatim,
later separators included.
-/
namespace Coverage.Text

/-- What stands before the first separator and what follows it, or
nothing when the separator does not occur. -/
def splitFirst? (sep : Char) (text : List Char) :
    Option (List Char × List Char) :=
  match text.dropWhile (· != sep) with
  | [] => none
  | _ :: rest => some (text.takeWhile (· != sep), rest)

/-- The text without the longest tail whose characters all pass the
test. -/
def trimEnd (drop : Char → Bool) (text : List Char) : List Char :=
  (text.reverse.dropWhile drop).reverse

/-- A head without the separator is found again, whatever follows. -/
theorem splitFirst?_append {sep : Char} {head : List Char}
    (clean : sep ∉ head) (rest : List Char) :
    splitFirst? sep (head ++ sep :: rest) = some (head, rest) := by
  have pass : ∀ c ∈ head, (c != sep) = true := by
    intro c hc
    simp only [bne_iff_ne, ne_eq]
    rintro rfl
    exact clean hc
  simp [splitFirst?, List.dropWhile_append_of_pos pass,
    List.takeWhile_append_of_pos pass]

/-- What was cut can be put together again. -/
theorem eq_of_splitFirst?_eq_some {sep : Char} {text head rest : List Char}
    (h : splitFirst? sep text = some (head, rest)) :
    text = head ++ sep :: rest ∧ sep ∉ head := by
  unfold splitFirst? at h
  split at h
  · simp at h
  · rename_i c tail cut
    have found : c = sep := by
      have stop := List.head?_dropWhile_not (· != sep) text
      rw [cut] at stop
      simpa using stop
    simp only [Option.some.injEq, Prod.mk.injEq] at h
    obtain ⟨rfl, rfl⟩ := h
    rw [found] at cut
    refine ⟨?_, ?_⟩
    · rw [← cut]
      exact (List.takeWhile_append_dropWhile).symm
    · intro hc
      have pass := List.all_eq_true.1 (List.all_takeWhile (p := (· != sep))
        (l := text)) sep hc
      simp at pass

/-- A piece between separators does not hold the separator. -/
theorem not_mem_of_mem_splitOn {α : Type} [BEq α] [LawfulBEq α] {sep : α}
    {text piece : List α} (h : piece ∈ text.splitOn sep) :
    sep ∉ piece := by
  induction text generalizing piece with
  | nil =>
      rw [List.splitOn_nil, List.mem_singleton] at h
      rw [h]
      exact List.not_mem_nil
  | cons c rest ih =>
      rw [List.splitOn_cons_eq_if_modifyHead] at h
      split at h
      · rcases List.mem_cons.1 h with rfl | h
        · exact List.not_mem_nil
        · exact ih h
      · next hc =>
          obtain ⟨first, others, hsplit⟩ := List.exists_cons_of_ne_nil
            (List.splitOn_ne_nil sep rest)
          rw [hsplit, List.modifyHead_cons] at h
          rcases List.mem_cons.1 h with rfl | h
          · intro hmem
            rcases List.mem_cons.1 hmem with rfl | hmem
            · exact hc BEq.rfl
            · exact ih (hsplit ▸ List.mem_cons_self) hmem
          · exact ih (hsplit ▸ List.mem_cons_of_mem _ h)

end Coverage.Text
