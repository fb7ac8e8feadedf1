/-
Cutting records loses nothing. The fields of a payload have no comma in
them and make the payload again with commas between them, and fields that
were written with commas between them are found again. A line with a colon
is its type, a colon and its payload, any other is all type; the type has
no colon, the payload may have any (`Record.cuts_lossless`).

What is cut is told by `HasFields` and `IsRecord`, which speak of the text
only. Each of them holds of one list of fields, and of one type and
payload.
-/
import Coverage.Proofs.PayloadGrammar

namespace Coverage.Record

/-- The fields of a payload put together are the payload. -/
theorem join_fields (payload : List Char) :
    join (fields payload) = payload :=
  (hasFields_fields payload).payload.symm

/-- The type of a line has no colon, and a line with a colon is its type,
a colon and its payload. -/
theorem isRecord_split (line : List Char) :
    IsRecord line (split line).1 (split line).2 :=
  split_eq_iff.1 rfl

theorem split_of_colon_mem {line : List Char} (h : ':' ∈ line) :
    line = (split line).1 ++ ':' :: (split line).2 := by
  obtain ⟨hclean, hline | ⟨hline, -⟩⟩ := isRecord_split line
  · exact hline
  · rw [← hline] at hclean
    exact absurd h hclean

/-- A line without a colon is all type. -/
theorem split_of_colon_not_mem {line : List Char} (h : ':' ∉ line) :
    split line = (line, []) :=
  split_eq_iff.2 ⟨h, Or.inr ⟨rfl, rfl⟩⟩

/-- Cutting a payload into its fields and a line into type and payload is
undone by putting together, and undoes it. -/
theorem cuts_lossless :
    (∀ payload, fields payload ≠ [] ∧ (∀ f ∈ fields payload, ',' ∉ f)
        ∧ join (fields payload) = payload)
      ∧ (∀ fs, fs ≠ [] → (∀ f ∈ fs, ',' ∉ f) → fields (join fs) = fs)
      ∧ (∀ line, ':' ∉ (split line).1
        ∧ if ':' ∈ line then line = (split line).1 ++ ':' :: (split line).2
          else split line = (line, []))
      ∧ ∀ type payload, ':' ∉ type →
        split (type ++ ':' :: payload) = (type, payload) := by
  refine ⟨fun payload => ?_, fun fs => fields_join, fun line => ?_,
    fun type payload htype => ?_⟩
  · have hfields := hasFields_fields payload
    exact ⟨hfields.ne_nil, hfields.no_comma, join_fields payload⟩
  · refine ⟨(isRecord_split line).no_colon, ?_⟩
    split
    · next h => exact split_of_colon_mem h
    · next h => exact split_of_colon_not_mem h
  · exact split_eq_iff.2 ⟨htype, Or.inl rfl⟩

/-- Commas at both ends and next to one another, and a colon in the
payload. -/
theorem cuts_lossless_separators :
    (fields ",a,,".toList = [[], ['a'], [], []]
        ∧ join [[], ['a'], [], []] = ",a,,".toList)
      ∧ split "SF:/a/b:c.c".toList = ("SF".toList, "/a/b:c.c".toList) := by
  obtain ⟨hcut, hfound, -, hsplit⟩ := cuts_lossless
  have hjoin : join [[], ['a'], [], []] = ",a,,".toList := by decide
  refine ⟨⟨?_, hjoin⟩, hsplit "SF".toList "/a/b:c.c".toList (by decide)⟩
  rw [← hjoin]
  exact hfound _ (by decide) (by decide)

end Coverage.Record
