/-
What the lines of a tracefile mean. A grammar names the type of the
record that begins a file, the kinds of records that are about a file,
and what each of them says; from this follows what a line means
(`Grammar.Means`).

A reader follows a grammar (`Grammar.ReadBy`) if it reads a line as an
item just when the line means that item, and blames a line that means
nothing with its type and its whole payload. It is enough to see this
type by type (`Grammar.ReadsTypes.readBy`).
-/
import Coverage.Proofs.RecordReading
import Coverage.Tracefile

namespace Coverage

open Record

namespace Tracefile

/-- What records there are in a tracefile format, and what they say. -/
structure Grammar where
  /-- The part of a line that is looked at. -/
  body : List Char → List Char
  /-- The type of the record that begins a file. -/
  fileType : String
  /-- The name of the file that such a record begins. -/
  fileName : List Char → String
  /-- The type of the record that ends a file, if the format has one. -/
  endType : Option String
  /-- The kinds of the records that are about a file. -/
  kinds : List RecordKind
  /-- The payload of a record of that kind says this. -/
  Says : List Char → RecordKind → Datum → Prop

namespace Grammar

/-- The types of the records that are not ignored. -/
def types (G : Grammar) : List (List Char) :=
  (G.fileType :: (G.endType.toList ++ G.kinds.map (·.name))).map (·.toList)

/-- What a line means. A record about a file whose payload says nothing
is malformed, and such a line means nothing. -/
inductive Means (G : Grammar) (line : List Char) : Item → Prop
  | file {payload : List Char}
      (hline : IsRecord (G.body line) G.fileType.toList payload) :
      Means G line (.file (G.fileName payload))
  | endOfFile {type : String} {payload : List Char}
      (hend : G.endType = some type)
      (hline : IsRecord (G.body line) type.toList payload) :
      Means G line .endOfFile
  | datum {kind : RecordKind} {payload : List Char} {x : Datum}
      (hkind : kind ∈ G.kinds)
      (hline : IsRecord (G.body line) kind.name.toList payload)
      (hsaid : G.Says payload kind x) : Means G line (.datum kind x)
  | ignored {type payload : List Char} (htype : type ∉ G.types)
      (hline : IsRecord (G.body line) type payload) :
      Means G line .ignored

/-- Lines are read as what they mean. A line that cannot be read is a
record about a file, and is blamed with its type and payload. -/
structure ReadBy (G : Grammar) (item : List Char → Except Fault Item) :
    Prop where
  ok_iff : ∀ line i, item line = .ok i ↔ G.Means line i
  blames : ∀ line fault, item line = .error fault →
    ∃ kind ∈ G.kinds, ∃ payload defect,
      IsRecord (G.body line) kind.name.toList payload
        ∧ fault = .record kind payload defect

/-- The payload of a record is read as what it says, or the record is
blamed. -/
structure Judges (G : Grammar) (kind : RecordKind) (payload : List Char)
    (read : Except Fault Datum) : Prop where
  ok_iff : ∀ x, read = .ok x ↔ G.Says payload kind x
  blames : Blames kind payload read

/-- Each type of record is read as what it means. -/
structure ReadsTypes (G : Grammar) (item : List Char → Except Fault Item) :
    Prop where
  file : ∀ line payload,
    IsRecord (G.body line) G.fileType.toList payload →
      item line = .ok (.file (G.fileName payload))
  endOfFile : ∀ line type payload, G.endType = some type →
    IsRecord (G.body line) type.toList payload →
      item line = .ok .endOfFile
  datum : ∀ line payload, ∀ kind ∈ G.kinds,
    IsRecord (G.body line) kind.name.toList payload →
      ∃ read, G.Judges kind payload read
        ∧ item line = read.map (.datum kind)
  ignored : ∀ line type payload, type ∉ G.types →
    IsRecord (G.body line) type payload → item line = .ok .ignored

namespace ReadsTypes

variable {G : Grammar} {item : List Char → Except Fault Item}

/-- Every line has a type, and the type says how it is read. -/
theorem ok_or_judges (h : G.ReadsTypes item) (line : List Char) :
    (∃ i, item line = .ok i ∧ G.Means line i)
      ∨ ∃ kind ∈ G.kinds, ∃ payload read,
        IsRecord (G.body line) kind.name.toList payload
          ∧ G.Judges kind payload read
          ∧ item line = read.map (.datum kind) := by
  obtain ⟨type, payload, hline⟩ : ∃ type payload,
      IsRecord (G.body line) type payload := ⟨_, _, split_eq_iff.1 rfl⟩
  by_cases htype : type ∈ G.types
  · rw [types, List.map_cons, List.map_append, List.mem_cons,
      List.mem_append, List.mem_map, List.mem_map] at htype
    rcases htype with rfl | ⟨t, ht, rfl⟩ | ⟨t, ht, rfl⟩
    · exact Or.inl ⟨_, h.file line payload hline, .file hline⟩
    · have ht := Option.mem_toList.1 ht
      exact Or.inl
        ⟨_, h.endOfFile line t payload ht hline, .endOfFile ht hline⟩
    · obtain ⟨kind, hkind, rfl⟩ := List.mem_map.1 ht
      obtain ⟨read, hread⟩ := h.datum line payload kind hkind hline
      exact Or.inr ⟨kind, hkind, payload, read, hline, hread⟩
  · exact Or.inl ⟨_, h.ignored line type payload htype hline,
      .ignored htype hline⟩

/-- What means something is read as that. -/
theorem ok_of_means (h : G.ReadsTypes item) {line : List Char} {i : Item}
    (hmeans : G.Means line i) : item line = .ok i := by
  cases hmeans with
  | file hline => exact h.file _ _ hline
  | endOfFile htype hline => exact h.endOfFile _ _ _ htype hline
  | ignored htype hline => exact h.ignored _ _ _ htype hline
  | datum hkind hline hsaid =>
      obtain ⟨read, hjudges, hread⟩ := h.datum _ _ _ hkind hline
      rw [hread]
      exact exceptMap_eq_ok_iff.2 ⟨_, (hjudges.ok_iff _).2 hsaid, rfl⟩

/-- Lines are read as what they mean if each type of record is. -/
theorem readBy (h : G.ReadsTypes item) : G.ReadBy item := by
  constructor
  · intro line i
    refine ⟨fun hi => ?_, h.ok_of_means⟩
    rcases h.ok_or_judges line with ⟨j, hj, hmeans⟩ | hdatum
    · rw [hi] at hj
      cases hj
      exact hmeans
    · obtain ⟨kind, hkind, payload, read, hline, hjudges, hread⟩ := hdatum
      rw [hread] at hi
      obtain ⟨x, hx, rfl⟩ := exceptMap_eq_ok_iff.1 hi
      exact .datum hkind hline ((hjudges.ok_iff x).1 hx)
  · intro line fault hfault
    rcases h.ok_or_judges line with ⟨j, hj, -⟩ | hdatum
    · rw [hfault] at hj
      cases hj
    · obtain ⟨kind, hkind, payload, read, hline, hjudges, hread⟩ := hdatum
      rw [hread] at hfault
      obtain ⟨defect, hdefect⟩ := hjudges.blames.map _ fault hfault
      exact ⟨kind, hkind, payload, defect, hline, hdefect⟩

end ReadsTypes

end Grammar

end Tracefile

end Coverage
