/-
The grammar of the intermediate format of gcov, record by record in the
forms that they can take. The reader follows it (`Gcov.readBy`).
-/
import Coverage.Proofs.TracefileGrammar
import Coverage.Tracefile.Gcov

namespace Coverage.Gcov

open Record

/-- The word for an outcome. -/
def word : BranchStatus → String
  | .taken => "taken"
  | .notTaken => "nottaken"
  | .notExecuted => "notexec"

theorem status?_eq_some_iff {text : List Char} {status : BranchStatus} :
    status? text = some status ↔ text = (word status).toList := by
  constructor
  · intro h
    unfold status? at h
    split at h
    · next htext =>
        cases h
        exact htext
    · split at h
      · next htext =>
          cases h
          exact htext
      · split at h
        · next htext =>
            cases h
            exact htext
        · cases h
  · rintro rfl
    cases status <;> rfl

/-- What records about a file say. -/
inductive Says (payload : List Char) : RecordKind → Datum → Prop
  | function {start hits name : List Char} {n : Nat} {c : Count}
      (hfields : fields payload = [start, hits, name])
      (hstart : IsNumber start n) (hhits : IsCount hits c) :
      Says payload .function (.function (String.ofList name) n c)
  | functionWithEnd {start last hits name : List Char} {n : Nat} {c : Count}
      (hfields : fields payload = [start, last, hits, name])
      (hstart : IsNumber start n) (hhits : IsCount hits c) :
      Says payload .function (.function (String.ofList name) n c)
  | lcount {n : Nat} {c : Count} (hhits : LineHits payload n c) :
      Says payload .lcount (.line n c)
  | branch {line : List Char} {n : Nat} {status : BranchStatus}
      (hfields : fields payload = [line, (word status).toList])
      (hnumber : IsNumber line n) : Says payload .branch (.branch n status)

/-- Records do not speak of regions. -/
theorem not_says_region (payload : List Char) (kind : RecordKind)
    (r : Region) (c : Count) : ¬ Says payload kind (.region r c) := by
  intro h
  cases h

/-- The grammar of the format. -/
def grammar : Tracefile.Grammar where
  body line := line
  fileType := "file"
  fileName payload := String.ofList payload
  endType := none
  kinds := [.function, .lcount, .branch]
  Says := Says

variable (payload : List Char)

theorem judges_function :
    grammar.Judges .function payload
      ((readFunction payload).map fun r =>
        .function r.name r.start r.hits) := by
  constructor
  · intro x
    rw [exceptMap_eq_ok_iff]
    constructor
    · rintro ⟨r, h, rfl⟩
      unfold readFunction at h
      split at h
      · -- four fields, or three
        next hfields =>
          obtain ⟨n, c, hn, hc, rfl⟩ := readNumber_readCount_eq_ok_iff.1 h
          exact .function hfields hn hc
      · next hfields =>
          obtain ⟨n, c, hn, hc, rfl⟩ := readNumber_readCount_eq_ok_iff.1 h
          exact .functionWithEnd hfields hn hc
      · cases h
    · intro h
      cases h with
      | function hfields hstart hhits =>
          refine ⟨⟨_, _, _⟩, ?_, rfl⟩
          rw [readFunction, hfields]
          exact readNumber_readCount_eq_ok_iff.2
            ⟨_, _, hstart, hhits, rfl⟩
      | functionWithEnd hfields hstart hhits =>
          refine ⟨⟨_, _, _⟩, ?_, rfl⟩
          rw [readFunction, hfields]
          exact readNumber_readCount_eq_ok_iff.2
            ⟨_, _, hstart, hhits, rfl⟩
  · refine Blames.map ?_ _
    unfold readFunction
    split
    · exact .bind (.readNumber _ _) fun _ => .bind (.readCount _ _)
        fun _ => .ok _
    · exact .bind (.readNumber _ _) fun _ => .bind (.readCount _ _)
        fun _ => .ok _
    · exact .error _

theorem judges_lcount :
    grammar.Judges .lcount payload
      ((readLine payload).map fun p => .line p.1 p.2) := by
  have hread : readLine payload = readLineHits .lcount payload := rfl
  rw [hread]
  constructor
  · intro x
    rw [exceptMap_eq_ok_iff]
    constructor
    · rintro ⟨p, h, rfl⟩
      exact .lcount ((readLineHits_eq_ok_iff _ _).1 h)
    · intro h
      cases h with
      | lcount hhits =>
          exact ⟨_, (readLineHits_eq_ok_iff _ _).2 hhits, rfl⟩
  · exact (blames_readLineHits _ _).map _

theorem judges_branch :
    grammar.Judges .branch payload
      ((readBranch payload).map fun p => .branch p.1 p.2) := by
  constructor
  · intro x
    rw [exceptMap_eq_ok_iff]
    constructor
    · rintro ⟨p, h, rfl⟩
      unfold readBranch at h
      split at h
      · next hfields =>
          obtain ⟨n, hn, h⟩ := exceptBind_eq_ok_iff.1 h
          split at h
          · next hword =>
              cases h
              rw [status?_eq_some_iff] at hword
              rw [hword] at hfields
              exact .branch hfields (readNumber_eq_ok_iff.1 hn)
          · cases h
      · cases h
    · intro h
      cases h with
      | branch hfields hnumber =>
          refine ⟨(_, _), ?_, rfl⟩
          rw [readBranch, hfields]
          refine exceptBind_eq_ok_iff.2
            ⟨_, readNumber_eq_ok_iff.2 hnumber, ?_⟩
          rw [status?_eq_some_iff.2 rfl]
          rfl
  · refine Blames.map ?_ _
    unfold readBranch
    split
    · refine .bind (.readNumber _ _) fun _ => ?_
      split
      · exact .ok _
      · exact .error _
    · exact .error _

/-- Lines are read as the grammar has them. -/
theorem readBy : grammar.ReadBy item := by
  have hsplit : ∀ {line type payload : List Char},
      IsRecord (grammar.body line) type payload →
        split line = (type, payload) := split_eq_iff.2
  refine Tracefile.Grammar.ReadsTypes.readBy ⟨?_, ?_, ?_, ?_⟩
  · intro line payload hline
    rw [item, hsplit hline]
    rfl
  · rintro line type payload ⟨⟩
  · intro line payload kind hkind hline
    rw [item, hsplit hline]
    simp only [grammar, List.mem_cons, List.not_mem_nil, or_false] at hkind
    rcases hkind with rfl | rfl | rfl
    · refine ⟨_, judges_function payload, ?_⟩
      show (readFunction payload >>= _) = _
      cases readFunction payload <;> rfl
    · refine ⟨_, judges_lcount payload, ?_⟩
      show (readLine payload >>= _) = _
      cases readLine payload <;> rfl
    · refine ⟨_, judges_branch payload, ?_⟩
      show (readBranch payload >>= _) = _
      cases readBranch payload <;> rfl
  · intro line type payload htype hline
    have hother : ∀ t ∈ grammar.types, type ≠ t := by
      rintro t ht rfl
      exact htype ht
    rw [item, hsplit hline]
    dsimp only
    rw [if_neg (hother _ (by decide)), if_neg (hother _ (by decide)),
      if_neg (hother _ (by decide)), if_neg (hother _ (by decide))]

end Coverage.Gcov
