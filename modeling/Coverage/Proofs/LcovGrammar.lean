/-
The grammar of the tracefile format of lcov, record by record in the
forms that they can take. The reader follows it, with a source root and
without one (`Lcov.readBy`).
-/
import Coverage.Proofs.TracefileGrammar
import Coverage.Tracefile.Lcov

namespace Coverage.Lcov

open Record

/-- What records about a file say. Where a function starts and how often
it ran are two records, and a branch that was never reached was not
taken. -/
inductive Says (payload : List Char) : RecordKind → Datum → Prop
  | functionStart {start name : List Char} {n : Nat}
      (hfields : fields payload = [start, name])
      (hstart : IsNumber start n) :
      Says payload .functionStart (.function (String.ofList name) n 0)
  | functionStartWithEnd {start last name : List Char} {n m : Nat}
      (hfields : fields payload = [start, last, name])
      (hlast : IsNumber last m) (hstart : IsNumber start n) :
      Says payload .functionStart (.function (String.ofList name) n 0)
  | functionHits {hits name : List Char} {c : Count}
      (hfields : fields payload = [hits, name]) (hhits : IsCount hits c) :
      Says payload .functionHits (.function (String.ofList name) 0 c)
  | lineHits {n : Nat} {c : Count} (hhits : LineHits payload n c) :
      Says payload .lineHits (.line n c)
  | branchHits {line block branch taken : List Char} {n : Nat} {c : Count}
      (hfields : fields payload = [line, block, branch, taken])
      (hnumber : IsNumber line n) (htaken : IsCount taken c) :
      Says payload .branchHits
        (.branch n (if c.toNat = 0 then .notTaken else .taken))
  | branchNotReached {line block branch : List Char} {n : Nat}
      (hfields : fields payload = [line, block, branch, ['-']])
      (hnumber : IsNumber line n) :
      Says payload .branchHits (.branch n .notTaken)

/-- Records do not speak of regions. -/
theorem not_says_region (payload : List Char) (kind : RecordKind)
    (r : Region) (c : Count) : ¬ Says payload kind (.region r c) := by
  intro h
  cases h

/-- The grammar of the format, with an optional source root. -/
def grammar (root : Option (List Char)) : Tracefile.Grammar where
  body line := Text.trimEnd Text.isBlank line
  fileType := "SF"
  fileName := sourceName root
  endType := some "end_of_record"
  kinds := [.functionStart, .functionHits, .lineHits, .branchHits]
  Says := Says

variable (root : Option (List Char)) (payload : List Char)

theorem judges_functionStart :
    (grammar root).Judges .functionStart payload
      ((readFunctionStart payload).map fun p => .function p.1 p.2 0) := by
  constructor
  · intro x
    rw [exceptMap_eq_ok_iff]
    constructor
    · rintro ⟨p, h, rfl⟩
      unfold readFunctionStart at h
      split at h
      · next hfields =>
          obtain ⟨n, hn, h⟩ := exceptBind_eq_ok_iff.1 h
          cases h
          exact .functionStart hfields (readNumber_eq_ok_iff.1 hn)
      · next hfields =>
          obtain ⟨m, hm, h⟩ := exceptBind_eq_ok_iff.1 h
          obtain ⟨n, hn, h⟩ := exceptBind_eq_ok_iff.1 h
          cases h
          exact .functionStartWithEnd hfields (readNumber_eq_ok_iff.1 hm)
            (readNumber_eq_ok_iff.1 hn)
      · cases h
    · intro h
      cases h with
      | functionStart hfields hstart =>
          refine ⟨(_, _), ?_, rfl⟩
          rw [readFunctionStart, hfields]
          exact exceptBind_eq_ok_iff.2
            ⟨_, readNumber_eq_ok_iff.2 hstart, rfl⟩
      | functionStartWithEnd hfields hlast hstart =>
          refine ⟨(_, _), ?_, rfl⟩
          rw [readFunctionStart, hfields]
          exact exceptBind_eq_ok_iff.2 ⟨_, readNumber_eq_ok_iff.2 hlast,
            exceptBind_eq_ok_iff.2
              ⟨_, readNumber_eq_ok_iff.2 hstart, rfl⟩⟩
  · refine Blames.map ?_ _
    unfold readFunctionStart
    split
    · exact .bind (.readNumber _ _) fun _ => .ok _
    · exact .bind (.readNumber _ _) fun _ => .bind (.readNumber _ _)
        fun _ => .ok _
    · exact .error _

theorem judges_functionHits :
    (grammar root).Judges .functionHits payload
      ((readFunctionHits payload).map fun p => .function p.1 0 p.2) := by
  constructor
  · intro x
    rw [exceptMap_eq_ok_iff]
    constructor
    · rintro ⟨p, h, rfl⟩
      unfold readFunctionHits at h
      split at h
      · next hfields =>
          obtain ⟨c, hc, h⟩ := exceptBind_eq_ok_iff.1 h
          cases h
          exact .functionHits hfields (readCount_eq_ok_iff.1 hc)
      · cases h
    · intro h
      cases h with
      | functionHits hfields hhits =>
          refine ⟨(_, _), ?_, rfl⟩
          rw [readFunctionHits, hfields]
          exact exceptBind_eq_ok_iff.2 ⟨_, readCount_eq_ok_iff.2 hhits, rfl⟩
  · refine Blames.map ?_ _
    unfold readFunctionHits
    split
    · exact .bind (.readCount _ _) fun _ => .ok _
    · exact .error _

theorem judges_lineHits :
    (grammar root).Judges .lineHits payload
      ((Lcov.readLineHits payload).map fun p => .line p.1 p.2) := by
  have hread : Lcov.readLineHits payload
      = Record.readLineHits .lineHits payload := rfl
  rw [hread]
  constructor
  · intro x
    rw [exceptMap_eq_ok_iff]
    constructor
    · rintro ⟨p, h, rfl⟩
      exact .lineHits ((readLineHits_eq_ok_iff _ _).1 h)
    · intro h
      cases h with
      | lineHits hhits =>
          exact ⟨_, (readLineHits_eq_ok_iff _ _).2 hhits, rfl⟩
  · exact (blames_readLineHits _ _).map _

/-- A hyphen is no count. -/
theorem not_isCount_hyphen (c : Count) : ¬ IsCount ['-'] c := by
  intro h
  cases h.digits '-' List.mem_cons_self

theorem judges_branchHits :
    (grammar root).Judges .branchHits payload
      ((readBranchHits payload).map fun p => .branch p.1 p.2) := by
  -- a count that is no zero is a hit, by either name
  have hstatus : ∀ c : Count,
      (if c.isHit then .taken else .notTaken : BranchStatus)
        = if c.toNat = 0 then .notTaken else .taken := by
    intro c
    by_cases h : c.toNat = 0
    · simp [Count.isHit, h]
    · simp [Count.isHit, h]
  constructor
  · intro x
    rw [exceptMap_eq_ok_iff]
    constructor
    · rintro ⟨p, h, rfl⟩
      unfold readBranchHits at h
      -- a hyphen is told apart before the count is read
      split at h
      · next hfields =>
          obtain ⟨n, hn, h⟩ := exceptBind_eq_ok_iff.1 h
          split at h
          · next htaken =>
              cases h
              rw [htaken] at hfields
              exact .branchNotReached hfields (readNumber_eq_ok_iff.1 hn)
          · obtain ⟨c, hc, h⟩ := exceptBind_eq_ok_iff.1 h
            cases h
            show Says payload _ (.branch n (if c.isHit then _ else _))
            rw [hstatus]
            exact .branchHits hfields (readNumber_eq_ok_iff.1 hn)
              (readCount_eq_ok_iff.1 hc)
      · cases h
    · intro h
      cases h with
      | branchHits hfields hnumber htaken =>
          refine ⟨(_, _), ?_, rfl⟩
          rw [readBranchHits, hfields]
          refine exceptBind_eq_ok_iff.2
            ⟨_, readNumber_eq_ok_iff.2 hnumber, ?_⟩
          rw [if_neg]
          · refine exceptBind_eq_ok_iff.2
              ⟨_, readCount_eq_ok_iff.2 htaken, ?_⟩
            rw [hstatus]
            rfl
          -- a hyphen is no count, so the cases do not overlap
          · rintro rfl
            exact not_isCount_hyphen _ htaken
      | branchNotReached hfields hnumber =>
          refine ⟨(_, _), ?_, rfl⟩
          rw [readBranchHits, hfields]
          refine exceptBind_eq_ok_iff.2
            ⟨_, readNumber_eq_ok_iff.2 hnumber, ?_⟩
          rw [if_pos rfl]
          rfl
  · refine Blames.map ?_ _
    unfold readBranchHits
    split
    · refine .bind (.readNumber _ _) fun _ => ?_
      split
      · exact .ok _
      · exact .bind (.readCount _ _) fun _ => .ok _
    · exact .error _

/-- Lines are read as the grammar has them. -/
theorem readBy : (grammar root).ReadBy (item root) := by
  have hsplit : ∀ {line type payload : List Char},
      IsRecord ((grammar root).body line) type payload →
        split (Text.trimEnd Text.isBlank line) = (type, payload) :=
    split_eq_iff.2
  refine Tracefile.Grammar.ReadsTypes.readBy ⟨?_, ?_, ?_, ?_⟩
  · intro line payload hline
    rw [item, hsplit hline]
    exact if_pos rfl
  · rintro line type payload ⟨⟩ hline
    rw [item, hsplit hline]
    rfl
  · intro line payload kind hkind hline
    rw [item, hsplit hline]
    simp only [grammar, List.mem_cons, List.not_mem_nil, or_false] at hkind
    rcases hkind with rfl | rfl | rfl | rfl
    · refine ⟨_, judges_functionStart root payload, ?_⟩
      show (readFunctionStart payload >>= _) = _
      cases readFunctionStart payload <;> rfl
    · refine ⟨_, judges_functionHits root payload, ?_⟩
      show (readFunctionHits payload >>= _) = _
      cases readFunctionHits payload <;> rfl
    · refine ⟨_, judges_lineHits root payload, ?_⟩
      show (Lcov.readLineHits payload >>= _) = _
      cases Lcov.readLineHits payload <;> rfl
    · refine ⟨_, judges_branchHits root payload, ?_⟩
      show (readBranchHits payload >>= _) = _
      cases readBranchHits payload <;> rfl
  · -- a type that is none of the known ones passes every test
    intro line type payload htype hline
    have htypes : ∀ t : String, t ∈ ["SF", "end_of_record", "FN", "FNDA",
        "DA", "BRDA"] → type ≠ t.toList := by
      rintro t ht rfl
      exact htype (List.mem_map_of_mem ht)
    rw [item, hsplit hline]
    dsimp only
    rw [if_neg (htypes _ (by decide)), if_neg (htypes _ (by decide)),
      if_neg (htypes _ (by decide)), if_neg (htypes _ (by decide)),
      if_neg (htypes _ (by decide)), if_neg (htypes _ (by decide))]

end Coverage.Lcov
