/-
What a decoder may say is wrong with an input. Whatever the format, the
libraries and the stream, its fault is about the content: a record, the
mode of a profile, the type of an export, the text of a document, or the
stream itself. No decoder speaks of the path of an input, so naming it is
left to those who load inputs, and they name it once.

# How it is proved

Why lines are refused is known of tracefiles and profiles
(`Tracefile.Grammar.Refusal`, `GoProfile.Refusal`), and why an event
fails of exports (`LlvmExport.Event.Fails`). What is left are the
documents, and whoever reads one has no other faults than those of
documents (`Json.Fault`).
-/
import Coverage.Proofs.ExportMeaning
import Coverage.Proofs.Rejection

namespace Coverage

/-- The fault says itself what happened: it does not just name an input
in which another fault happened. -/
def Fault.IsCause (fault : Fault) : Prop :=
  ∀ path cause, fault ≠ .inInput path cause

-- ============================================================ documents

/-- The fault of a document names no input. -/
theorem Json.Fault.isCause_toFault (fault : Json.Fault) :
    fault.toFault.IsCause := by
  cases fault <;> exact nofun

/-- Who reads a document names no input. -/
theorem Json.Document.isCause_of_read {α : Type} {d : Document}
    {value : Json → Except Json.Fault α} {fault : Coverage.Fault}
    (hfault : d.read value = .error fault) : fault.IsCause := by
  unfold Document.read at hfault
  cases hvalue : value d.root >>= orFault d.trailing with
  | error cause =>
      rw [hvalue] at hfault
      cases hfault
      exact cause.isCause_toFault
  | ok a =>
      rw [hvalue] at hfault
      cases hfault

-- ============================================================== formats

/-- A tracefile names no input when it fails. Any state of its reader is
the one behind some items, so a line is refused as it is behind these. -/
theorem Tracefile.isCause_of_fault {G : Tracefile.Grammar}
    {item : List Char → Except Fault Tracefile.Item} (h : G.ReadBy item)
    {s : ByteStream} {fault : Fault}
    (hfault : ((reader item).decode s).fault = some fault) :
    fault.IsCause := by
  refine LineReader.forall_fault_decode ?_ nofun (fun _ => nofun) s fault
    hfault
  intro current line fault hline
  have hbehind : ∃ before, selected before = current := by
    cases current with
    | none => exact ⟨[], rfl⟩
    | some name => exact ⟨[.file name], rfl⟩
  obtain ⟨before, rfl⟩ := hbehind
  cases refusal_of_read h hline <;> exact nofun

/-- A profile names no input when it fails. -/
theorem GoProfile.isCause_of_fault {s : ByteStream} {fault : Fault}
    (hfault : (decode s).fault = some fault) : fault.IsCause := by
  refine LineReader.forall_fault_decode ?_ ?_ (fun _ => nofun) s fault hfault
  · intro seen line fault hline
    have hbehind : ∃ before edits, reader.Reads false before seen edits := by
      cases seen with
      | false => exact ⟨[], [], .nil false⟩
      | true => exact ⟨["mode:".toList], [], .line rfl⟩
    obtain ⟨before, edits, hreads⟩ := hbehind
    cases refusal_of_read hreads hline <;> exact nofun
  · intro seen fault hfinish
    cases seen with
    | false =>
        cases hfinish
        exact nofun
    | true => cases hfinish

section Documents

variable [Libraries] {s : ByteStream} {fault : Fault}

/-- The JSON of gcov names no input when it fails. -/
theorem GcovJson.isCause_of_fault
    (hfault : (decode s).fault = some fault) : fault.IsCause := by
  unfold decode at hfault
  split at hfault
  · cases hfault
  · next cause hcause =>
      cases hfault
      exact Json.Document.isCause_of_read hcause

/-- An export names no input when it fails, be it as a document or in one
of its events. -/
theorem LlvmExport.isCause_of_fault
    (hfault : (decode s).fault = some fault) : fault.IsCause := by
  unfold decode at hfault
  split at hfault
  · next e he =>
      unfold journal at hfault
      split at hfault
      · rw [steps_eq_map] at hfault
        rcases ofSteps_cases e.events with ⟨edits, -, hrun⟩ | hstop
        · rw [hrun] at hfault
          cases hfault
        · obtain ⟨before, ev, after, edits, cause, -, -, hfails, hrun⟩ :=
            hstop
          rw [hrun] at hfault
          cases hfault
          cases hfails <;> exact nofun
      · cases hfault
        exact nofun
  · next cause hcause =>
      cases hfault
      exact Json.Document.isCause_of_read hcause

/-- Whatever a decoder says is wrong, it does not name an input. -/
theorem Format.isCause_of_fault {format : Format} {settings : Settings}
    {pieceSize : Option Nat}
    (hfault : (format.decode settings s pieceSize).fault = some fault) :
    fault.IsCause := by
  cases format with
  | gcov => exact Tracefile.isCause_of_fault Gcov.readBy hfault
  | lcov =>
      exact Tracefile.isCause_of_fault (Lcov.readBy settings.sourceRoot)
        hfault
  | gcovJson => exact GcovJson.isCause_of_fault hfault
  | llvm => exact LlvmExport.isCause_of_fault hfault
  | goProfile => exact GoProfile.isCause_of_fault hfault

end Documents

end Coverage
