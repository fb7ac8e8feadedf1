/-
JSON values, as a reader that goes through a text once comes to know
them. Such a reader knows what it wants before it looks, and the first
problem in the order of the text decides. So a value here is not only
what the text says. It also holds the problems that can be met on the
way through it, and a problem counts only when someone gets there.

Three things follow. A scalar may be fine to pass over and yet
impossible to read, because a number is out of range or a text is not
well-formed. An array or object may be cut: some items are known, then
comes a fault. And a text may hold a fault in place of a value. A fault
that cuts an inner value cuts every value around it too, so whether a
value can be passed over is seen at its surface (`Json.skip`).
-/
import Coverage.ByteStream
import Coverage.Count

namespace Coverage

-- ============================================================ faults

/-- Why a document cannot be read. -/
inductive Json.Fault
  /-- Its stream fails. -/
  | input (cause : InputFault)
  /-- The text is not what it should be. -/
  | json (cause : JsonFault)
deriving DecidableEq, Repr

/-- The fault of an input that is a document of this fault. -/
def Json.Fault.toFault : Json.Fault → Coverage.Fault
  | .input cause => .input cause
  | .json cause => .json cause

/-- What a reader meets where the bytes run out: the failure of the
stream, or else what it makes of the end itself. -/
def Json.Fault.atEnd (failure : Option InputFault) (cause : JsonFault) :
    Json.Fault :=
  match failure with
  | some failure => .input failure
  | none => .json cause

-- ============================================================ values

/-- A number or a text: what reading it gives, and what passing over it
meets. -/
structure Json.Scalar (α : Type) where
  /-- The value, or what is wrong with it when it is wanted. -/
  read : Except Json.Fault α
  /-- What is wrong with it even when it is only passed over. -/
  skip : Option Json.Fault := none

/-- A JSON value. -/
inductive Json
  | null
  | bool (value : Bool)
  /-- A number. Only those without sign, fraction and exponent that fit
  into 64 bits have a value. -/
  | number (value : Json.Scalar (Option Nat))
  | string (value : Json.Scalar String)
  /-- An array, and what cuts it behind the items, if anything does. -/
  | array (items : List Json) (cut : Option Json.Fault)
  /-- An object, and what cuts it behind the members, if anything
  does. -/
  | object (members : List (Json.Scalar String × Json))
      (cut : Option Json.Fault)
  /-- There is a fault in the place of a value. -/
  | missing (fault : Json.Fault)

namespace Json

/-- The name of a member, and its value. -/
abbrev Member := Scalar String × Json

/-- The fault of a text that is not JSON. -/
def malformed : Fault := .json .malformed

/-- The fault of a value that is not of the shape that is wanted. -/
def misshapen : Fault := .json .misshapen

/-- What passing over a value meets. -/
def skip : Json → Option Fault
  | .null | .bool _ => none
  | .number n => n.skip
  | .string s => s.skip
  | .array _ cut | .object _ cut => cut
  | .missing fault => some fault

/-- The fault of a value of another kind than the one that is wanted.
A scalar is read before it is judged; an array or object is judged by
its first character. -/
def mismatch : Json → Fault
  | .number ⟨.error fault, _⟩ => fault
  | .string ⟨.error fault, _⟩ => fault
  | .missing fault => fault
  | _ => misshapen

-- =========================================================== reading

/-- A value, unless there is a fault. -/
def orFault {α : Type} (fault : Option Fault) (a : α) : Except Fault α :=
  match fault with
  | some fault => .error fault
  | none => .ok a

/-- Reads a text. -/
def asString : Json → Except Fault String
  | .string s => s.read
  | v => .error v.mismatch

/-- Reads a truth value. -/
def asBool : Json → Except Fault Bool
  | .bool b => .ok b
  | v => .error v.mismatch

/-- Reads a natural number below the bound. -/
def asNat (bound : Nat) : Json → Except Fault Nat
  | .number n => do
    match ← n.read with
    | some k => if k < bound then return k else .error misshapen
    | none => .error misshapen
  | v => .error v.mismatch

/-- Reads a count. -/
def asCount (v : Json) : Except Fault Count :=
  Count.saturate <$> v.asNat (Count.limit + 1)

/-- Reads an array, each item as `item` does. -/
def asList {α : Type} (item : Json → Except Fault α) :
    Json → Except Fault (List α)
  | .array items cut => do orFault cut (← items.mapM item)
  | v => .error v.mismatch

/-- Takes the next item of an array that `cut` may cut. An array that
ends is too short. -/
def takeItem (cut : Option Fault) :
    List Json → Except Fault (Json × List Json)
  | v :: rest => .ok (v, rest)
  | [] => .error (cut.getD misshapen)

-- ========================================================= documents

/-- The value of a document, and what is wrong behind it. -/
structure Document where
  root : Json
  trailing : Option Fault := none

/-- Reads the value of a document, and then makes sure that nothing
follows. -/
def Document.read {α : Type} (d : Document) (value : Json → Except Fault α) :
    Except Coverage.Fault α :=
  (value d.root >>= orFault d.trailing).mapError Fault.toFault

end Json

end Coverage
