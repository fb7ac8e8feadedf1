/-
Records in JSON. A record is written as an object, or as an array of its
fields in order. In an object the order is free, names that are not
known are passed over, no known name may come twice, and a field that
is required may not be left out. In an array only fields at the end may
be left out, and no item may be one too many.
-/
import Coverage.Json

namespace Coverage.Json

/-- A field of a record of type `α`. -/
structure Field (α : Type) where
  name : String
  /-- The record cannot do without the field. -/
  required : Bool
  /-- Reads the field into a record. -/
  read : Json → α → Except Fault α

/-- How a record is read. -/
structure Shape (α : Type) where
  /-- The record before any of its fields is read. -/
  blank : α
  /-- Its fields, in order. -/
  fields : List (Field α)

variable {α β : Type}

/-- A field that must be there. -/
def Field.need (name : String) (read : Json → Except Fault β)
    (put : β → α → α) : Field α :=
  ⟨name, true, fun v a => return put (← read v) a⟩

/-- A field that may be left out. -/
def Field.allow (name : String) (read : Json → Except Fault β)
    (put : β → α → α) : Field α :=
  ⟨name, false, fun v a => return put (← read v) a⟩

namespace Shape

variable (s : Shape α)

/-- Reads members into a record; `seen` are the names read before. -/
def readMembers (seen : List String) (a : α) :
    List Member → Except Fault (List String × α)
  | [] => .ok (seen, a)
  | (key, v) :: rest => do
    let name ← key.read
    match s.fields.find? (·.name == name) with
    | some field =>
      if seen.contains name then .error misshapen
      else readMembers (name :: seen) (← field.read v a) rest
    | none => do
      orFault v.skip ()
      readMembers seen a rest

/-- Reads items into a record, each as the field in its place. -/
def readItems (cut : Option Fault) (a : α) :
    List (Field α) → List Json → Except Fault α
  | [], [] => orFault cut a
  | [], _ :: _ => .error malformed
  | fields, [] => do
    orFault cut ()
    if fields.any (·.required) then .error misshapen else .ok a
  | field :: fields, v :: rest => do
    readItems cut (← field.read v a) fields rest

/-- Reads a record. -/
def read : Json → Except Fault α
  | .object members cut => do
    let (seen, a) ← s.readMembers [] s.blank members
    orFault cut ()
    if s.fields.all fun field => ! field.required || seen.contains field.name
    then .ok a
    else .error misshapen
  | .array items cut => readItems cut s.blank s.fields items
  | v => .error v.mismatch

end Shape

end Coverage.Json
