/-
Bytes as they come in. A stream delivers some bytes, and then it is
over or it fails; a reader that does not ask for more than it needs may
never meet the failure.
-/
import Coverage.Fault

namespace Coverage

/-- Bytes, and how their delivery ends. -/
structure ByteStream where
  /-- What is delivered. -/
  bytes : List UInt8
  /-- What keeps further bytes from being delivered, if anything does. -/
  failure : Option InputFault := none

/-- Bytes that are at hand are all delivered. -/
instance : Coe (List UInt8) ByteStream := ⟨fun bytes => ⟨bytes, none⟩⟩

/-- The stream that fails before it delivers anything. -/
def ByteStream.failed (cause : InputFault) : ByteStream := ⟨[], some cause⟩

end Coverage
