/-
The checksum of the gzip format: the remainder of the data, taken as a
polynomial over bits, modulo a fixed one of degree 32. Bits go from the
lowest of each byte up; the register starts and ends inverted.
-/
namespace Coverage.Gzip

/-- The polynomial, its bits in reverse. -/
def polynomial : UInt32 := 0xEDB88320

/-- Shifts one bit out of the register. -/
def shift (register : UInt32) : UInt32 :=
  if register &&& 1 = 1 then (register >>> 1) ^^^ polynomial
  else register >>> 1

/-- Takes a byte into the register. -/
def absorb (register : UInt32) (b : UInt8) : UInt32 :=
  Nat.repeat shift 8 (register ^^^ b.toUInt32)

/-- The checksum of bytes. -/
def checksum (bytes : List UInt8) : UInt32 :=
  bytes.foldl absorb 0xFFFFFFFF ^^^ 0xFFFFFFFF

example : checksum [] = 0 := by decide

end Coverage.Gzip
