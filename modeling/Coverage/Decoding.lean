/-
Decoding an input in any of the formats. Only lcov tracefiles look at a
setting: their file names are made relative to the source root when
they are read.
-/
import Coverage.GcovJson
import Coverage.GoProfile
import Coverage.LlvmExport
import Coverage.Settings
import Coverage.Tracefile.Gcov
import Coverage.Tracefile.Lcov

namespace Coverage

/-- What a stream in that format asks for. Only a compressed one can show
whether it is handed over at once or in pieces of some size. -/
def Format.decode [Libraries] (format : Format) (s : Settings)
    (stream : ByteStream) (pieceSize : Option Nat := none) : Journal :=
  match format with
  | .gcov => Gcov.decode stream
  | .lcov => Lcov.decode s.sourceRoot stream
  | .gcovJson => GcovJson.decode (Libraries.decompress stream pieceSize)
  | .llvm => LlvmExport.decode stream
  | .goProfile => GoProfile.decode stream

end Coverage
