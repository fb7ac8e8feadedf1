import Coverage.FileTree
import Coverage.FunctionSpan
import Coverage.Main
import Coverage.Proofs.Decoding
import Coverage.Proofs.LoadOrder
import Coverage.Proofs.FormatIndependence
import Coverage.Proofs.Sharding
import Coverage.Proofs.SourceRoot
import Coverage.Proofs.Rejection
import Coverage.Proofs.TracefileMeaning
import Coverage.Proofs.Growth
import Coverage.Proofs.BlockGrammar
import Coverage.Proofs.ExportMeaning
import Coverage.Proofs.RegionSpan
import Coverage.Proofs.Reachability
import Coverage.Proofs.JsonWords
import Coverage.Proofs.JsonWriting
import Coverage.Proofs.BlockListing
import Coverage.Proofs.RegionIndependence
import Coverage.Proofs.Concatenation
import Coverage.Proofs.RegionCoverage
import Coverage.Proofs.Normalization
import Coverage.Proofs.DecodingFaults
import Coverage.Proofs.BatchLoading
import Coverage.Proofs.MissedRanges
import Coverage.Proofs.FunctionSpans
import Coverage.Proofs.Merging
import Coverage.Proofs.ReportContents
import Coverage.Proofs.PayloadGrammar
import Coverage.Proofs.BlockLine
import Coverage.Proofs.BelowRoot
import Coverage.Proofs.LineEnds
import Coverage.Proofs.OutsideRoot
import Coverage.Proofs.RecognisedLines
import Coverage.Proofs.RelativePath
import Coverage.Proofs.Grading
import Coverage.Proofs.RangesText
import Coverage.Proofs.RecordCuts
import Coverage.Proofs.SegmentReading
