import PartProgram.Command.Run
import PartProgram.Description
import PartProgram.Main
import PartProgram.Proofs.Recovery
import PartProgram.Proofs.Session.SharedFeed
import PartProgram.Proofs.Concatenation
import PartProgram.Proofs.SourceKinds
import PartProgram.Proofs.Json.Rebuilt
import PartProgram.Proofs.WellFormed
import PartProgram.Proofs.Envelope
import PartProgram.Proofs.Session.Apart
import PartProgram.Proofs.PrintedBack
import PartProgram.Proofs.Dialect.Reach
import PartProgram.Proofs.Log
import PartProgram.Proofs.Integer
import PartProgram.Proofs.Report.Whole
import PartProgram.Proofs.Dialect.Parameters
import PartProgram.Proofs.Command.AllOrNothing
import PartProgram.Proofs.Report.Rows
import PartProgram.Proofs.Json.Decoder
import PartProgram.Proofs.Json.Grammar
import PartProgram.Proofs.Json.Document
import PartProgram.Proofs.Text.Terminators
import PartProgram.Proofs.Failures
import PartProgram.Proofs.Spacing
import PartProgram.Proofs.Json.Validity
import PartProgram.Proofs.ParameterRange
import PartProgram.Proofs.Rewriting
import PartProgram.Proofs.Search
import PartProgram.Proofs.Lookup
import PartProgram.Proofs.Keywords
import PartProgram.Proofs.LiteralKinds
import PartProgram.Proofs.Report.Summary
import PartProgram.Proofs.Verbosity
