import OnlineAssembler.Main
import OnlineAssembler.Service
import OnlineAssembler.Web.Respond
import OnlineAssembler.Proofs.Filter.Language
import OnlineAssembler.Proofs.Listing.Printed
import OnlineAssembler.Proofs.Service.Compilation
import OnlineAssembler.Proofs.Service.Session
import OnlineAssembler.Proofs.Text.Utf8
import OnlineAssembler.Proofs.CommandLine.Arguments
import OnlineAssembler.Proofs.CommandLine.Run
import OnlineAssembler.Proofs.Web.Respond
import OnlineAssembler.Proofs.FrontEnds
import OnlineAssembler.Proofs.Service.Ending
import OnlineAssembler.Proofs.CommandLine.Invocation
import OnlineAssembler.Proofs.Text.Lines
import OnlineAssembler.Proofs.Listing.Rule
import OnlineAssembler.Proofs.Listing.Contents
import OnlineAssembler.Proofs.Web.Envelope
import OnlineAssembler.Proofs.Filter.Marker
import OnlineAssembler.Proofs.Tools.Outcome
import OnlineAssembler.Proofs.Listing.Unindented
import OnlineAssembler.Proofs.Tools.Diagnostic
import OnlineAssembler.Proofs.Filter.Separator
import OnlineAssembler.Proofs.Filter.Order
import OnlineAssembler.Proofs.MachineCode.Rendering
import OnlineAssembler.Proofs.CommandLine.Record
import OnlineAssembler.Proofs.Listing.SymbolEnd
