import Wirecall.Client
import Wirecall.Codec
import Wirecall.Crash
import Wirecall.DataType.Basic
import Wirecall.DataType.IntChain
import Wirecall.DataType.IntTree
import Wirecall.DataType.Wire
import Wirecall.DecodeError
import Wirecall.Decoder
import Wirecall.Descriptor.Basic
import Wirecall.Descriptor.Dump
import Wirecall.Descriptor.Equality
import Wirecall.Descriptor.Text
import Wirecall.Envelope
import Wirecall.Failure.Call
import Wirecall.Failure.Dispatch
import Wirecall.Failure.Install
import Wirecall.Failure.Raised
import Wirecall.Failure.Transport
import Wirecall.Heading
import Wirecall.Interface
import Wirecall.Key
import Wirecall.Layout.Record
import Wirecall.Layout.Variant
import Wirecall.Number.Binary64
import Wirecall.Number.Decimal
import Wirecall.Number.FloatText
import Wirecall.Number.Shortest
import Wirecall.Param
import Wirecall.Proofs.Acceptance
import Wirecall.Proofs.Agreement
import Wirecall.Proofs.ArgumentNames
import Wirecall.Proofs.Arguments
import Wirecall.Proofs.Conformance
import Wirecall.Proofs.Construction
import Wirecall.Proofs.Declarations
import Wirecall.Proofs.Describing
import Wirecall.Proofs.Dictionaries
import Wirecall.Proofs.Dispatching
import Wirecall.Proofs.FirstErrors
import Wirecall.Proofs.FirstOccurrences
import Wirecall.Proofs.FourDigitYears
import Wirecall.Proofs.LaterValues
import Wirecall.Proofs.Lockstep
import Wirecall.Proofs.Loopback
import Wirecall.Proofs.MapLookup
import Wirecall.Proofs.Publication
import Wirecall.Proofs.RaisingClients
import Wirecall.Proofs.RaisingHandlers
import Wirecall.Proofs.ReachableNames
import Wirecall.Proofs.ReadingOrder
import Wirecall.Proofs.RecordLayout
import Wirecall.Proofs.References
import Wirecall.Proofs.RemoteErrors
import Wirecall.Proofs.RoundTrip
import Wirecall.Proofs.Spelling
import Wirecall.Proofs.Termination
import Wirecall.Proofs.Verdicts
import Wirecall.Proofs.WholeSeconds
import Wirecall.Proofs.WrittenText
import Wirecall.Sample.Errors
import Wirecall.Sample.Methods
import Wirecall.Sample.Records
import Wirecall.Sample.Variants
import Wirecall.Server
import Wirecall.Signature
import Wirecall.Slot
import Wirecall.SortedMap
import Wirecall.Text.Blank
import Wirecall.Text.CaseTable
import Wirecall.Text.CodePoints
import Wirecall.Text.LowerCase
import Wirecall.Text.Quoted
import Wirecall.Text.VisibleTable
import Wirecall.Timestamp.Basic
import Wirecall.Timestamp.Text
import Wirecall.Transport
import Wirecall.Validator
import Wirecall.Value.Basic
import Wirecall.Value.Text
