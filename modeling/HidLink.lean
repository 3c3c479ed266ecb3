import HidLink.Buffer
import HidLink.ByteOrder
import HidLink.Command
import HidLink.Console
import HidLink.Decimal
import HidLink.Dump
import HidLink.ErrorCode
import HidLink.Frame
import HidLink.FrameKind
import HidLink.Hex
import HidLink.Layout
import HidLink.Main
import HidLink.Numeral
import HidLink.Packet
import HidLink.Packet.Cont
import HidLink.Packet.Init
import HidLink.Proofs.Accesses
import HidLink.Proofs.Arguments
import HidLink.Proofs.BigEndian
import HidLink.Proofs.Bounds
import HidLink.Proofs.Buffer
import HidLink.Proofs.Build
import HidLink.Proofs.ByteOrder
import HidLink.Proofs.Capacity
import HidLink.Proofs.Checks
import HidLink.Proofs.CommandLine
import HidLink.Proofs.Decimal
import HidLink.Proofs.Dump
import HidLink.Proofs.Hex
import HidLink.Proofs.HexCodec
import HidLink.Proofs.HexGroups
import HidLink.Proofs.History
import HidLink.Proofs.Lossless
import HidLink.Proofs.Numeral
import HidLink.Proofs.Origin
import HidLink.Proofs.Packet
import HidLink.Proofs.Reception
import HidLink.Proofs.Refusal
import HidLink.Proofs.Report
import HidLink.Proofs.RoundTrip
import HidLink.Proofs.Steps
import HidLink.Proofs.Stream
import HidLink.Proofs.Transmission
import HidLink.Proofs.WholeNumber
import HidLink.Proofs.WireLayout
import HidLink.Refusal
import HidLink.Session
import HidLink.Store
import HidLink.Stream
import HidLink.Text
