/-
The frame dump: a command line that takes frames apart and puts them together.

The arguments are read as a whole before anything is done, and when several are wrong
the complaint is about the one that is looked at first: the channel id even before the
mode is known, and the payload before the number that stands in front of it.  A job that
was understood can still be refused by the packets themselves; then their own line about
it comes first, and a line that names the error follows.
-/
import HidLink.Decimal
import HidLink.Hex
import HidLink.Packet

namespace HidLink.Dump

/-- How a run ends. -/
inductive ExitStatus where
  | success
  | failure
  deriving DecidableEq, Repr

def ExitStatus.code : ExitStatus → UInt32
  | success => 0
  | failure => 1

/-! ### Reading the arguments -/

/-- What the arguments ask for. -/
inductive Job where
  | decode (bytes : List UInt8)
  | buildInit (cid : ChannelId) (code : UInt8) (size : UInt16) (payload : List UInt8)
  | buildCont (cid : ChannelId) (sequence : UInt8) (payload : List UInt8)
  deriving DecidableEq, Repr

/-- What is wrong with the arguments. -/
inductive Complaint where
  | usage
  | frameNotHex
  | badChannelId
  | badCommand
  | payloadNotHex
  | badSize
  | badSequence
  deriving DecidableEq, Repr

namespace Complaint

def diagnostic : Complaint → List Item
  | usage =>
      [.ascii "Usage:\n",
        .ascii "  frame_dump decode <frame hex, 64 bytes>\n",
        .ascii "  frame_dump init <cid hex> <cmd hex> <bcnt> [payload hex]\n",
        .ascii "  frame_dump cont <cid hex> <seq> [payload hex]\n"]
  | frameNotHex => [.ascii "Frame is not valid hex\n"]
  | badChannelId =>
      [.ascii "Channel id must be ", .number Layout.channelIdSize, .ascii " hex bytes\n"]
  | badCommand => [.ascii "Command must be one hex byte\n"]
  | payloadNotHex => [.ascii "Payload is not valid hex\n"]
  | badSize => [.ascii "BCNT must be a decimal number 0-65535\n"]
  | badSequence => [.ascii "Sequence must be a decimal number 0-255\n"]

end Complaint

/-- Four bytes in hex. -/
def channelId? (text : Text) : Option ChannelId :=
  match Hex.parse? text with
  | none => none
  | some bytes => if h : bytes.length = 4 then some ⟨bytes.toArray, by simpa using h⟩ else none

/-- One byte in hex. -/
def oneByte? (text : Text) : Option UInt8 :=
  match Hex.parse? text with
  | some [b] => some b
  | _ => none

/-- The payload in hex, which may be left out; what stands behind it is ignored. -/
def payload? (rest : List Text) : Option (List UInt8) :=
  Hex.parse? (rest.head?.getD [])

/-- The arguments behind the channel id of an init frame: command, length, payload. -/
def readInit (cid : ChannelId) : List Text → Except Complaint Job
  | command :: size :: rest =>
      match oneByte? command with
      | none => .error .badCommand
      | some code =>
          match payload? rest with
          | none => .error .payloadNotHex
          | some payload =>
              match Decimal.parse? size 0xFFFF with
              | none => .error .badSize
              | some n => .ok (.buildInit cid code n.toUInt16 payload)
  | _ => .error .usage

/-- The arguments behind the channel id of a continuation: sequence number, payload. -/
def readCont (cid : ChannelId) : List Text → Except Complaint Job
  | sequence :: rest =>
      match payload? rest with
      | none => .error .payloadNotHex
      | some payload =>
          match Decimal.parse? sequence 0xFF with
          | none => .error .badSequence
          | some n => .ok (.buildCont cid n.toUInt8 payload)
  | _ => .error .usage

/-- The job that the arguments ask for.  The channel id is looked at before the mode is known. -/
def readArguments : List Text → Except Complaint Job
  | mode :: subject :: rest =>
      if mode = ascii "decode" then
        match Hex.parse? subject with
        | none => .error .frameNotHex
        | some bytes => .ok (.decode bytes)
      else
        match channelId? subject with
        | none => .error .badChannelId
        | some cid =>
            if mode = ascii "init" then readInit cid rest
            else if mode = ascii "cont" then readCont cid rest
            else .error .usage
  | _ => .error .usage

/-! ### Doing the job -/

/-- A run that ends with a diagnostic and has printed nothing. -/
def fail (message : List Item) : Spoken ExitStatus where
  result := .failure
  err := message

/-- One line of a result: a label and what it labels. -/
def field (label : String) (value : List Item) : List Item :=
  .ascii label :: value ++ [.ascii "\n"]

def initFields (p : InitPacket) : List Item :=
  field "CID:     " [.text (Hex.render p.cid.toList)]
    ++ field "Command: "
      [.text p.command.name, .ascii " (0x", .radix .hexadecimal, .number p.commandByte.toNat,
        .radix .decimal, .ascii ")"]
    ++ field "BCNT:    " [.number p.size.toNat]
    ++ field "Payload: " [.text (Hex.render p.payload.toList)]

def contFields (p : ContPacket) : List Item :=
  field "CID:     " [.text (Hex.render p.cid.toList)]
    ++ field "SEQ:     " [.number p.sequence.toNat]
    ++ field "Payload: " [.text (Hex.render p.payload.toList)]

/-- The last line of a run whose frame could not be taken apart. -/
def decodeFailed (failure : Failure) : List Item :=
  [.ascii "Decode failed: ", .text failure.message, .ascii "\n"]

/-- The last line of a run whose packet could not be put together. -/
def encodeFailed (failure : Failure) : List Item :=
  [.ascii "Encode failed: ", .text failure.message, .ascii "\n"]

/-- Shows the packet an operation came to, or tells why there is none: its own line, then ours. -/
def present {α : Type} (outcome : Outcome α) (failed : Failure → List Item)
    (fields : α → List Item) : Spoken ExitStatus :=
  match outcome with
  | .error failure => fail (failure.diagnostic ++ failed failure)
  | .ok packet => { result := .success, out := fields packet }

/--
Takes a frame apart.  The kind is printed as soon as it is known, before the frame is
read as a packet of that kind.
-/
def decode (data : Buffer) : Spoken ExitStatus :=
  match data.frameKind with
  | .error failure => fail (decodeFailed failure)
  | .ok kind =>
      let shown := match kind with
        | .init => present (InitPacket.decode data) decodeFailed initFields
        | .continuation => present (ContPacket.decode data) decodeFailed contFields
      { shown with out := field "Kind:    " [.text kind.name] ++ shown.out }

def reportField (r : Report) : List Item := field "Report: " [.text (Hex.render r.toList)]

def Job.perform : Job → Spoken ExitStatus
  | decode bytes => Dump.decode (Buffer.ofBytes bytes)
  | buildInit cid code size payload =>
      present (InitPacket.build cid code size (Buffer.ofBytes payload)) encodeFailed
        (reportField ·.report)
  | buildCont cid sequence payload =>
      present (ContPacket.build cid sequence (Buffer.ofBytes payload)) encodeFailed
        (reportField ·.report)

/-- A whole run, given the arguments behind the program's name. -/
def run (arguments : List Text) : Spoken ExitStatus :=
  match readArguments arguments with
  | .error complaint => fail complaint.diagnostic
  | .ok job => job.perform

/-! ### What is left of a run -/

/-- The exit code of a run and what stands on either stream behind it. -/
structure Transcript where
  code : UInt32
  out : Text
  err : Text
  deriving DecidableEq, Repr

/-- A run with streams of its own, which nothing was written to before. -/
def transcript (arguments : List Text) : Transcript :=
  let spoken := run arguments
  let console := Console.hear {} spoken
  { code := spoken.result.code, out := console.out.written, err := console.err.written }

end HidLink.Dump
