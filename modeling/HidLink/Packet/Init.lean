/-
Init packets, which open a message.

An init packet names its channel, the command, the length of the whole message, which
may go on in continuations, and the first 57 bytes of it.  Only declared commands can
be sent.  A received packet can hold any command byte, so a packet keeps the byte
besides the command it was taken for, and writing the packet out again uses the byte:
what was not understood is passed on unchanged.
-/
import HidLink.ByteOrder
import HidLink.Command
import HidLink.Frame

namespace HidLink

/-- The opening packet of a message. -/
@[ext]
structure InitPacket where
  cid : ChannelId
  command : Command
  /-- The command as it stands on the wire, without the mark of the init frame. -/
  commandByte : UInt8
  /-- The length of the whole message, not of the part in this packet. -/
  size : UInt16
  /-- All the room there is for payload, filled up with zeros. -/
  payload : Vector UInt8 57
  deriving DecidableEq, Repr

namespace InitPacket

/-- A length on the wire: two bytes, the more significant one first. -/
def sizeBytes (size : UInt16) : Vector UInt8 2 := ByteOrder.store .big size.toBitVec

/-- The length that two bytes on the wire stand for. -/
def sizeOfBytes (bytes : Vector UInt8 2) : UInt16 := UInt16.ofBitVec (ByteOrder.load .big bytes)

/-- Builds the packet for a command that is given by its byte.  The command is checked first. -/
def build (cid : ChannelId) (code : UInt8) (size : UInt16) (payload : Buffer) :
    Outcome InitPacket :=
  match Command.ofByte? code with
  | none => .refuse (.unknownCommand code)
  | some command =>
      (payload.payload .init Layout.initPayloadSize).map fun payload =>
        { cid, command, commandByte := command.byte, size, payload }

/-- The packet's frame: channel id, marked command, length, payload. -/
def frame (p : InitPacket) : Frame :=
  (p.cid ++ #v[FrameKind.mark p.commandByte] ++ sizeBytes p.size ++ p.payload).cast (by decide)

def report (p : InitPacket) : Report := p.frame.report

/-- Reads any frame as an init packet, whatever kind its marker gives it. -/
def ofFrame (f : Frame) : InitPacket where
  cid := f.channelId
  command := Command.ofByte (FrameKind.unmark f.marker)
  commandByte := FrameKind.unmark f.marker
  size := sizeOfBytes (f.field 5 2)
  payload := f.field 7 57

def decode (data : Buffer) : Outcome InitPacket := data.frame.map ofFrame

/-- Where each byte of the frame comes from. -/
theorem getElem_frame (p : InitPacket) (i : Nat) (h : i < 64) :
    p.frame[i] =
      if hcid : i < 4 then p.cid[i]
      else if i = 4 then FrameKind.mark p.commandByte
      else if hsize : i < 7 then (sizeBytes p.size)[i - 5]
      else p.payload[i - 7] := by
  simp only [frame, Vector.getElem_cast, Vector.getElem_append]
  by_cases hcid : i < 4
  · simp [hcid, show i < 5 by omega, show i < 7 by omega]
  · by_cases hmark : i = 4
    · simp [hmark]
    · by_cases hsize : i < 7
      · simp [hcid, hmark, hsize, show ¬ i < 5 by omega]
      · simp [hcid, hmark, hsize]

end InitPacket

end HidLink
