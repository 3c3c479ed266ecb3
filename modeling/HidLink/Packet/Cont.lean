/-
Continuation packets, which carry a message on.

A continuation names its channel, its place in the sequence and the next 59 bytes of
the message.  Sequence numbers that can be sent stop at 127, since a larger one would
put the mark of an init frame on the packet.  Reading does not look for that mark: it
takes the whole byte for the sequence number.
-/
import HidLink.Frame

namespace HidLink

/-- A packet that continues a message. -/
@[ext]
structure ContPacket where
  cid : ChannelId
  sequence : UInt8
  /-- All the room there is for payload, filled up with zeros. -/
  payload : Vector UInt8 59
  deriving DecidableEq, Repr

namespace ContPacket

/-- Builds the packet with this sequence number.  The number is checked first. -/
def build (cid : ChannelId) (sequence : UInt8) (payload : Buffer) : Outcome ContPacket :=
  if Layout.maxSequence < sequence then .refuse (.sequenceOutOfRange sequence)
  else
    (payload.payload .continuation Layout.contPayloadSize).map fun payload =>
      { cid, sequence, payload }

/-- The packet's frame: channel id, sequence number, payload. -/
def frame (p : ContPacket) : Frame :=
  (p.cid ++ #v[p.sequence] ++ p.payload).cast (by decide)

def report (p : ContPacket) : Report := p.frame.report

/-- Reads any frame as a continuation, whatever kind its marker gives it. -/
def ofFrame (f : Frame) : ContPacket where
  cid := f.channelId
  sequence := f.marker
  payload := f.field 5 59

def decode (data : Buffer) : Outcome ContPacket := data.frame.map ofFrame

/-- Where each byte of the frame comes from. -/
theorem getElem_frame (p : ContPacket) (i : Nat) (h : i < 64) :
    p.frame[i] =
      if hcid : i < 4 then p.cid[i]
      else if i = 4 then p.sequence
      else p.payload[i - 5] := by
  simp only [frame, Vector.getElem_cast, Vector.getElem_append]
  by_cases hcid : i < 4
  · simp [hcid, show i < 5 by omega]
  · by_cases hmark : i = 4
    · simp [hmark]
    · simp [hcid, hmark, show ¬ i < 5 by omega]

end ContPacket

end HidLink
