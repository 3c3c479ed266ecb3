/-
The byte layout of an authenticator's HID reports.

A report is 65 bytes: a report id that is always zero, then a 64-byte frame.  The
frame opens with a four-byte channel id, and the byte behind it says what follows.
With its top bit set it holds a command, and two length bytes and 57 bytes of
payload follow; with the bit clear it is the sequence number of a continuation,
and 59 bytes of payload follow.

Offsets here count from the start of the report, so a position in the frame is one
less.  Types elsewhere spell these sizes as numerals, since a size in a type is
read by arithmetic and not by name.
-/

namespace HidLink.Layout

/-! ### Sizes in bytes -/

abbrev reportSize : Nat := 65
abbrev frameSize : Nat := 64
abbrev channelIdSize : Nat := 4

/-- Channel id, command and message length. -/
abbrev initHeaderSize : Nat := 7

/-- Channel id and sequence number. -/
abbrev contHeaderSize : Nat := 5

abbrev initPayloadSize : Nat := frameSize - initHeaderSize
abbrev contPayloadSize : Nat := frameSize - contHeaderSize

/-! ### Offsets from the start of a report -/

abbrev reportIdOffset : Nat := 0
abbrev channelIdOffset : Nat := 1
abbrev commandOffset : Nat := 5
abbrev sequenceOffset : Nat := 5
abbrev lengthOffset : Nat := 6
abbrev initPayloadOffset : Nat := 8
abbrev contPayloadOffset : Nat := 6

/-! ### Values with a meaning of their own -/

/-- The bit that marks an init frame, in the byte behind the channel id. -/
abbrev initMark : UInt8 := 0x80

/-- The highest sequence number a continuation can carry without being read as an init frame. -/
abbrev maxSequence : UInt8 := 0x7F

/-- The longest message that one init frame and every continuation behind it can carry. -/
abbrev maxMessageSize : Nat :=
  initPayloadSize + (maxSequence.toNat + 1) * contPayloadSize

/-- The channel every device listens on before it has been given one of its own. -/
def broadcastChannel : Vector UInt8 4 := #v[0xFF, 0xFF, 0xFF, 0xFF]

end HidLink.Layout
