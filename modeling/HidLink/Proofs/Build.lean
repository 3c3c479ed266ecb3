/-
What becomes of a build, whatever it is given.

A build can be asked for with several faults at once, and the caller learns of one of them.
Each kind of packet looks at its own field first, at the command or the sequence number,
and the payload is looked at last and alike for both kinds: whether there is any data
although some was announced, and then its length.  So what a build comes to is settled
from the pointer and the length alone once the field in front is good, and nothing is asked
of the data itself unless all of it fits.

No other difference between two payloads is seen.  One that is handed over as bytes and one
that lies anywhere else come to the same if they hold the same bytes, and an empty one
needs no data at all.
-/
import HidLink.Proofs.Packet
import HidLink.Proofs.Refusal

namespace HidLink

/-! ### What a caller learns -/

variable {α β : Type}

namespace Outcome

theorem map_eq_refuse_iff {f : α → β} {outcome : Outcome α} {refusal : Refusal} :
    outcome.map f = refuse refusal ↔ outcome = refuse refusal := by
  cases outcome with
  | error failure => simp [Except.map, refuse]
  | ok x => simp [Except.map, refuse]

/--
The operation is refused: the caller is told this error, and one line is written, which is
this sentence.
-/
def Refused (outcome : Outcome α) (error : Error) (sentence : Text) : Prop :=
  ∃ refusal, outcome = .refuse refusal ∧ refusal.error = error ∧
    Writes outcome.diagnostic (sentence ++ ascii "\n") ∧ Dump.newline ∉ sentence

theorem refused_refuse (refusal : Refusal) :
    (refuse refusal : Outcome α).Refused refusal.error refusal.sentence :=
  ⟨refusal, rfl, rfl, refusal.writes_diagnostic, refusal.newline_notMem_sentence⟩

/--
What a build comes to when only its payload is left to look at.  A missing payload counts
before its length does, and both are reported with the whole length that was announced.
-/
structure SettledByPayload (outcome : Outcome α) (kind : FrameKind) (capacity : Nat)
    (payload : Buffer) : Prop where
  missing : payload.Missing →
    outcome.Refused .malformedFrame (Refusal.missingPayload kind payload.length).sentence
  too_long : ¬payload.Missing → capacity < payload.length →
    outcome.Refused .payloadTooLarge
      (Refusal.payloadTooLong kind payload.length capacity).sentence
  fits : ¬payload.Missing → payload.length ≤ capacity → payload.Readable →
    (∃ packet, outcome = .ok packet) ∧ Writes outcome.diagnostic []

/-- A build that only puts the payload into its packet comes to just this. -/
theorem settledByPayload_map (payload : Buffer) (kind : FrameKind) (capacity : Nat)
    (packet : Vector UInt8 capacity → α) :
    SettledByPayload ((payload.payload kind capacity).map packet) kind capacity payload := by
  refine ⟨fun hmissing => ?_, fun hpresent hlong => ?_, fun hpresent hfits hreadable => ?_⟩
  · rw [Buffer.payload_of_missing hmissing]
    exact refused_refuse _
  · rw [Buffer.payload_of_too_long hpresent kind hlong]
    exact refused_refuse _
  · obtain ⟨bytes, hholds⟩ := hreadable.exists_holds hpresent
    rw [hholds.length] at hfits
    obtain ⟨v, hv⟩ := Buffer.payload_of_holds hholds kind hfits
    rw [hv]
    exact ⟨⟨packet v, rfl⟩, Writes.nil⟩

end Outcome

/-! ### The two kinds of packet -/

namespace InitPacket

theorem build_of_undeclared {code : UInt8} (h : ¬∃ command : Command, command.byte = code)
    (cid : ChannelId) (size : UInt16) (payload : Buffer) :
    build cid code size payload = .refuse (.unknownCommand code) := by
  rw [build, Command.ofByte?_eq_none_iff.2 h]

theorem build_of_declared (command : Command) (cid : ChannelId) (size : UInt16)
    (payload : Buffer) :
    build cid command.byte size payload =
      (payload.payload .init Layout.initPayloadSize).map fun payload =>
        { cid, command, commandByte := command.byte, size, payload } := by
  rw [build, Command.ofByte?_byte]
  rfl

/-- A build sees of its payload only the bytes that it holds. -/
theorem build_congr {a b : Buffer} {bytes : List UInt8} (ha : a.Holds bytes) (hb : b.Holds bytes)
    (cid : ChannelId) (code : UInt8) (size : UInt16) :
    build cid code size a = build cid code size b := by
  unfold build
  rw [Buffer.payload_congr ha hb]

theorem error_ne_malformedFrame {payload : Buffer} {bytes : List UInt8}
    (h : payload.Holds bytes) {cid : ChannelId} {code : UInt8} {size : UInt16} {refusal : Refusal}
    (hrefused : build cid code size payload = .refuse refusal) :
    refusal.error ≠ .malformedFrame := by
  by_cases hdeclared : ∃ command : Command, command.byte = code
  · obtain ⟨command, rfl⟩ := hdeclared
    rw [build_of_declared, Outcome.map_eq_refuse_iff] at hrefused
    rw [Buffer.error_of_holds h hrefused]
    decide
  · rw [build_of_undeclared hdeclared] at hrefused
    cases hrefused
    exact Error.noConfusion

end InitPacket

namespace ContPacket

theorem build_of_out_of_range {sequence : UInt8} (h : 0x7F < sequence) (cid : ChannelId)
    (payload : Buffer) :
    build cid sequence payload = .refuse (.sequenceOutOfRange sequence) := by
  rw [build, if_pos h]

theorem build_of_in_range {sequence : UInt8} (h : sequence ≤ 0x7F) (cid : ChannelId)
    (payload : Buffer) :
    build cid sequence payload =
      (payload.payload .continuation Layout.contPayloadSize).map fun payload =>
        { cid, sequence, payload } := by
  rw [build, if_neg (UInt8.not_lt.2 h)]
  rfl

/-- A build sees of its payload only the bytes that it holds. -/
theorem build_congr {a b : Buffer} {bytes : List UInt8} (ha : a.Holds bytes) (hb : b.Holds bytes)
    (cid : ChannelId) (sequence : UInt8) : build cid sequence a = build cid sequence b := by
  unfold build
  rw [Buffer.payload_congr ha hb]

theorem error_ne_malformedFrame {payload : Buffer} {bytes : List UInt8}
    (h : payload.Holds bytes) {cid : ChannelId} {sequence : UInt8} {refusal : Refusal}
    (hrefused : build cid sequence payload = .refuse refusal) :
    refusal.error ≠ .malformedFrame := by
  by_cases hrange : sequence ≤ 0x7F
  · rw [build_of_in_range hrange, Outcome.map_eq_refuse_iff] at hrefused
    rw [Buffer.error_of_holds h hrefused]
    decide
  · rw [build_of_out_of_range (UInt8.not_le.1 hrange)] at hrefused
    cases hrefused
    exact Error.noConfusion

end ContPacket

/-! ### All that a build can come to -/

/--
**A build comes to one of four things, and its arguments tell to which.**

The field in front is looked at first, then whether there is data, then how long it is, and
only a payload that passes has to be readable.  It makes no difference where bytes lie that
are there, and none whether an empty payload has data.
-/
theorem build_outcome :
    (∀ (cid : ChannelId) (code : UInt8) (size : UInt16) (payload : Buffer),
      ((¬∃ command : Command, command.byte = code) →
        (InitPacket.build cid code size payload).Refused .invalidCommand
          (Refusal.unknownCommand code).sentence) ∧
      ((∃ command : Command, command.byte = code) →
        (InitPacket.build cid code size payload).SettledByPayload .init 57 payload)) ∧
    (∀ (cid : ChannelId) (sequence : UInt8) (payload : Buffer),
      (0x7F < sequence →
        (ContPacket.build cid sequence payload).Refused .invalidSequence
          (Refusal.sequenceOutOfRange sequence).sentence) ∧
      (sequence ≤ 0x7F →
        (ContPacket.build cid sequence payload).SettledByPayload .continuation 59 payload)) ∧
    (∀ (payload : Buffer) (bytes : List UInt8), payload.Holds bytes →
      (∀ cid code size,
        InitPacket.build cid code size payload = InitPacket.build cid code size (.ofBytes bytes) ∧
        ∀ refusal, InitPacket.build cid code size payload = .refuse refusal →
          refusal.error ≠ .malformedFrame) ∧
      (∀ cid sequence,
        ContPacket.build cid sequence payload = ContPacket.build cid sequence (.ofBytes bytes) ∧
        ∀ refusal, ContPacket.build cid sequence payload = .refuse refusal →
          refusal.error ≠ .malformedFrame)) ∧
    (∀ payload payload' : Buffer, payload.length = 0 → payload'.length = 0 →
      (∀ cid code size,
        InitPacket.build cid code size payload = InitPacket.build cid code size payload') ∧
      (∀ cid sequence,
        ContPacket.build cid sequence payload = ContPacket.build cid sequence payload')) := by
  refine ⟨?_, ?_, ?_, ?_⟩
  · intro cid code size payload
    refine ⟨fun hundeclared => ?_, ?_⟩
    · rw [InitPacket.build_of_undeclared hundeclared]
      exact Outcome.refused_refuse _
    · rintro ⟨command, rfl⟩
      rw [InitPacket.build_of_declared]
      exact Outcome.settledByPayload_map payload .init 57 _
  · intro cid sequence payload
    refine ⟨fun hrange => ?_, fun hrange => ?_⟩
    · rw [ContPacket.build_of_out_of_range hrange]
      exact Outcome.refused_refuse _
    · rw [ContPacket.build_of_in_range hrange]
      exact Outcome.settledByPayload_map payload .continuation 59 _
  · intro payload bytes hholds
    have hbytes := Buffer.holds_ofBytes bytes
    refine ⟨fun cid code size => ⟨?_, fun refusal => ?_⟩, fun cid sequence => ⟨?_, fun refusal => ?_⟩⟩
    · exact InitPacket.build_congr hholds hbytes cid code size
    · exact InitPacket.error_ne_malformedFrame hholds
    · exact ContPacket.build_congr hholds hbytes cid sequence
    · exact ContPacket.error_ne_malformedFrame hholds
  · intro payload payload' hempty hempty'
    have hholds := Buffer.holds_of_length_eq_zero hempty
    have hholds' := Buffer.holds_of_length_eq_zero hempty'
    exact ⟨fun cid code size => InitPacket.build_congr hholds hholds' cid code size,
      fun cid sequence => ContPacket.build_congr hholds hholds' cid sequence⟩

/--
Faults that come together, a length that no memory has, and an empty payload without data.
-/
theorem build_outcome_huge_and_empty :
    (InitPacket.build Layout.broadcastChannel 0x02 0 (.absent 18446744073709551615)).Refused
      .invalidCommand (ascii "Refusing init frame with unknown command 0x2") ∧
    (InitPacket.build Layout.broadcastChannel Command.ping.byte 0
      (.absent 18446744073709551615)).Refused .malformedFrame
      (ascii "Init frame payload of 18446744073709551615 bytes has no data") ∧
    (ContPacket.build Layout.broadcastChannel 0x7F (.window [] 18446744073709551615)).Refused
      .payloadTooLarge
      (ascii "Continuation frame payload of 18446744073709551615 bytes exceeds 59") ∧
    ∃ packet, ContPacket.build Layout.broadcastChannel 0x7F (.absent 0) = .ok packet ∧
      ContPacket.build Layout.broadcastChannel 0x7F (.ofBytes []) = .ok packet := by
  obtain ⟨hinit, hcont, -, hempty⟩ := build_outcome
  refine ⟨?_, ?_, ?_, ?_⟩
  · have hundeclared : ¬∃ command : Command, command.byte = 0x02 := by
      rintro ⟨command, hbyte⟩
      cases command <;> cases hbyte
    have hsentence : (Refusal.unknownCommand 0x02).sentence
        = ascii "Refusing init frame with unknown command 0x2" := by decide +kernel
    rw [← hsentence]
    exact (hinit _ 0x02 0 _).1 hundeclared
  · have hmissing : (Buffer.absent 18446744073709551615).Missing := ⟨rfl, by decide⟩
    have hsentence : (Refusal.missingPayload .init 18446744073709551615).sentence
        = ascii "Init frame payload of 18446744073709551615 bytes has no data" := by decide +kernel
    rw [← hsentence]
    exact ((hinit _ _ 0 _).2 ⟨.ping, rfl⟩).missing hmissing
  · have hpresent : ¬(Buffer.window [] 18446744073709551615).Missing := fun h => nomatch h.1
    have hsentence : (Refusal.payloadTooLong .continuation 18446744073709551615 59).sentence
        = ascii "Continuation frame payload of 18446744073709551615 bytes exceeds 59" := by
      decide +kernel
    rw [← hsentence]
    exact ((hcont _ 0x7F _).2 (by decide)).too_long hpresent (by decide)
  · have hpresent : ¬(Buffer.absent 0).Missing := fun h => absurd h.2 (by decide)
    have hreadable : (Buffer.absent 0).Readable := fun memory h => nomatch h
    obtain ⟨⟨packet, hpacket⟩, -⟩ :=
      ((hcont Layout.broadcastChannel 0x7F _).2 (by decide)).fits hpresent (by decide) hreadable
    exact ⟨packet, hpacket, ((hempty (.ofBytes []) _ rfl rfl).2 _ _).trans hpacket⟩

end HidLink
