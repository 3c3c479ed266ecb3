/-
What becomes of a frame on its way.

Straight from the sender to a receiver nothing is lost: whatever a packet was built
from, the receiver tells its kind, reads it as that kind and has the sender's values
again, with the payload filled up by zeros.

On the way there may be relays, which read a frame as a packet and write the packet out
again, and which may have taken it for a packet of the wrong kind.  A relay that reads
continuations changes nothing at all.  One that reads init packets can do one thing
only, which is to put on the mark of an init frame; and since a second such relay finds
the mark already there, any chain of relays does what its first init relay did.
-/
import HidLink.Proofs.Packet

namespace HidLink

/-! ### From the sender to a receiver -/

/--
**A receiver gets what a packet was built from.**

The build succeeds for every declared command and every sequence number without the mark,
as long as the payload fits, and it does so wherever the payload lies.  The receiver is
handed the report without its report id, again in any place.
-/
theorem received_as_built :
    (∀ (cid : ChannelId) (command : Command) (size : UInt16) (payload : Buffer)
        (bytes : List UInt8), payload.Holds bytes → bytes.length ≤ 57 →
      ∃ p, InitPacket.build cid command.byte size payload = .ok p ∧
        ∀ data : Buffer, data.Holds (Frame.ofReport p.report).toList →
          data.frameKind = .ok .init ∧
          ∃ q, InitPacket.decode data = .ok q ∧
            q.cid = cid ∧ q.command = command ∧ q.commandByte = command.byte ∧ q.size = size ∧
            q.payload.toList = bytes ++ List.replicate (57 - bytes.length) 0) ∧
    (∀ (cid : ChannelId) (sequence : UInt8) (payload : Buffer) (bytes : List UInt8),
        sequence ≤ 0x7F → payload.Holds bytes → bytes.length ≤ 59 →
      ∃ p, ContPacket.build cid sequence payload = .ok p ∧
        ∀ data : Buffer, data.Holds (Frame.ofReport p.report).toList →
          data.frameKind = .ok .continuation ∧
          ∃ q, ContPacket.decode data = .ok q ∧
            q.cid = cid ∧ q.sequence = sequence ∧
            q.payload.toList = bytes ++ List.replicate (59 - bytes.length) 0) := by
  refine ⟨?_, ?_⟩
  · intro cid command size payload bytes hholds hfits
    obtain ⟨p, hp⟩ := InitPacket.exists_builtFrom cid command size hfits
    refine ⟨p, InitPacket.build_eq_ok_iff.2 ⟨bytes, hholds, hp⟩, ?_⟩
    intro data hdata
    have hdecode := InitPacket.decode_report hp.consistent hdata
    have hcommand : p.command = command := Command.byte_inj.1 hp.command_byte
    exact ⟨InitPacket.frameKind_report hdata, p, hdecode, hp.cid_eq, hcommand,
      hp.commandByte_eq, hp.size_eq, hp.payload_eq⟩
  · intro cid sequence payload bytes hrange hholds hfits
    obtain ⟨p, hp⟩ := ContPacket.exists_builtFrom cid hrange hfits
    refine ⟨p, ContPacket.build_eq_ok_iff.2 ⟨bytes, hholds, hp⟩, ?_⟩
    intro data hdata
    have hkind := ContPacket.frameKind_report (by rw [hp.sequence_eq]; exact hrange) hdata
    exact ⟨hkind, p, ContPacket.decode_report hdata, hp.cid_eq, hp.sequence_eq, hp.payload_eq⟩

/-- An empty payload without data, and the highest sequence number with a zero in its payload. -/
theorem received_as_built_cancel_and_last :
    (∃ p, InitPacket.build Layout.broadcastChannel Command.cancel.byte 0 (.absent 0) = .ok p ∧
      (Buffer.ofBytes (Frame.ofReport p.report).toList).frameKind = .ok .init ∧
      ∃ q, InitPacket.decode (.ofBytes (Frame.ofReport p.report).toList) = .ok q ∧
        q.command = .cancel ∧ q.payload.toList = List.replicate 57 0) ∧
    (∃ p, ContPacket.build Layout.broadcastChannel 0x7F (.ofBytes [0xFF, 0]) = .ok p ∧
      (Buffer.ofBytes (Frame.ofReport p.report).toList).frameKind = .ok .continuation ∧
      ∃ q, ContPacket.decode (.ofBytes (Frame.ofReport p.report).toList) = .ok q ∧
        q.sequence = 0x7F ∧ q.payload.toList = [0xFF, 0] ++ List.replicate 57 0) := by
  obtain ⟨hinit, hcont⟩ := received_as_built
  refine ⟨?_, ?_⟩
  · obtain ⟨p, hp, hreceived⟩ := hinit Layout.broadcastChannel .cancel 0 (.absent 0) []
      Buffer.holds_absent (by decide)
    obtain ⟨hkind, q, hq, -, hcommand, -, -, hpayload⟩ := hreceived _ (Buffer.holds_ofBytes _)
    exact ⟨p, hp, hkind, q, hq, hcommand, hpayload⟩
  · obtain ⟨p, hp, hreceived⟩ := hcont Layout.broadcastChannel 0x7F (.ofBytes [0xFF, 0]) [0xFF, 0]
      (by decide) (Buffer.holds_ofBytes _) (by decide)
    obtain ⟨hkind, q, hq, -, hsequence, hpayload⟩ := hreceived _ (Buffer.holds_ofBytes _)
    exact ⟨p, hp, hkind, q, hq, hsequence, hpayload⟩

/-! ### Through a chain of relays -/

/-- A relay: it reads the frame as a packet of this kind and writes the packet out again. -/
def relay (kind : FrameKind) (f : Frame) : Outcome Frame :=
  match kind with
  | .init => (InitPacket.decode (.ofBytes f.toList)).map fun p => Frame.ofReport p.report
  | .continuation => (ContPacket.decode (.ofBytes f.toList)).map fun p => Frame.ofReport p.report

/-- A chain of relays, each of which gets the frame that the one before it wrote. -/
def forward : List FrameKind → Frame → Outcome Frame
  | [], f => .ok f
  | kind :: rest, f =>
      match relay kind f with
      | .error failure => .error failure
      | .ok g => forward rest g

theorem relay_init (f : Frame) : relay .init f = .ok f.marked := by
  have hdecode := InitPacket.decode_of_holds (Buffer.holds_ofBytes f.toList)
  rw [relay, hdecode]
  show Except.ok (Frame.ofReport (InitPacket.ofFrame f).report) = _
  rw [InitPacket.report, Frame.ofReport_report, InitPacket.frame_ofFrame]

theorem relay_continuation (f : Frame) : relay .continuation f = .ok f := by
  have hdecode := ContPacket.decode_of_holds (Buffer.holds_ofBytes f.toList)
  rw [relay, hdecode]
  show Except.ok (Frame.ofReport (ContPacket.ofFrame f).report) = _
  rw [ContPacket.report, Frame.ofReport_report, ContPacket.frame_ofFrame]

/-- A chain does what the first init relay in it does. -/
theorem forward_eq (hops : List FrameKind) :
    ∀ f : Frame, forward hops f = .ok (if .init ∈ hops then f.marked else f) := by
  induction hops with
  | nil => intro f; rfl
  | cons kind rest ih =>
      intro f
      rw [forward]
      rcases kind with _ | _
      · -- From here on the frame is marked, and a mark that is there stays as it is.
        rw [relay_init]
        show forward rest f.marked = _
        rw [ih, Frame.marked_of_init (Frame.kind_marked f), ite_self, if_pos (by simp)]
      · rw [relay_continuation]
        show forward rest f = _
        rw [ih]
        simp

/--
**No chain of relays loses a frame or changes more of it than its mark.**

The frame arrives as it was if no relay took it for an init frame or if it is one,
whatever its command byte is; else it arrives with the mark put on.
-/
theorem forwarded_frame (f : Frame) (hops : List FrameKind) :
    ∃ g, forward hops f = .ok g ∧
      ((.init ∉ hops ∨ (Buffer.ofBytes f.toList).frameKind = .ok .init) → g = f) ∧
      (¬(.init ∉ hops ∨ (Buffer.ofBytes f.toList).frameKind = .ok .init) →
        g.marker = f.marker ||| 0x80 ∧ ∀ (i : Nat) (h : i < 64), i ≠ 4 → g[i] = f[i]) := by
  rw [Buffer.frameKind_of_holds (Buffer.holds_ofBytes f.toList)]
  refine ⟨_, forward_eq hops f, ?_, ?_⟩
  · intro h
    rcases h with hhops | hkind
    · exact if_neg hhops
    · rw [Frame.marked_of_init (Except.ok.inj hkind), ite_self]
  · intro h
    have hhops : FrameKind.init ∈ hops :=
      Decidable.byContradiction fun hnot => h (Or.inl hnot)
    rw [if_pos hhops]
    refine ⟨?_, fun i hi hne => Frame.getElem_marked_ne f i hi hne⟩
    rw [Frame.marker_marked, UInt8.or_comm]
    rfl

end HidLink
