/-
What can be relied on in a packet that a slot holds.

A session puts packets into slots in four ways and copies them from slot to slot, and
what a decoder is given may be the report of any other stored packet, bent out of shape.
None of this has to be followed through the store.  Every slot goes back to one attempt,
through any number of copies, and what it holds is what that attempt came to: that is
the invariant, and it is all the induction over a session carries.  The rest is about
one attempt at a time, and holds whatever the store was when it was made.

A build takes the command and derives its byte, a decoder takes the byte and derives the
command; either way the two agree.  A sequence number is bounded only where it was
built, since a decoder may have read an init frame as a continuation.
-/
import HidLink.Proofs.Packet
import HidLink.Session

namespace HidLink

theorem Store.packet?_eq_some_iff {s : Store} {slot : Int} {p : Packet} :
    s.packet? slot = some p ↔ s.get? slot = some (.ok p) := by
  unfold packet?
  split
  · rename_i q hq
    rw [hq]
    simp
  · rename_i hnone
    refine ⟨?_, fun h => absurd h (hnone p)⟩
    intro h
    cases h

/-! ### Where the content of a slot comes from -/

/-- The attempt that the content of each slot goes back to, if the slot was ever filled. -/
abbrev Origins := Int → Option Attempt

namespace Session

/--
The origins after one operation.  A copy has the origin of what was copied, and an
operation that wants from a slot what the slot does not hold leaves everything alone.
-/
def trace (store : Store) (origins : Origins) : Request → Origins
  | .make attempt (some into) =>
      if (attempt.outcome? store).isSome then
        fun slot => if slot = into then some attempt else origins slot
      else origins
  | .copy source into =>
      if (store.get? source).isSome then
        fun slot => if slot = into then origins source else origins slot
      else origins
  | _ => origins

/-- The origins after operations that are carried out in their order. -/
def traces (s : Session) (origins : Origins) : List Request → Origins
  | [] => origins
  | request :: rest => (s.answer request).2.traces (trace s.store origins request) rest

/-- Every slot holds what the attempt it goes back to came to, on some store. -/
def Traced (store : Store) (origins : Origins) : Prop :=
  ∀ slot outcome, store.get? slot = some outcome →
    ∃ attempt earlier, origins slot = some attempt ∧ attempt.outcome? earlier = some outcome

theorem traced_empty : Traced .empty fun _ => none := by
  intro slot outcome h
  rw [Store.get?_empty] at h
  cases h

/-- Filling a slot keeps the others' origins and needs one for the slot. -/
theorem Traced.put {store : Store} {origins : Origins} (h : Traced store origins) {into : Int}
    {outcome : Outcome Packet} {origin : Option Attempt}
    (horigin : ∃ attempt earlier, origin = some attempt ∧ attempt.outcome? earlier = some outcome) :
    Traced (store.put into outcome) fun slot => if slot = into then origin else origins slot := by
  intro slot held hheld
  rw [Store.get?_put] at hheld
  by_cases hslot : slot = into
  · rw [if_pos hslot] at hheld
    cases hheld
    simpa only [if_pos hslot] using horigin
  · rw [if_neg hslot] at hheld
    simpa only [if_neg hslot] using h slot held hheld

theorem traced_perform {store : Store} {origins : Origins} (h : Traced store origins)
    (request : Request) : Traced (perform store request).2 (trace store origins request) := by
  cases request with
  | make attempt into =>
      cases hmade : attempt.outcome? store with
      | none =>
          cases into with
          | none => simpa only [perform, trace, hmade] using h
          | some into => simpa [perform, trace, hmade] using h
      | some outcome =>
          cases into with
          | none => simpa only [perform, trace, hmade, Store.keep] using h
          | some into =>
              simp only [perform, trace, hmade, Store.keep, Option.isSome_some, if_true]
              exact h.put ⟨attempt, store, rfl, hmade⟩
  | copy source into =>
      cases hheld : store.get? source with
      | none => simpa [perform, trace, hheld] using h
      | some outcome =>
          simp only [perform, trace, hheld, Option.isSome_some, if_true]
          exact h.put (h source outcome hheld)
  | look slot => exact h
  | frameKind data => exact h
  | decodeErrorCode b => exact h
  | renderHex data => exact h
  | parseHex text => exact h
  | parseDecimal text max => exact h
  | dump arguments => exact h

theorem traced_answers (requests : List Request) :
    ∀ (s : Session) (origins : Origins), Traced s.store origins →
      Traced (s.answers requests).2.store (s.traces origins requests) := by
  induction requests with
  | nil => intro s origins h; exact h
  | cons request rest ih =>
      intro s origins h
      exact ih (s.answer request).2 _ (traced_perform h request)

/-- The store after these operations, which started from nothing. -/
def storeAfter (requests : List Request) : Store := (answers {} requests).2.store

/-- The attempt that the content of a slot goes back to after these operations. -/
def originAfter (requests : List Request) (slot : Int) : Option Attempt :=
  traces {} (fun _ => none) requests slot

theorem exists_originAfter {requests : List Request} {slot : Int} {p : Packet}
    (h : (storeAfter requests).packet? slot = some p) :
    ∃ attempt earlier, originAfter requests slot = some attempt ∧
      attempt.outcome? earlier = some (.ok p) :=
  traced_answers requests {} _ traced_empty slot _ (Store.packet?_eq_some_iff.1 h)

end Session

/-! ### What an attempt guarantees -/

namespace Attempt

/-- What a successful attempt has made: a packet of its own kind, in its own way. -/
inductive Makes : Attempt → Packet → Prop where
  | buildInit {cid : ChannelId} {code : UInt8} {size : UInt16} {payload : Supply}
      {bytes : List UInt8} {p : InitPacket} (hbuilt : p.BuiltFrom cid code size bytes) :
      Makes (.buildInit cid code size payload) (.init p)
  | buildCont {cid : ChannelId} {sequence : UInt8} {payload : Supply} {bytes : List UInt8}
      {p : ContPacket} (hbuilt : p.BuiltFrom cid sequence bytes) :
      Makes (.buildCont cid sequence payload) (.cont p)
  | decodeInit (data : Supply) (f : Frame) : Makes (.decodeInit data) (.init (.ofFrame f))
  | decodeCont (data : Supply) (f : Frame) : Makes (.decodeCont data) (.cont (.ofFrame f))

theorem makes_of_outcome? {attempt : Attempt} {store : Store} {p : Packet}
    (h : attempt.outcome? store = some (.ok p)) : attempt.Makes p := by
  cases attempt with
  | buildInit cid code size payload =>
      obtain ⟨data, -, hdata⟩ := Option.map_eq_some_iff.1 h
      obtain ⟨q, hq, rfl⟩ := Outcome.map_eq_ok_iff.1 hdata
      obtain ⟨bytes, -, hbuilt⟩ := InitPacket.build_eq_ok_iff.1 hq
      exact .buildInit hbuilt
  | buildCont cid sequence payload =>
      obtain ⟨data, -, hdata⟩ := Option.map_eq_some_iff.1 h
      obtain ⟨q, hq, rfl⟩ := Outcome.map_eq_ok_iff.1 hdata
      obtain ⟨bytes, -, hbuilt⟩ := ContPacket.build_eq_ok_iff.1 hq
      exact .buildCont hbuilt
  | decodeInit data =>
      obtain ⟨buffer, -, hbuffer⟩ := Option.map_eq_some_iff.1 h
      obtain ⟨q, hq, rfl⟩ := Outcome.map_eq_ok_iff.1 hbuffer
      obtain ⟨f, -, rfl⟩ := Outcome.map_eq_ok_iff.1 hq
      exact .decodeInit data f
  | decodeCont data =>
      obtain ⟨buffer, -, hbuffer⟩ := Option.map_eq_some_iff.1 h
      obtain ⟨q, hq, rfl⟩ := Outcome.map_eq_ok_iff.1 hbuffer
      obtain ⟨f, -, rfl⟩ := Outcome.map_eq_ok_iff.1 hq
      exact .decodeCont data f

/-- The command and its byte agree, whichever of them the packet was made from. -/
theorem Makes.consistent {attempt : Attempt} {p : InitPacket} (h : attempt.Makes (.init p)) :
    p.Consistent := by
  cases h with
  | buildInit hbuilt => exact hbuilt.consistent
  | decodeInit data f => exact InitPacket.consistent_ofFrame f

/-- A continuation that was built can be told from an init frame. -/
theorem Makes.sequence_le {cid : ChannelId} {sequence : UInt8} {payload : Supply}
    {p : ContPacket} (h : Makes (.buildCont cid sequence payload) (.cont p)) :
    p.sequence ≤ 0x7F := by
  cases h with
  | buildCont hbuilt =>
      rw [hbuilt.sequence_eq]
      exact hbuilt.sequence_le

end Attempt

/-! ### What a stored packet guarantees -/

/--
**A packet in a slot is as good as the one that was put there first.**

Whatever was done before, its command agrees with its byte, its report is of its own kind
unless an init frame was read as a continuation, and reading that report gives the packet
back.
-/
theorem stored_packet (requests : List Request) (slot : Int) :
    (∀ p, (Session.storeAfter requests).packet? slot = some p →
      p.report.reportId = 0 ∧
      ∃ attempt earlier, Session.originAfter requests slot = some attempt ∧
        attempt.outcome? earlier = some (.ok p)) ∧
    (∀ p, (Session.storeAfter requests).packet? slot = some (.init p) →
      p.commandByte ≤ 0x7F ∧ p.command = Command.ofByte p.commandByte ∧
      ∀ data : Buffer, data.Holds (Frame.ofReport p.report).toList →
        data.frameKind = .ok .init ∧ InitPacket.decode data = .ok p) ∧
    (∀ p, (Session.storeAfter requests).packet? slot = some (.cont p) →
      (∀ cid sequence payload,
        Session.originAfter requests slot = some (.buildCont cid sequence payload) →
          p.sequence ≤ 0x7F) ∧
      ∀ data : Buffer, data.Holds (Frame.ofReport p.report).toList →
        (data.frameKind = .ok .continuation ↔ p.sequence ≤ 0x7F) ∧
        ContPacket.decode data = .ok p) := by
  refine ⟨?_, ?_, ?_⟩
  · intro p hp
    refine ⟨?_, Session.exists_originAfter hp⟩
    rw [Packet.report_eq]
    exact Frame.reportId_report p.frame
  · intro p hp
    obtain ⟨attempt, earlier, -, hattempt⟩ := Session.exists_originAfter hp
    have hconsistent := (Attempt.makes_of_outcome? hattempt).consistent
    refine ⟨hconsistent.commandByte_le, hconsistent.command_eq, ?_⟩
    intro data hdata
    exact ⟨InitPacket.frameKind_report hdata, InitPacket.decode_report hconsistent hdata⟩
  · intro p hp
    refine ⟨?_, ?_⟩
    · intro cid sequence payload horigin
      obtain ⟨attempt, earlier, hsame, hattempt⟩ := Session.exists_originAfter hp
      obtain rfl : attempt = .buildCont cid sequence payload := by
        rw [horigin] at hsame
        exact (Option.some.inj hsame).symm
      exact (Attempt.makes_of_outcome? hattempt).sequence_le
    · intro data hdata
      refine ⟨?_, ContPacket.decode_report hdata⟩
      rw [Buffer.frameKind_of_holds hdata, ContPacket.report, Frame.ofReport_report,
        ← ContPacket.kind_frame_eq_continuation_iff]
      exact ⟨Except.ok.inj, congrArg Except.ok⟩

/--
An init frame that was read as a continuation and copied on, which has a sequence number
that no build would have taken; and a continuation that was built, copied over the init
packet that was there before.
-/
theorem stored_packet_misread_and_built :
    let requests : List Request :=
      [.make (.buildInit Layout.broadcastChannel Command.ping.byte 2 (.given [7, 8] none)) (some 0),
        .make (.decodeCont (.stored 0 {} none)) (some 1), .copy 1 2,
        .make (.buildCont Layout.broadcastChannel 5 (.given [9] none)) (some 3), .copy 3 0]
    (∃ p, (Session.storeAfter requests).packet? 2 = some (.cont p) ∧ p.sequence = 0x81 ∧
      (Buffer.ofBytes (Frame.ofReport p.report).toList).frameKind ≠ .ok .continuation ∧
      ContPacket.decode (.ofBytes (Frame.ofReport p.report).toList) = .ok p) ∧
    ∃ p, (Session.storeAfter requests).packet? 0 = some (.cont p) ∧ p.sequence ≤ 0x7F := by
  intro requests
  let sent : InitPacket :=
    ⟨Layout.broadcastChannel, .ping, 1, 2, Buffer.zeroPadded #v[7, 8] (by decide)⟩
  let built : ContPacket := ⟨Layout.broadcastChannel, 5, Buffer.zeroPadded #v[9] (by decide)⟩
  have hmisread : (Session.storeAfter requests).packet? 2 = some (.cont (.ofFrame sent.frame)) := by
    decide +kernel
  have hbuilt : (Session.storeAfter requests).packet? 0 = some (.cont built) := by
    decide +kernel
  refine ⟨?_, built, hbuilt, ?_⟩
  · have hsequence : (ContPacket.ofFrame sent.frame).sequence = 0x81 :=
      (InitPacket.marker_frame sent).trans (by decide)
    obtain ⟨hkind, hdecode⟩ :=
      ((stored_packet requests 2).2.2 _ hmisread).2 _ (Buffer.holds_ofBytes _)
    refine ⟨_, hmisread, hsequence, ?_, hdecode⟩
    rw [Ne, hkind, hsequence]
    decide
  · have horigin : Session.originAfter requests 0
        = some (.buildCont Layout.broadcastChannel 5 (.given [9] none)) := by
      decide +kernel
    exact ((stored_packet requests 0).2.2 built hbuilt).1 _ _ _ horigin

end HidLink
