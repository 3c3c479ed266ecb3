/-
How long a message frames can carry.

A message that is too long for its init frame is cut into slices for continuations, and
the longest one fills 128 of these.  That no shorter message runs out of sequence numbers
is an induction over the slices, which carries how much room the numbers from the present
one on still have.  The other end needs no count of its own: it takes the payloads in the
order they arrive, zeros and all, and the length in the init frame says where the message
stops.  Only the last frame is filled up with zeros, and these stand behind the message.

No other way to cut a message carries more.  Each sequence number is accepted once at most
and none is larger than 127, so there are at most 128 continuations, however full they are.
-/
import HidLink.Proofs.Packet
import Mathlib.Data.List.Forall2
import Mathlib.Data.List.Nodup

namespace HidLink.Message

/-! ### Sending and receiving -/

/-- The parts of a message that are left for continuations, each of which takes 59 bytes. -/
def slices : List UInt8 → List (List UInt8)
  | [] => []
  | b :: rest => (b :: rest).take 59 :: slices ((b :: rest).drop 59)
termination_by message => message.length

/-- Builds the continuations with these payloads, which are numbered in their order. -/
def buildFrom (cid : ChannelId) (sequence : UInt8) : List Buffer → Outcome (List ContPacket)
  | [] => .ok []
  | payload :: rest =>
      match ContPacket.build cid sequence payload with
      | .error failure => .error failure
      | .ok packet => (buildFrom cid (sequence + 1) rest).map (packet :: ·)

/-- The payloads of frames that are read as continuations, one behind the other. -/
def payloads : List Buffer → Outcome (List UInt8)
  | [] => .ok []
  | data :: rest =>
      match ContPacket.decode data with
      | .error failure => .error failure
      | .ok packet => (payloads rest).map (packet.payload.toList ++ ·)

/-- The message in an init frame and the continuations behind it, which is as long as it says. -/
def assemble (first : Buffer) (rest : List Buffer) : Outcome (List UInt8) :=
  match InitPacket.decode first with
  | .error failure => .error failure
  | .ok packet =>
      (payloads rest).map fun behind => (packet.payload.toList ++ behind).take packet.size.toNat

/-- Each of the data holds the bytes that stand in its place. -/
abbrev AllHold : List Buffer → List (List UInt8) → Prop := List.Forall₂ Buffer.Holds

theorem allHold_ofBytes (byteStrings : List (List UInt8)) :
    AllHold (byteStrings.map .ofBytes) byteStrings :=
  List.forall₂_map_left_iff.2 (List.forall₂_same.2 fun bytes _ => Buffer.holds_ofBytes bytes)

/-! ### One slice after the other -/

theorem toNat_succ {sequence : UInt8} (h : sequence.toNat < 255) :
    (sequence + 1).toNat = sequence.toNat + 1 := by
  rw [UInt8.toNat_add]
  exact Nat.mod_eq_of_lt (Nat.succ_lt_succ h)

/-- A payload that does not fill its frame is the last one. -/
theorem padding_eq_nil_or (message : List UInt8) (capacity : Nat) :
    List.replicate (capacity - (message.take capacity).length) (0 : UInt8) = [] ∨
      message.drop capacity = [] := by
  by_cases hfull : capacity ≤ message.length
  · left
    simp [hfull]
  · right
    exact List.drop_of_length_le (by omega)

/-- What is put into frames comes out of them with zeros at the end. -/
theorem exists_take_padding_append (message : List UInt8) (capacity padding : Nat) :
    ∃ zeros,
      message.take capacity
          ++ List.replicate (capacity - (message.take capacity).length) 0
          ++ (message.drop capacity ++ List.replicate padding 0)
        = message ++ List.replicate zeros 0 := by
  rcases padding_eq_nil_or message capacity with hfull | hlast
  · refine ⟨padding, ?_⟩
    rw [hfull, List.append_nil, ← List.append_assoc, List.take_append_drop]
  · have hwhole : message.take capacity = message :=
      List.take_of_length_le (List.drop_eq_nil_iff.1 hlast)
    refine ⟨capacity - message.length + padding, ?_⟩
    rw [hlast, hwhole, List.nil_append, List.append_assoc, List.replicate_append_replicate]

theorem payloads_cons {q : ContPacket} {data : Buffer} {rest : List Buffer} {bytes : List UInt8}
    (hdata : data.Holds (Frame.ofReport q.report).toList) (hrest : payloads rest = .ok bytes) :
    payloads (data :: rest) = .ok (q.payload.toList ++ bytes) := by
  rw [payloads, ContPacket.decode_report hdata]
  show (payloads rest).map _ = _
  rw [hrest]
  rfl

theorem assemble_of_payloads {p : InitPacket} (hp : p.Consistent) {opening : Buffer}
    {behind : List Buffer} {bytes : List UInt8}
    (hopening : opening.Holds (Frame.ofReport p.report).toList)
    (hbehind : payloads behind = .ok bytes) :
    assemble opening behind = .ok ((p.payload.toList ++ bytes).take p.size.toNat) := by
  rw [assemble, InitPacket.decode_report hp hopening]
  show (payloads behind).map _ = _
  rw [hbehind]
  rfl

theorem buildFrom_cons {cid : ChannelId} {sequence : UInt8} {payload : Buffer}
    {rest : List Buffer} {q : ContPacket} {qs : List ContPacket}
    (hq : ContPacket.build cid sequence payload = .ok q)
    (hqs : buildFrom cid (sequence + 1) rest = .ok qs) :
    buildFrom cid sequence (payload :: rest) = .ok (q :: qs) := by
  rw [buildFrom, hq]
  show (buildFrom cid (sequence + 1) rest).map _ = _
  rw [hqs]
  rfl

/-- The bytes that go over the wire for these packets. -/
def frames (qs : List ContPacket) : List (List UInt8) :=
  qs.map fun q => (Frame.ofReport q.report).toList

/--
The slices of a message are accepted if there is room for them, and are found again in the
frames.  There is room for 59 bytes with every sequence number that is left.
-/
theorem exists_buildFrom (cid : ChannelId) (message : List UInt8) :
    ∀ (sequence : UInt8) (rest : List Buffer),
      59 * sequence.toNat + message.length ≤ 59 * 128 → AllHold rest (slices message) →
      ∃ qs padding, buildFrom cid sequence rest = .ok qs ∧
        ∀ data, AllHold data (frames qs) →
          payloads data = .ok (message ++ List.replicate padding 0) := by
  induction message using slices.induct with
  | case1 =>
      intro sequence rest hroom hrest
      rw [slices] at hrest
      cases hrest
      refine ⟨[], 0, rfl, fun data hdata => ?_⟩
      cases hdata
      rfl
  | case2 b rest ih =>
      intro sequence buffers hroom hbuffers
      rw [slices, AllHold, List.forall₂_cons_right_iff] at hbuffers
      obtain ⟨payload, later, hpayload, hlater, rfl⟩ := hbuffers
      rw [List.length_cons] at hroom
      have hrange : sequence ≤ 0x7F := UInt8.le_iff_toNat_le.2 (by
        show sequence.toNat ≤ 127
        omega)
      have hnext : (sequence + 1).toNat = sequence.toNat + 1 := toNat_succ (by omega)
      -- A short slice leaves nothing behind it, so there is room for that in any case.
      have hleft : 59 * (sequence + 1).toNat + ((b :: rest).drop 59).length ≤ 59 * 128 := by
        rw [hnext, List.length_drop, List.length_cons]
        omega
      obtain ⟨q, hq⟩ := ContPacket.exists_builtFrom cid hrange (List.length_take_le 59 (b :: rest))
      obtain ⟨qs, padding, hqs, hreceived⟩ := ih (sequence + 1) later hleft hlater
      obtain ⟨zeros, hzeros⟩ := exists_take_padding_append (b :: rest) 59 padding
      refine ⟨q :: qs, zeros,
        buildFrom_cons (ContPacket.build_eq_ok_iff.2 ⟨_, hpayload, hq⟩) hqs, ?_⟩
      intro data hdata
      rw [frames, List.map_cons, AllHold, List.forall₂_cons_right_iff] at hdata
      obtain ⟨opening, behind, hopening, hbehind, rfl⟩ := hdata
      rw [payloads_cons hopening (hreceived behind hbehind), hq.payload_eq, hzeros]

/-! ### No more than that -/

/-- Arguments that a continuation is built from. -/
structure Part where
  cid : ChannelId
  sequence : UInt8
  payload : Buffer

/-- The continuation is built. -/
def Part.Accepted (part : Part) : Prop :=
  ∃ q, ContPacket.build part.cid part.sequence part.payload = .ok q

theorem Part.Accepted.sequence_le {part : Part} (h : part.Accepted) :
    part.sequence.toNat ≤ 127 := by
  obtain ⟨q, hq⟩ := h
  obtain ⟨bytes, -, hbuilt⟩ := ContPacket.build_eq_ok_iff.1 hq
  exact UInt8.le_iff_toNat_le.1 hbuilt.sequence_le

theorem Part.Accepted.length_le {part : Part} (h : part.Accepted) :
    part.payload.length ≤ 59 := by
  obtain ⟨q, hq⟩ := h
  obtain ⟨bytes, hholds, hbuilt⟩ := ContPacket.build_eq_ok_iff.1 hq
  rw [hholds.length]
  exact hbuilt.fits

/-- The number of payload bytes in these parts. -/
def carried : List Part → Nat
  | [] => 0
  | part :: rest => part.payload.length + carried rest

theorem carried_le {parts : List Part} (h : ∀ part ∈ parts, part.Accepted) :
    carried parts ≤ 59 * parts.length := by
  induction parts with
  | nil => exact Nat.le_refl 0
  | cons part rest ih =>
      have hpart := (h part List.mem_cons_self).length_le
      have hrest := ih fun other hother => h other (List.mem_cons_of_mem part hother)
      rw [carried, List.length_cons]
      omega

/-- There are no more sequence numbers than 128 to choose from. -/
theorem length_le_of_nodup {parts : List Part} (h : ∀ part ∈ parts, part.Accepted)
    (hnodup : (parts.map (·.sequence)).Nodup) : parts.length ≤ 128 := by
  have hnumbers : ((parts.map (·.sequence)).map UInt8.toNat).Nodup :=
    hnodup.map fun _ _ => UInt8.toNat_inj.1
  have hsubset : (parts.map (·.sequence)).map UInt8.toNat ⊆ List.range 128 := by
    intro n hn
    simp only [List.mem_map] at hn
    obtain ⟨_, ⟨part, hpart, rfl⟩, rfl⟩ := hn
    exact List.mem_range.2 (Nat.lt_succ_of_le (h part hpart).sequence_le)
  simpa only [List.length_map, List.length_range] using hnumbers.length_le_of_subset hsubset

/-! ### The longest message -/

/-- An init frame and what comes behind it give back the message that they were built from. -/
theorem exists_build_assemble (cid : ChannelId) (command : Command) {message : List UInt8}
    (hsize : message.length ≤ Layout.maxMessageSize) {first : Buffer} {rest : List Buffer}
    (hfirst : first.Holds (message.take 57)) (hrest : AllHold rest (slices (message.drop 57))) :
    ∃ p qs,
      InitPacket.build cid command.byte (UInt16.ofNat message.length) first = .ok p ∧
      buildFrom cid 0 rest = .ok qs ∧
      ∀ opening behind, opening.Holds (Frame.ofReport p.report).toList →
        AllHold behind (frames qs) → assemble opening behind = .ok message := by
  have hbound : message.length ≤ 7609 := hsize
  obtain ⟨p, hp⟩ := InitPacket.exists_builtFrom cid command (UInt16.ofNat message.length)
    (List.length_take_le 57 message)
  obtain ⟨qs, padding, hqs, hreceived⟩ := exists_buildFrom cid (message.drop 57) 0 rest
    (by rw [List.length_drop, UInt8.toNat_zero]; omega) hrest
  refine ⟨p, qs, InitPacket.build_eq_ok_iff.2 ⟨_, hfirst, hp⟩, hqs, ?_⟩
  intro opening behind hopening hbehind
  obtain ⟨zeros, hzeros⟩ := exists_take_padding_append message 57 padding
  have hlength : p.size.toNat = message.length := by
    rw [hp.size_eq, UInt16.toNat_ofNat']
    exact Nat.mod_eq_of_lt (by omega)
  rw [assemble_of_payloads hp.consistent hopening (hreceived behind hbehind), hp.payload_eq, hzeros,
    hlength, List.take_left]

/--
**Frames carry every message up to the greatest length, and nothing longer.**

An init frame with the first 57 bytes and continuations with 59 bytes each are accepted in
their order, and the payloads of their frames, cut to the length that the init frame
gives, are the message.  Continuations that are all numbered differently take no more than
that together with an init frame, in whichever order they are built.
-/
theorem carries_up_to_maxMessageSize :
    (∀ (cid : ChannelId) (command : Command) (message : List UInt8) (first : Buffer)
      (rest : List Buffer), message.length ≤ Layout.maxMessageSize →
      first.Holds (message.take 57) → AllHold rest (slices (message.drop 57)) →
      ∃ p qs,
        InitPacket.build cid command.byte (UInt16.ofNat message.length) first = .ok p ∧
        buildFrom cid 0 rest = .ok qs ∧
        ∀ opening behind, opening.Holds (Frame.ofReport p.report).toList →
          AllHold behind (frames qs) → assemble opening behind = .ok message) ∧
    (∀ (cid : ChannelId) (code : UInt8) (size : UInt16) (first : Buffer) (parts : List Part),
      (∃ p, InitPacket.build cid code size first = .ok p) →
      (∀ part ∈ parts, part.Accepted) → (parts.map (·.sequence)).Nodup →
      first.length + carried parts ≤ Layout.maxMessageSize) := by
  refine ⟨?_, ?_⟩
  · intro cid command message first rest hsize hfirst hrest
    exact exists_build_assemble cid command hsize hfirst hrest
  · rintro cid code size first parts ⟨p, hp⟩ haccepted hnodup
    obtain ⟨bytes, hholds, hbuilt⟩ := InitPacket.build_eq_ok_iff.1 hp
    have hfirst : first.length ≤ 57 := by
      rw [hholds.length]
      exact hbuilt.fits
    have hcarried := carried_le haccepted
    have hcount := length_le_of_nodup haccepted hnodup
    show first.length + carried parts ≤ 7609
    omega

/-- A message of the greatest length; and continuations out of order, one of them empty. -/
theorem carries_up_to_maxMessageSize_longest :
    let message : List UInt8 := List.replicate Layout.maxMessageSize 0x5A
    let parts : List Part :=
      [⟨Layout.broadcastChannel, 127, .ofBytes [7, 8, 9]⟩, ⟨Layout.broadcastChannel, 0, .absent 0⟩]
    let first := Buffer.ofBytes (message.take 57)
    (∃ p qs,
      InitPacket.build Layout.broadcastChannel Command.ping.byte (UInt16.ofNat message.length) first
        = .ok p ∧
      buildFrom Layout.broadcastChannel 0 ((slices (message.drop 57)).map .ofBytes) = .ok qs ∧
      assemble (.ofBytes (Frame.ofReport p.report).toList) ((frames qs).map .ofBytes)
        = .ok message) ∧
    first.length + carried parts ≤ Layout.maxMessageSize := by
  intro message parts first
  obtain ⟨hcarries, hbound⟩ := carries_up_to_maxMessageSize
  obtain ⟨p, qs, hp, hqs, hassemble⟩ := hcarries Layout.broadcastChannel .ping message first _
    (Nat.le_of_eq List.length_replicate) (Buffer.holds_ofBytes _) (allHold_ofBytes _)
  have haccepted : ∀ part ∈ parts, part.Accepted :=
    List.forall_mem_cons.2 ⟨⟨_, rfl⟩, List.forall_mem_cons.2 ⟨⟨_, rfl⟩, List.forall_mem_nil _⟩⟩
  refine ⟨⟨p, qs, hp, hqs, hassemble _ _ (Buffer.holds_ofBytes _) (allHold_ofBytes _)⟩, ?_⟩
  exact hbound Layout.broadcastChannel _ _ first parts ⟨p, hp⟩ haccepted (by decide)

end HidLink.Message
