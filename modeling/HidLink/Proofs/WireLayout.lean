/-
Where each byte stands on the wire.

A sender and a receiver that agree may still both be wrong, so the places are stated here
on their own: every one of the 65 positions of a report, and for a frame every position
that a field is read from.

What is worked out position by position is the reading alone.  A packet that was built is
the packet that its own frame is read as, so each of its fields stands in the frame where
it is read, and in the report one place further on.  Two things are not settled by that.
Reading drops the mark of an init frame, and it does not know where a payload ended and
the zeros behind it begin.
-/
import HidLink.Proofs.Packet

namespace HidLink

/-! ### The places -/

/-- A channel id behind the report id, and these bytes from `start` on with zeros behind them. -/
structure Report.Carries (r : Report) (cid : ChannelId) (start : Nat) (bytes : List UInt8) :
    Prop where
  reportId : r[0]? = some 0
  cid : ∀ (i : Nat) (h : i < 4), r[1 + i]? = some cid[i]
  payload : ∀ (i : Nat) (h : i < bytes.length), r[start + i]? = some bytes[i]
  zeros : ∀ i, start + bytes.length ≤ i → i ≤ 64 → r[i]? = some 0

/-- The report of an init packet with these fields. -/
structure Report.InitLayout (r : Report) (cid : ChannelId) (code : UInt8) (size : UInt16)
    (bytes : List UInt8) : Prop extends r.Carries cid 8 bytes where
  command : ∃ marker, r[5]? = some marker ∧ marker.toNat = 0x80 + code.toNat
  size : ∃ high low, r[6]? = some high ∧ r[7]? = some low ∧
    256 * high.toNat + low.toNat = size.toNat

/-- The report of a continuation with these fields. -/
structure Report.ContLayout (r : Report) (cid : ChannelId) (sequence : UInt8)
    (bytes : List UInt8) : Prop extends r.Carries cid 6 bytes where
  sequence : r[5]? = some sequence

/-- A channel id in front, and this payload from `start` on. -/
structure Frame.Carries {capacity : Nat} (f : Frame) (cid : ChannelId) (start : Nat)
    (payload : Vector UInt8 capacity) : Prop where
  cid : ∀ (i : Nat) (h : i < 4), f[i]? = some cid[i]
  payload : ∀ (i : Nat) (h : i < capacity), f[start + i]? = some payload[i]

/-- The fields of an init packet are the bytes of the frame at these positions. -/
structure InitPacket.ReadFrom (p : InitPacket) (f : Frame) : Prop
    extends f.Carries p.cid 7 p.payload where
  /-- The mark of the init frame is no part of the command. -/
  commandByte : ∃ marker, f[4]? = some marker ∧ p.commandByte.toNat = marker.toNat % 0x80
  /-- A byte that a command has is read as this command. -/
  declared : ∀ command : Command, command.byte = p.commandByte → p.command = command
  undeclared : (¬∃ command : Command, command.byte = p.commandByte) → p.command = .invalid
  size : ∃ high low, f[5]? = some high ∧ f[6]? = some low ∧
    p.size.toNat = 256 * high.toNat + low.toNat

/-- The fields of a continuation are the bytes of the frame at these positions. -/
structure ContPacket.ReadFrom (p : ContPacket) (f : Frame) : Prop
    extends f.Carries p.cid 5 p.payload where
  sequence : f[4]? = some p.sequence

/-! ### Reading -/

namespace Frame

theorem getElem?_marker (f : Frame) : f[4]? = some f.marker := rfl

theorem getElem?_field (f : Frame) {start width : Nat} (h : start + width ≤ 64) (i : Nat)
    (hi : i < width) : f[start + i]? = some (f.field start width h)[i] := by
  rw [getElem_field, Vector.getElem?_eq_getElem]

theorem carries_fields (f : Frame) {start width : Nat} (h : start + width ≤ 64) :
    f.Carries f.channelId start (f.field start width h) where
  cid := by
    intro i hi
    have hplace := f.getElem?_field (show 0 + 4 ≤ 64 by decide) i hi
    rwa [Nat.zero_add] at hplace
  payload := f.getElem?_field h

end Frame

namespace InitPacket

theorem readFrom_ofFrame (f : Frame) : (ofFrame f).ReadFrom f := by
  refine ⟨f.carries_fields (by decide), ?_, ?_, Command.ofByte_of_undeclared, ?_⟩
  · exact ⟨f.marker, f.getElem?_marker, FrameKind.toNat_unmark f.marker⟩
  · intro command hcommand
    rw [(consistent_ofFrame f).command_eq, ← hcommand, Command.ofByte_byte]
  · have hplace : ∀ i < 2, f[5 + i]? = (f.field 5 2).toList[i]? := fun i hi =>
      (f.getElem?_toList_field (show 5 + 2 ≤ 64 by decide) hi).symm
    rw [← sizeBytes_ofFrame, toList_sizeBytes] at hplace
    exact ⟨_, _, hplace 0 (by decide), hplace 1 (by decide), (toNat_sizeBytes _).symm⟩

/-- A packet that is read back stands in its own frame where it is read. -/
theorem readFrom_frame {p : InitPacket} (h : p.Consistent) : p.ReadFrom p.frame := by
  have hread := readFrom_ofFrame p.frame
  rwa [ofFrame_frame h] at hread

end InitPacket

namespace ContPacket

theorem readFrom_ofFrame (f : Frame) : (ofFrame f).ReadFrom f :=
  ⟨f.carries_fields (by decide), f.getElem?_marker⟩

theorem readFrom_frame (p : ContPacket) : p.ReadFrom p.frame := by
  have hread := readFrom_ofFrame p.frame
  rwa [ofFrame_frame] at hread

end ContPacket

/-! ### Writing -/

/--
What a frame carries, its report carries one place further on.  The payload fills the frame to
its end, so behind the bytes it was padded from there is nothing but zeros.
-/
theorem Frame.Carries.report {f : Frame} {cid : ChannelId} {start capacity : Nat}
    {payload : Vector UInt8 capacity} (h : f.Carries cid start payload)
    (hend : start + capacity = 64) {bytes : List UInt8} (hfits : bytes.length ≤ capacity)
    (hpadded : payload.toList = bytes ++ List.replicate (capacity - bytes.length) 0) :
    f.report.Carries cid (start + 1) bytes := by
  let given : Vector UInt8 bytes.length := ⟨bytes.toArray, rfl⟩
  obtain rfl : payload = Buffer.zeroPadded given hfits :=
    Vector.toList_inj.1 (hpadded.trans (Buffer.toList_zeroPadded given hfits).symm)
  have hbyte : ∀ i < capacity,
      f.report[start + 1 + i]? = some (if hin : i < bytes.length then bytes[i] else 0) := by
    intro i hi
    rw [Nat.add_right_comm, getElem?_report_succ, h.payload i hi, Buffer.getElem_zeroPadded]
    rfl
  refine ⟨?_, ?_, ?_, ?_⟩
  · rw [Vector.getElem?_eq_getElem (by decide)]
    exact congrArg some f.reportId_report
  · intro i hi
    rw [Nat.add_comm, getElem?_report_succ, h.cid i hi]
  · intro i hi
    rw [hbyte i (by omega), dif_pos hi]
  · intro i hlow hhigh
    obtain ⟨k, rfl⟩ := Nat.exists_eq_add_of_le (show start + 1 ≤ i by omega)
    rw [hbyte k (by omega), dif_neg (by omega)]

theorem InitPacket.BuiltFrom.initLayout {p : InitPacket} {cid : ChannelId} {code : UInt8}
    {size : UInt16} {bytes : List UInt8} (h : p.BuiltFrom cid code size bytes) :
    p.report.InitLayout cid code size bytes := by
  have hread := readFrom_frame h.consistent
  refine ⟨?_, ?_, ?_⟩
  · rw [← h.cid_eq]
    exact hread.toCarries.report rfl h.fits h.payload_eq
  · refine ⟨FrameKind.mark p.commandByte, ?_, ?_⟩
    · rw [report, Frame.getElem?_report_succ, Frame.getElem?_marker, marker_frame]
    · rw [FrameKind.toNat_mark _ h.consistent.commandByte_le, h.commandByte_eq]
  · obtain ⟨high, low, hhigh, hlow, hsize⟩ := hread.size
    rw [report, Frame.getElem?_report_succ, Frame.getElem?_report_succ, ← h.size_eq]
    exact ⟨high, low, hhigh, hlow, hsize.symm⟩

theorem ContPacket.BuiltFrom.contLayout {p : ContPacket} {cid : ChannelId} {sequence : UInt8}
    {bytes : List UInt8} (h : p.BuiltFrom cid sequence bytes) :
    p.report.ContLayout cid sequence bytes := by
  have hread := readFrom_frame p
  refine ⟨?_, ?_⟩
  · rw [← h.cid_eq]
    exact hread.toCarries.report rfl h.fits h.payload_eq
  · rw [← h.sequence_eq, report, Frame.getElem?_report_succ]
    exact hread.sequence

/--
**Every byte of a report, and every field of a frame, stands where the table has it.**

A build that succeeds was given bytes that fit, and these are the payload in its report.
A frame is read from the same positions by either decoder, whatever its kind.
-/
theorem fields_in_place :
    (∀ (cid : ChannelId) (code : UInt8) (size : UInt16) (payload : Buffer) (p : InitPacket),
      InitPacket.build cid code size payload = .ok p →
        ∃ bytes, payload.Holds bytes ∧ p.report.InitLayout cid code size bytes) ∧
    (∀ (cid : ChannelId) (sequence : UInt8) (payload : Buffer) (p : ContPacket),
      ContPacket.build cid sequence payload = .ok p →
        ∃ bytes, payload.Holds bytes ∧ p.report.ContLayout cid sequence bytes) ∧
    (∀ (data : Buffer) (f : Frame), data.Holds f.toList →
      (∃ p, InitPacket.decode data = .ok p ∧ p.ReadFrom f) ∧
      ∃ q, ContPacket.decode data = .ok q ∧ q.ReadFrom f) := by
  refine ⟨?_, ?_, ?_⟩
  · intro cid code size payload p hbuild
    obtain ⟨bytes, hholds, hp⟩ := InitPacket.build_eq_ok_iff.1 hbuild
    exact ⟨bytes, hholds, hp.initLayout⟩
  · intro cid sequence payload p hbuild
    obtain ⟨bytes, hholds, hp⟩ := ContPacket.build_eq_ok_iff.1 hbuild
    exact ⟨bytes, hholds, hp.contLayout⟩
  · intro data f hholds
    exact ⟨⟨_, InitPacket.decode_of_holds hholds, InitPacket.readFrom_ofFrame f⟩,
      ⟨_, ContPacket.decode_of_holds hholds, ContPacket.readFrom_ofFrame f⟩⟩

/-- A payload that ends in a zero, one that is empty, and a frame in which every bit is set. -/
theorem fields_in_place_short_and_all_ones :
    (∃ p, InitPacket.build Layout.broadcastChannel 0x01 0x0102 (.ofBytes [7, 0]) = .ok p ∧
      p.report.InitLayout Layout.broadcastChannel 0x01 0x0102 [7, 0]) ∧
    (∃ q, ContPacket.build Layout.broadcastChannel 0x7F (.absent 0) = .ok q ∧
      q.report.ContLayout Layout.broadcastChannel 0x7F []) ∧
    (∃ p, InitPacket.decode (.ofBytes (List.replicate 64 0xFF)) = .ok p ∧
      p.ReadFrom (Vector.replicate 64 0xFF)) := by
  obtain ⟨hinit, hcont, hdecode⟩ := fields_in_place
  refine ⟨?_, ?_, ?_⟩
  · obtain ⟨p, hp⟩ := InitPacket.exists_builtFrom Layout.broadcastChannel .ping 0x0102
      (show [(7 : UInt8), 0].length ≤ 57 by decide)
    have hbuild := InitPacket.build_ofBytes_eq_ok_iff.2 hp
    obtain ⟨bytes, hholds, hlayout⟩ := hinit _ _ _ _ p hbuild
    obtain rfl : bytes = [7, 0] := hholds.unique (Buffer.holds_ofBytes _)
    exact ⟨p, hbuild, hlayout⟩
  · obtain ⟨q, hq⟩ := ContPacket.exists_builtFrom Layout.broadcastChannel (UInt8.le_refl 0x7F)
      (show ([] : List UInt8).length ≤ 59 by decide)
    have hbuild := ContPacket.build_eq_ok_iff.2 ⟨[], Buffer.holds_absent, hq⟩
    obtain ⟨bytes, hholds, hlayout⟩ := hcont _ _ _ q hbuild
    obtain rfl : bytes = [] := hholds.unique Buffer.holds_absent
    exact ⟨q, hbuild, hlayout⟩
  · have hframe : (Vector.replicate 64 (0xFF : UInt8)).toList = List.replicate 64 0xFF :=
      Vector.toList_replicate
    exact (hdecode _ _ (hframe ▸ Buffer.holds_ofBytes (List.replicate 64 0xFF))).1

end HidLink
