/-
Packets and frames turn into each other without loss.

A frame has a place for every field of a packet, and the fields fill it.  So reading
back a frame that a packet was written to gives the packet, and writing out a packet
that was read from a frame gives the frame.  Init packets meet this with one proviso in
either direction.  Their command is kept twice, so the two have to agree; and a frame
without the mark of an init frame gets it when it is written out again.

What a build makes of its arguments is said once here, as `BuiltFrom`, and everything
further about built packets is read off that.
-/
import HidLink.Packet
import HidLink.Proofs.Buffer
import HidLink.Proofs.ByteOrder

namespace HidLink

namespace Frame

/-! ### The marker -/

theorem kind_eq_init_iff {f : Frame} : f.kind = .init ↔ f.marker &&& 0x80 ≠ 0 := by
  show (if f.marker &&& 0x80 = 0 then FrameKind.continuation else FrameKind.init) = .init ↔ _
  by_cases h : f.marker &&& 0x80 = 0
  · simp [h]
  · simp [h]

theorem kind_eq_continuation_iff {f : Frame} : f.kind = .continuation ↔ f.marker ≤ 0x7F :=
  FrameKind.ofMarker_eq_continuation_iff f.marker

theorem kind_marked (f : Frame) : f.marked.kind = .init := by
  rw [kind, marker_marked, FrameKind.ofMarker_mark]

/-- An init frame has the mark already. -/
theorem marked_of_init {f : Frame} (h : f.kind = .init) : f.marked = f := by
  rw [marked, FrameKind.mark_of_init f.marker h]
  exact Vector.set_getElem_self (by decide)

/-! ### Fields -/

theorem getElem?_report_succ (f : Frame) (i : Nat) : f.report[i + 1]? = f[i]? := by
  by_cases h : i < 64
  · rw [Vector.getElem?_eq_getElem h, Vector.getElem?_eq_getElem (by omega),
      getElem_report_succ f i h]
  · rw [Vector.getElem?_eq_none (by omega), Vector.getElem?_eq_none (by omega)]

theorem getElem?_toList_field (f : Frame) {start width : Nat} (h : start + width ≤ 64) {i : Nat}
    (hi : i < width) : (f.field start width h).toList[i]? = f[start + i]? := by
  rw [Vector.getElem?_toList, Vector.getElem?_eq_getElem hi, Vector.getElem?_eq_getElem (by omega),
    getElem_field]

/-- Two fields side by side are one field. -/
theorem toList_field_add (f : Frame) (start m n : Nat) (h : start + (m + n) ≤ 64) :
    (f.field start (m + n) h).toList =
      (f.field start m (by omega)).toList ++ (f.field (start + m) n (by omega)).toList := by
  refine List.ext_getElem (by simp) fun i hi hi' => ?_
  rw [List.getElem_append]
  by_cases him : i < m
  · simp [him]
  · have hindex : start + m + (i - m) = start + i := by omega
    simp [him, hindex]

end Frame

namespace InitPacket

/-! ### The length of the message -/

/-- The more significant byte of a length stands first. -/
theorem toList_sizeBytes (size : UInt16) :
    (sizeBytes size).toList = [(size.toNat / 256).toUInt8, size.toNat.toUInt8] := rfl

theorem toNat_sizeBytes (size : UInt16) :
    256 * (size.toNat / 256).toUInt8.toNat + size.toNat.toUInt8.toNat = size.toNat := by
  have hlt := size.toNat_lt
  simp only [Nat.toUInt8_eq, UInt8.toNat_ofNat']
  omega

theorem sizeOfBytes_sizeBytes (size : UInt16) : sizeOfBytes (sizeBytes size) = size := by
  rw [sizeOfBytes, sizeBytes, ByteOrder.load_store]

theorem sizeBytes_sizeOfBytes (bytes : Vector UInt8 2) : sizeBytes (sizeOfBytes bytes) = bytes :=
  ByteOrder.store_load .big bytes

theorem sizeBytes_ofFrame (f : Frame) : sizeBytes (ofFrame f).size = f.field 5 2 :=
  sizeBytes_sizeOfBytes _

/-! ### Reading a written init packet -/

/-- The command is the one that its byte is read as. -/
structure Consistent (p : InitPacket) : Prop where
  commandByte_le : p.commandByte ≤ 0x7F
  command_eq : p.command = Command.ofByte p.commandByte

theorem consistent_ofFrame (f : Frame) : (ofFrame f).Consistent :=
  ⟨FrameKind.unmark_le f.marker, rfl⟩

theorem marker_frame (p : InitPacket) : p.frame.marker = FrameKind.mark p.commandByte := by
  rw [Frame.marker, getElem_frame]
  rfl

theorem kind_frame (p : InitPacket) : p.frame.kind = .init := by
  rw [Frame.kind, marker_frame, FrameKind.ofMarker_mark]

theorem channelId_frame (p : InitPacket) : p.frame.channelId = p.cid := by
  refine Vector.ext fun i hi => ?_
  rw [Frame.channelId, Frame.getElem_field, getElem_frame, dif_pos (by omega)]
  simp only [Nat.zero_add]

theorem field_frame_size (p : InitPacket) : p.frame.field 5 2 = sizeBytes p.size := by
  refine Vector.ext fun i hi => ?_
  rw [Frame.getElem_field, getElem_frame, dif_neg (by omega), if_neg (by omega),
    dif_pos (by omega)]
  simp only [Nat.add_sub_cancel_left]

theorem field_frame_payload (p : InitPacket) : p.frame.field 7 57 = p.payload := by
  refine Vector.ext fun i hi => ?_
  rw [Frame.getElem_field, getElem_frame, dif_neg (by omega), if_neg (by omega),
    dif_neg (by omega)]
  simp only [Nat.add_sub_cancel_left]

/-- **An init packet is read back from the frame it was written to.** -/
theorem ofFrame_frame {p : InitPacket} (h : p.Consistent) : ofFrame p.frame = p := by
  have hbyte : FrameKind.unmark p.frame.marker = p.commandByte := by
    rw [marker_frame, FrameKind.unmark_mark _ h.commandByte_le]
  rw [ofFrame, channelId_frame, field_frame_size, field_frame_payload, hbyte,
    sizeOfBytes_sizeBytes, ← h.command_eq]

/-- **A frame that was read as an init packet is written out with the mark put on.** -/
theorem frame_ofFrame (f : Frame) : (ofFrame f).frame = f.marked := by
  refine Vector.ext fun i hi => ?_
  by_cases hmarker : i = 4
  · subst hmarker
    have hmark : (ofFrame f).frame.marker = f.marked.marker := by
      rw [marker_frame, Frame.marker_marked]
      exact FrameKind.mark_unmark f.marker
    exact hmark
  rw [getElem_frame, Frame.getElem_marked_ne f i hi hmarker]
  by_cases hcid : i < 4
  · rw [dif_pos hcid]
    simp [ofFrame, Frame.channelId]
  rw [dif_neg hcid, if_neg hmarker]
  by_cases hsize : i < 7
  · have hindex : 5 + (i - 5) = i := by omega
    rw [dif_pos hsize]
    simp only [ofFrame, sizeBytes_sizeOfBytes, Frame.getElem_field, hindex]
  · have hindex : 7 + (i - 7) = i := by omega
    rw [dif_neg hsize]
    simp only [ofFrame, Frame.getElem_field, hindex]

theorem report_inj {p q : InitPacket} (hp : p.Consistent) (hq : q.Consistent) :
    p.report = q.report ↔ p = q := by
  refine ⟨fun h => ?_, fun h => h ▸ rfl⟩
  have hframe : p.frame = q.frame := Frame.report_inj.1 h
  rw [← ofFrame_frame hp, hframe, ofFrame_frame hq]

theorem decode_of_holds {data : Buffer} {f : Frame} (h : data.Holds f.toList) :
    decode data = .ok (ofFrame f) := by
  rw [decode, Buffer.frame_eq_ok_iff.2 h]
  rfl

theorem frameKind_report {p : InitPacket} {data : Buffer}
    (h : data.Holds (Frame.ofReport p.report).toList) : data.frameKind = .ok .init := by
  rw [Buffer.frameKind_of_holds h, report, Frame.ofReport_report, kind_frame]

theorem decode_report {p : InitPacket} (hp : p.Consistent) {data : Buffer}
    (h : data.Holds (Frame.ofReport p.report).toList) : decode data = .ok p := by
  rw [decode_of_holds h, report, Frame.ofReport_report, ofFrame_frame hp]

/-! ### What a build makes of its arguments -/

/-- The packet that these arguments are built into. -/
structure BuiltFrom (p : InitPacket) (cid : ChannelId) (code : UInt8) (size : UInt16)
    (payload : List UInt8) : Prop where
  cid_eq : p.cid = cid
  /-- The code has to be that of a declared command. -/
  command_byte : p.command.byte = code
  commandByte_eq : p.commandByte = code
  size_eq : p.size = size
  fits : payload.length ≤ 57
  payload_eq : p.payload.toList = payload ++ List.replicate (57 - payload.length) 0

/-- **A build succeeds exactly when there is a packet for its arguments, and makes that packet.** -/
theorem build_eq_ok_iff {cid : ChannelId} {code : UInt8} {size : UInt16} {payload : Buffer}
    {p : InitPacket} :
    build cid code size payload = .ok p ↔
      ∃ bytes, payload.Holds bytes ∧ p.BuiltFrom cid code size bytes := by
  unfold build
  refine ⟨fun h => ?_, ?_⟩
  · split at h
    · cases h
    · rename_i command hcommand
      obtain ⟨room, hroom, rfl⟩ := Outcome.map_eq_ok_iff.1 h
      obtain ⟨bytes, hholds, hfits, hpadded⟩ := Buffer.payload_eq_ok_iff.1 hroom
      have hcode := Command.ofByte?_eq_some_iff.1 hcommand
      exact ⟨bytes, hholds, rfl, hcode, hcode, rfl, hfits, hpadded⟩
  · rintro ⟨bytes, hholds, hp⟩
    rw [Command.ofByte?_eq_some_iff.2 hp.command_byte]
    refine Outcome.map_eq_ok_iff.2 ⟨p.payload, ?_, ?_⟩
    · exact Buffer.payload_eq_ok_iff.2 ⟨bytes, hholds, hp.fits, hp.payload_eq⟩
    · rw [← hp.cid_eq, ← hp.size_eq, hp.command_byte, ← hp.commandByte_eq]

theorem build_ofBytes_eq_ok_iff {cid : ChannelId} {code : UInt8} {size : UInt16}
    {payload : List UInt8} {p : InitPacket} :
    build cid code size (.ofBytes payload) = .ok p ↔ p.BuiltFrom cid code size payload := by
  rw [build_eq_ok_iff]
  refine ⟨?_, fun hp => ⟨payload, Buffer.holds_ofBytes payload, hp⟩⟩
  rintro ⟨bytes, hholds, hp⟩
  rwa [(Buffer.holds_ofBytes payload).unique hholds]

theorem BuiltFrom.consistent {p : InitPacket} {cid : ChannelId} {code : UInt8} {size : UInt16}
    {payload : List UInt8} (h : p.BuiltFrom cid code size payload) : p.Consistent := by
  have hbyte : p.commandByte = p.command.byte := by rw [h.commandByte_eq, h.command_byte]
  refine ⟨?_, ?_⟩
  · rw [hbyte]
    exact Command.byte_le p.command
  · rw [hbyte, Command.ofByte_byte]

theorem exists_builtFrom (cid : ChannelId) (command : Command) (size : UInt16)
    {payload : List UInt8} (h : payload.length ≤ 57) :
    ∃ p : InitPacket, p.BuiltFrom cid command.byte size payload := by
  let given : Vector UInt8 payload.length := ⟨payload.toArray, rfl⟩
  refine ⟨⟨cid, command, command.byte, size, Buffer.zeroPadded given h⟩, ?_⟩
  exact ⟨rfl, rfl, rfl, rfl, h, Buffer.toList_zeroPadded given h⟩

/-- What was read from a frame can be built again, if its command byte is declared. -/
theorem builtFrom_ofFrame {f : Frame} {command : Command}
    (h : command.byte = FrameKind.unmark f.marker) :
    (ofFrame f).BuiltFrom f.channelId (FrameKind.unmark f.marker) (ofFrame f).size
      (ofFrame f).payload.toList := by
  have hbyte : (ofFrame f).command.byte = FrameKind.unmark f.marker := by
    show (Command.ofByte (FrameKind.unmark f.marker)).byte = _
    rw [← h, Command.ofByte_byte]
  exact ⟨rfl, hbyte, rfl, rfl, by simp, by simp⟩

end InitPacket

namespace ContPacket

/-! ### Reading a written continuation -/

theorem marker_frame (p : ContPacket) : p.frame.marker = p.sequence := by
  rw [Frame.marker, getElem_frame]
  rfl

theorem kind_frame_eq_continuation_iff {p : ContPacket} :
    p.frame.kind = .continuation ↔ p.sequence ≤ 0x7F := by
  rw [Frame.kind, marker_frame, FrameKind.ofMarker_eq_continuation_iff]

theorem channelId_frame (p : ContPacket) : p.frame.channelId = p.cid := by
  refine Vector.ext fun i hi => ?_
  rw [Frame.channelId, Frame.getElem_field, getElem_frame, dif_pos (by omega)]
  simp only [Nat.zero_add]

theorem field_frame_payload (p : ContPacket) : p.frame.field 5 59 = p.payload := by
  refine Vector.ext fun i hi => ?_
  rw [Frame.getElem_field, getElem_frame, dif_neg (by omega), if_neg (by omega)]
  simp only [Nat.add_sub_cancel_left]

/-- **A continuation is read back from the frame it was written to.** -/
theorem ofFrame_frame (p : ContPacket) : ofFrame p.frame = p := by
  rw [ofFrame, channelId_frame, marker_frame, field_frame_payload]

/-- **A frame that was read as a continuation is written out as it was.** -/
theorem frame_ofFrame (f : Frame) : (ofFrame f).frame = f := by
  refine Vector.ext fun i hi => ?_
  rw [getElem_frame]
  by_cases hcid : i < 4
  · rw [dif_pos hcid]
    simp [ofFrame, Frame.channelId]
  rw [dif_neg hcid]
  by_cases hmarker : i = 4
  · subst hmarker
    rfl
  · have hindex : 5 + (i - 5) = i := by omega
    rw [if_neg hmarker]
    simp only [ofFrame, Frame.getElem_field, hindex]

theorem report_inj {p q : ContPacket} : p.report = q.report ↔ p = q := by
  refine ⟨fun h => ?_, fun h => h ▸ rfl⟩
  have hframe : p.frame = q.frame := Frame.report_inj.1 h
  rw [← ofFrame_frame p, hframe, ofFrame_frame q]

theorem decode_of_holds {data : Buffer} {f : Frame} (h : data.Holds f.toList) :
    decode data = .ok (ofFrame f) := by
  rw [decode, Buffer.frame_eq_ok_iff.2 h]
  rfl

theorem frameKind_report {p : ContPacket} (hp : p.sequence ≤ 0x7F) {data : Buffer}
    (h : data.Holds (Frame.ofReport p.report).toList) : data.frameKind = .ok .continuation := by
  rw [Buffer.frameKind_of_holds h, report, Frame.ofReport_report,
    kind_frame_eq_continuation_iff.2 hp]

theorem decode_report {p : ContPacket} {data : Buffer}
    (h : data.Holds (Frame.ofReport p.report).toList) : decode data = .ok p := by
  rw [decode_of_holds h, report, Frame.ofReport_report, ofFrame_frame]

/-! ### What a build makes of its arguments -/

structure BuiltFrom (p : ContPacket) (cid : ChannelId) (sequence : UInt8)
    (payload : List UInt8) : Prop where
  cid_eq : p.cid = cid
  sequence_eq : p.sequence = sequence
  sequence_le : sequence ≤ 0x7F
  fits : payload.length ≤ 59
  payload_eq : p.payload.toList = payload ++ List.replicate (59 - payload.length) 0

/-- **A build succeeds exactly when there is a packet for its arguments, and makes that packet.** -/
theorem build_eq_ok_iff {cid : ChannelId} {sequence : UInt8} {payload : Buffer}
    {p : ContPacket} :
    build cid sequence payload = .ok p ↔
      ∃ bytes, payload.Holds bytes ∧ p.BuiltFrom cid sequence bytes := by
  unfold build
  refine ⟨fun h => ?_, ?_⟩
  · split at h
    · cases h
    · rename_i hrange
      obtain ⟨room, hroom, rfl⟩ := Outcome.map_eq_ok_iff.1 h
      obtain ⟨bytes, hholds, hfits, hpadded⟩ := Buffer.payload_eq_ok_iff.1 hroom
      exact ⟨bytes, hholds, rfl, rfl, UInt8.not_lt.1 hrange, hfits, hpadded⟩
  · rintro ⟨bytes, hholds, hp⟩
    rw [if_neg (UInt8.not_lt.2 hp.sequence_le)]
    refine Outcome.map_eq_ok_iff.2 ⟨p.payload, ?_, ?_⟩
    · exact Buffer.payload_eq_ok_iff.2 ⟨bytes, hholds, hp.fits, hp.payload_eq⟩
    · rw [← hp.cid_eq, ← hp.sequence_eq]

theorem build_ofBytes_eq_ok_iff {cid : ChannelId} {sequence : UInt8} {payload : List UInt8}
    {p : ContPacket} :
    build cid sequence (.ofBytes payload) = .ok p ↔ p.BuiltFrom cid sequence payload := by
  rw [build_eq_ok_iff]
  refine ⟨?_, fun hp => ⟨payload, Buffer.holds_ofBytes payload, hp⟩⟩
  rintro ⟨bytes, hholds, hp⟩
  rwa [(Buffer.holds_ofBytes payload).unique hholds]

theorem exists_builtFrom (cid : ChannelId) {sequence : UInt8} (hrange : sequence ≤ 0x7F)
    {payload : List UInt8} (h : payload.length ≤ 59) :
    ∃ p : ContPacket, p.BuiltFrom cid sequence payload := by
  let given : Vector UInt8 payload.length := ⟨payload.toArray, rfl⟩
  refine ⟨⟨cid, sequence, Buffer.zeroPadded given h⟩, ?_⟩
  exact ⟨rfl, rfl, hrange, h, Buffer.toList_zeroPadded given h⟩

/-- What was read from a continuation can be built again. -/
theorem builtFrom_ofFrame {f : Frame} (h : f.kind = .continuation) :
    (ofFrame f).BuiltFrom f.channelId f.marker (ofFrame f).payload.toList :=
  ⟨rfl, rfl, Frame.kind_eq_continuation_iff.1 h, by simp, by simp⟩

end ContPacket

end HidLink
