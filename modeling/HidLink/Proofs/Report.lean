/-
Which reports can be built, and what tells two of them apart.

A report can be built as an init packet or as a continuation exactly when its report id
is zero and the byte behind the channel id allows it; every other byte is free, since
some field of the packet reaches it.  What no build comes to is an init frame with a
byte that is no command's.

A report does not keep apart everything that it can be built from, for a payload gets
zeros behind it and may have ended in zeros itself.  That is all that is lost: the kind,
the fields and the payload up to such zeros can be told from the report.
-/
import HidLink.Proofs.Packet

namespace HidLink

/-! ### The reports that can be built -/

/-- Some arguments build an init packet with this report. -/
def Report.IsInit (r : Report) : Prop :=
  ∃ cid code size payload p, InitPacket.build cid code size payload = .ok p ∧ p.report = r

/-- Some arguments build a continuation with this report. -/
def Report.IsCont (r : Report) : Prop :=
  ∃ cid sequence payload p, ContPacket.build cid sequence payload = .ok p ∧ p.report = r

/--
The fields of an init packet fill its frame, so any init frame is written by the packet
that is read from it, and that packet can be built when its command byte is declared.
-/
theorem isInit_report_iff {f : Frame} :
    f.report.IsInit ↔
      f.kind = .init ∧ ∃ c : Command, c.byte = FrameKind.unmark f.marker := by
  refine ⟨?_, ?_⟩
  · intro h
    obtain ⟨cid, code, size, payload, p, hbuild, hreport⟩ := h
    obtain ⟨bytes, -, hp⟩ := InitPacket.build_eq_ok_iff.1 hbuild
    obtain rfl : p.frame = f := Frame.report_inj.1 hreport
    refine ⟨p.kind_frame, p.command, ?_⟩
    rw [p.marker_frame, FrameKind.unmark_mark _ hp.consistent.commandByte_le,
      hp.command_byte, hp.commandByte_eq]
  · intro h
    obtain ⟨hkind, c, hc⟩ := h
    refine ⟨_, _, _, .ofBytes _, _, InitPacket.build_eq_ok_iff.2
      ⟨_, Buffer.holds_ofBytes _, InitPacket.builtFrom_ofFrame hc⟩, ?_⟩
    rw [InitPacket.report, InitPacket.frame_ofFrame, Frame.marked_of_init hkind]

theorem isCont_report_iff {f : Frame} : f.report.IsCont ↔ f.kind = .continuation := by
  refine ⟨?_, ?_⟩
  · intro h
    obtain ⟨cid, sequence, payload, p, hbuild, hreport⟩ := h
    obtain ⟨bytes, -, hp⟩ := ContPacket.build_eq_ok_iff.1 hbuild
    obtain rfl : p.frame = f := Frame.report_inj.1 hreport
    rw [ContPacket.kind_frame_eq_continuation_iff, hp.sequence_eq]
    exact hp.sequence_le
  · intro hkind
    refine ⟨_, _, .ofBytes _, _, ContPacket.build_eq_ok_iff.2
      ⟨_, Buffer.holds_ofBytes _, ContPacket.builtFrom_ofFrame hkind⟩, ?_⟩
    rw [ContPacket.report, ContPacket.frame_ofFrame]

theorem zero_of_built {r : Report} (h : r.IsInit ∨ r.IsCont) : r.reportId = 0 := by
  rcases h with ⟨_, _, _, _, p, -, rfl⟩ | ⟨_, _, _, p, -, rfl⟩
  · exact Frame.reportId_report p.frame
  · exact Frame.reportId_report p.frame

theorem isInit_iff {r : Report} :
    r.IsInit ↔ r.reportId = 0 ∧ r.marker &&& 0x80 ≠ 0 ∧ ∃ c : Command, c.byte = r.marker &&& 0x7F := by
  by_cases hzero : r.reportId = 0
  · obtain ⟨f, rfl⟩ := Frame.exists_report_eq_iff.2 hzero
    rw [isInit_report_iff, Frame.kind_eq_init_iff, Frame.marker_report]
    exact (and_iff_right hzero).symm
  · exact ⟨fun h => absurd (zero_of_built (Or.inl h)) hzero, fun h => absurd h.1 hzero⟩

theorem isCont_iff {r : Report} : r.IsCont ↔ r.reportId = 0 ∧ r.marker ≤ 0x7F := by
  by_cases hzero : r.reportId = 0
  · obtain ⟨f, rfl⟩ := Frame.exists_report_eq_iff.2 hzero
    rw [isCont_report_iff, Frame.kind_eq_continuation_iff, Frame.marker_report]
    exact (and_iff_right hzero).symm
  · exact ⟨fun h => absurd (zero_of_built (Or.inr h)) hzero, fun h => absurd h.1 hzero⟩

theorem exists_built_iff {f : Frame} :
    (∃ r : Report, (r.IsInit ∨ r.IsCont) ∧ Frame.ofReport r = f) ↔
      f.report.IsInit ∨ f.report.IsCont := by
  refine ⟨?_, fun h => ⟨f.report, h, Frame.ofReport_report f⟩⟩
  intro h
  obtain ⟨r, hbuilt, rfl⟩ := h
  rw [Frame.report_ofReport (zero_of_built hbuilt)]
  exact hbuilt

/--
**Two bytes tell whether a report can be built.**

No report can be built as both kinds, and the frames left over are the init frames whose
command byte is not declared.
-/
theorem built_reports :
    (∀ r : Report,
      r.IsInit ↔ r.reportId = 0 ∧ r.marker &&& 0x80 ≠ 0 ∧ ∃ c : Command, c.byte = r.marker &&& 0x7F) ∧
    (∀ r : Report, r.IsCont ↔ r.reportId = 0 ∧ r.marker ≤ 0x7F) ∧
    (∀ r : Report, ¬(r.IsInit ∧ r.IsCont)) ∧
    (∀ f : Frame, (¬∃ r : Report, (r.IsInit ∨ r.IsCont) ∧ Frame.ofReport r = f) ↔
      f.marker &&& 0x80 ≠ 0 ∧ ¬∃ c : Command, c.byte = f.marker &&& 0x7F) := by
  refine ⟨fun r => isInit_iff, fun r => isCont_iff, ?_, ?_⟩
  · intro r h
    obtain ⟨hinit, hcont⟩ := h
    obtain ⟨f, rfl⟩ := Frame.exists_report_eq_iff.2 (zero_of_built (Or.inl hinit))
    have hkind := (isInit_report_iff.1 hinit).1
    rw [isCont_report_iff.1 hcont] at hkind
    cases hkind
  · intro f
    rw [exists_built_iff, isInit_report_iff, isCont_report_iff, ← Frame.kind_eq_init_iff]
    show _ ↔ f.kind = .init ∧ ¬∃ c : Command, c.byte = FrameKind.unmark f.marker
    rcases hkind : f.kind with _ | _
    · simp
    · simp

/-! ### Reports that are the same -/

/-- The arguments of a build, for a packet of either kind. -/
inductive Draft where
  | init (cid : ChannelId) (code : UInt8) (size : UInt16) (payload : Buffer)
  | cont (cid : ChannelId) (sequence : UInt8) (payload : Buffer)

def Draft.build : Draft → Outcome Packet
  | init cid code size payload => (InitPacket.build cid code size payload).map .init
  | cont cid sequence payload => (ContPacket.build cid sequence payload).map .cont

/-- One of the two byte strings is the other with zeros behind it. -/
def SameUpToZeros (xs ys : List UInt8) : Prop :=
  ∃ n, xs = ys ++ List.replicate n 0 ∨ ys = xs ++ List.replicate n 0

/-- The two drafts are of one kind and agree in all fields, and in what their payloads hold. -/
def Draft.Agree : Draft → Draft → Prop
  | init cid code size payload, init cid' code' size' payload' =>
      cid = cid' ∧ code = code' ∧ size = size' ∧
        ∃ xs ys, payload.Holds xs ∧ payload'.Holds ys ∧ SameUpToZeros xs ys
  | cont cid sequence payload, cont cid' sequence' payload' =>
      cid = cid' ∧ sequence = sequence' ∧
        ∃ xs ys, payload.Holds xs ∧ payload'.Holds ys ∧ SameUpToZeros xs ys
  | init .., cont .. => False
  | cont .., init .. => False

theorem padded_append_zeros {xs : List UInt8} {k capacity : Nat}
    (h : (xs ++ List.replicate k 0).length ≤ capacity) :
    (xs ++ List.replicate k 0) ++
        List.replicate (capacity - (xs ++ List.replicate k 0).length) 0
      = xs ++ List.replicate (capacity - xs.length) (0 : UInt8) := by
  rw [List.length_append, List.length_replicate] at h ⊢
  rw [List.append_assoc, List.replicate_append_replicate]
  congr 2
  omega

theorem eq_append_zeros_of_padded_eq {xs ys : List UInt8} {m n : Nat}
    (hle : ys.length ≤ xs.length) (hlen : xs.length ≤ ys.length + n)
    (h : xs ++ List.replicate m 0 = ys ++ List.replicate n 0) :
    xs = ys ++ List.replicate (xs.length - ys.length) 0 := by
  have htake := congrArg (List.take xs.length) h
  rw [List.take_left, List.take_append, List.take_of_length_le hle, List.take_replicate,
    Nat.min_eq_left (by omega)] at htake
  exact htake

/-- Zeros up to the same length make two byte strings equal that differ in zeros only. -/
theorem padded_eq_iff {xs ys : List UInt8} {capacity : Nat} (hx : xs.length ≤ capacity)
    (hy : ys.length ≤ capacity) :
    xs ++ List.replicate (capacity - xs.length) 0 = ys ++ List.replicate (capacity - ys.length) 0
      ↔ SameUpToZeros xs ys := by
  refine ⟨?_, ?_⟩
  · intro h
    rcases Nat.le_total ys.length xs.length with hle | hle
    · exact ⟨_, Or.inl (eq_append_zeros_of_padded_eq hle (by omega) h)⟩
    · exact ⟨_, Or.inr (eq_append_zeros_of_padded_eq hle (by omega) h.symm)⟩
  · intro h
    rcases h with ⟨k, rfl | rfl⟩
    · exact padded_append_zeros hx
    · exact (padded_append_zeros hy).symm

theorem InitPacket.BuiltFrom.eq_iff {p q : InitPacket} {cid cid' : ChannelId}
    {code code' : UInt8} {size size' : UInt16} {xs ys : List UInt8}
    (hp : p.BuiltFrom cid code size xs) (hq : q.BuiltFrom cid' code' size' ys) :
    p = q ↔ cid = cid' ∧ code = code' ∧ size = size' ∧ SameUpToZeros xs ys := by
  rw [← padded_eq_iff hp.fits hq.fits, ← hp.payload_eq, ← hq.payload_eq, Vector.toList_inj]
  rw [← hp.cid_eq, ← hq.cid_eq, ← hp.size_eq, ← hq.size_eq]
  refine ⟨?_, ?_⟩
  · intro h
    subst h
    exact ⟨rfl, hp.commandByte_eq.symm.trans hq.commandByte_eq, rfl, rfl⟩
  · intro h
    obtain ⟨hcid, rfl, hsize, hpayload⟩ := h
    have hcommand := Command.byte_inj.1 (hp.command_byte.trans hq.command_byte.symm)
    have hbyte := hp.commandByte_eq.trans hq.commandByte_eq.symm
    exact InitPacket.ext hcid hcommand hbyte hsize hpayload

theorem ContPacket.BuiltFrom.eq_iff {p q : ContPacket} {cid cid' : ChannelId}
    {sequence sequence' : UInt8} {xs ys : List UInt8}
    (hp : p.BuiltFrom cid sequence xs) (hq : q.BuiltFrom cid' sequence' ys) :
    p = q ↔ cid = cid' ∧ sequence = sequence' ∧ SameUpToZeros xs ys := by
  rw [← padded_eq_iff hp.fits hq.fits, ← hp.payload_eq, ← hq.payload_eq, Vector.toList_inj]
  rw [← hp.cid_eq, ← hq.cid_eq, ← hp.sequence_eq, ← hq.sequence_eq]
  refine ⟨?_, ?_⟩
  · intro h
    subst h
    exact ⟨rfl, rfl, rfl⟩
  · intro h
    obtain ⟨hcid, hsequence, hpayload⟩ := h
    exact ContPacket.ext hcid hsequence hpayload

/-- What packets of different kinds are built into is of different kinds as well. -/
theorem report_ne_report {p : InitPacket} {q : ContPacket} {cid : ChannelId} {sequence : UInt8}
    {bytes : List UInt8} (hq : q.BuiltFrom cid sequence bytes) : p.report ≠ q.report := by
  intro h
  have hkind : q.frame.kind = .init := by
    rw [← Frame.report_inj.1 h]
    exact p.kind_frame
  rw [ContPacket.kind_frame_eq_continuation_iff.2 (hq.sequence_eq ▸ hq.sequence_le)] at hkind
  cases hkind

theorem exists_holds_and_iff {a b : Buffer} {xs ys : List UInt8} (ha : a.Holds xs)
    (hb : b.Holds ys) {P : List UInt8 → List UInt8 → Prop} :
    (∃ xs ys, a.Holds xs ∧ b.Holds ys ∧ P xs ys) ↔ P xs ys := by
  refine ⟨?_, fun h => ⟨xs, ys, ha, hb, h⟩⟩
  intro h
  obtain ⟨xs', ys', ha', hb', hP⟩ := h
  rw [ha.unique ha', hb.unique hb']
  exact hP

theorem Draft.of_build_init {cid : ChannelId} {code : UInt8} {size : UInt16} {payload : Buffer}
    {p : Packet} (h : (Draft.init cid code size payload).build = .ok p) :
    ∃ q bytes, p = .init q ∧ payload.Holds bytes ∧ q.BuiltFrom cid code size bytes := by
  obtain ⟨q, hq, rfl⟩ := Outcome.map_eq_ok_iff.1 h
  obtain ⟨bytes, hholds, hbuilt⟩ := InitPacket.build_eq_ok_iff.1 hq
  exact ⟨q, bytes, rfl, hholds, hbuilt⟩

theorem Draft.of_build_cont {cid : ChannelId} {sequence : UInt8} {payload : Buffer} {p : Packet}
    (h : (Draft.cont cid sequence payload).build = .ok p) :
    ∃ q bytes, p = .cont q ∧ payload.Holds bytes ∧ q.BuiltFrom cid sequence bytes := by
  obtain ⟨q, hq, rfl⟩ := Outcome.map_eq_ok_iff.1 h
  obtain ⟨bytes, hholds, hbuilt⟩ := ContPacket.build_eq_ok_iff.1 hq
  exact ⟨q, bytes, rfl, hholds, hbuilt⟩

/--
**Two builds have the same report only if they were asked for the same.**

The kind, the channel and the fields in front of the payload can be told from a report,
and so can the payload but for the zeros that it ends in.
-/
theorem report_eq_iff_agree {a b : Draft} {p q : Packet} (ha : a.build = .ok p)
    (hb : b.build = .ok q) : p.report = q.report ↔ a.Agree b := by
  rcases a with ⟨cid, code, size, payload⟩ | ⟨cid, sequence, payload⟩
  · obtain ⟨p, xs, rfl, hxs, hp⟩ := Draft.of_build_init ha
    rcases b with ⟨cid', code', size', payload'⟩ | ⟨cid', sequence', payload'⟩
    · obtain ⟨q, ys, rfl, hys, hq⟩ := Draft.of_build_init hb
      rw [Draft.Agree, exists_holds_and_iff hxs hys, ← hp.eq_iff hq]
      exact InitPacket.report_inj hp.consistent hq.consistent
    · obtain ⟨q, ys, rfl, -, hq⟩ := Draft.of_build_cont hb
      exact iff_of_false (report_ne_report hq) id
  · obtain ⟨p, xs, rfl, hxs, hp⟩ := Draft.of_build_cont ha
    rcases b with ⟨cid', code', size', payload'⟩ | ⟨cid', sequence', payload'⟩
    · obtain ⟨q, ys, rfl, -, -⟩ := Draft.of_build_init hb
      exact iff_of_false (report_ne_report hp).symm id
    · obtain ⟨q, ys, rfl, hys, hq⟩ := Draft.of_build_cont hb
      rw [Draft.Agree, exists_holds_and_iff hxs hys, ← hp.eq_iff hq]
      exact ContPacket.report_inj

/-- A payload that ends in zeros and the one without them cannot be told apart. -/
theorem report_eq_iff_agree_trailing_zeros :
    ∃ p q, (Draft.cont Layout.broadcastChannel 3 (.ofBytes [7])).build = .ok p ∧
      (Draft.cont Layout.broadcastChannel 3 (.ofBytes [7, 0, 0])).build = .ok q ∧
      p.report = q.report := by
  let short : ContPacket :=
    ⟨Layout.broadcastChannel, 3, Buffer.zeroPadded #v[7] (by decide)⟩
  let long : ContPacket :=
    ⟨Layout.broadcastChannel, 3, Buffer.zeroPadded #v[7, 0, 0] (by decide)⟩
  have hshort : (Draft.cont Layout.broadcastChannel 3 (.ofBytes [7])).build
      = .ok (.cont short) := rfl
  have hlong : (Draft.cont Layout.broadcastChannel 3 (.ofBytes [7, 0, 0])).build
      = .ok (.cont long) := rfl
  refine ⟨_, _, hshort, hlong, (report_eq_iff_agree hshort hlong).2 ⟨rfl, rfl, ?_⟩⟩
  exact ⟨[7], [7, 0, 0], Buffer.holds_ofBytes _, Buffer.holds_ofBytes _, 2, Or.inr rfl⟩

end HidLink
