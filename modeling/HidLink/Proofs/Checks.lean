/-
What a run reports when several things are wrong.

A command line is looked at in a fixed order, and the run ends at the first thing that is
not as it should be, with one report and without output.  The order is kept here as a list
of checks for each kind of command line: what the arguments have to look like comes before
what a packet can hold, the channel id before all that depends on the mode, and the payload
before the number that stands in front of it.

The kind of a frame is printed before the frame is read as a packet, and still a run that
fails prints nothing.  This is because telling the kind and reading the packet accept the
same data, so behind the first line no run fails any more.
-/
import HidLink.Proofs.CommandLine

namespace HidLink.Dump

theorem Complaint.report_ne_nil (complaint : Complaint) : complaint.report ≠ [] := by
  cases complaint <;> decide

theorem line_ne_nil (label : String) (value : Text) : line label value ≠ [] := by
  simp [line, ascii]

theorem encodeReport_ne_nil (refusal : Refusal) : encodeReport refusal ≠ [] := by
  simp [encodeReport, line_ne_nil]

/-! ### Checks in their order -/

/-- One thing that is looked at, and what is written if it is not as it should be. -/
structure Check where
  passes : Prop
  report : Text
  report_ne_nil : report ≠ []

namespace Check

/-- A check of the arguments. -/
def argument (passes : Prop) (complaint : Complaint) : Check where
  passes := passes
  report := complaint.report
  report_ne_nil := complaint.report_ne_nil

/-- A check that a packet makes when it is built. -/
def packet (passes : Prop) (refusal : Refusal) : Check where
  passes := passes
  report := encodeReport refusal
  report_ne_nil := encodeReport_ne_nil refusal

/-- A command line of a form that is not known. -/
def misuse : Check := argument False .usage

end Check

/-- The checks of a frame that is to be taken apart. -/
def decodeChecks (frame : Text) : List Check :=
  [.argument (∃ n, Hex.HasDigits (2 * n) frame) .frameNotHex,
    { passes := Hex.HasDigits 128 frame
      report := line "Decode failed: " (ascii "malformed frame")
      report_ne_nil := line_ne_nil _ _ }]

/-- What an init packet that is built from these arguments looks at. -/
def initPacketChecks (command payload : Text) : List Check :=
  [.packet (∃ c : Command, Hex.Spells command [c.byte])
      (.unknownCommand (UInt8.ofNat (Hex.number command))),
    .packet (∃ n ≤ 57, Hex.HasDigits (2 * n) payload)
      (.payloadTooLong .init (payload.unblanked.length / 2) 57)]

/-- What a continuation that is built from these arguments looks at. -/
def contPacketChecks (sequence payload : Text) : List Check :=
  [.packet (∃ n ≤ 127, Decimal.Denotes sequence n)
      (.sequenceOutOfRange (UInt8.ofNat (Decimal.numberFrom 0 sequence))),
    .packet (∃ n ≤ 59, Hex.HasDigits (2 * n) payload)
      (.payloadTooLong .continuation (payload.unblanked.length / 2) 59)]

/-- The checks of the arguments behind the channel id of an init frame. -/
def initChecks : List Text → List Check
  | command :: size :: rest =>
      .argument (Hex.HasDigits 2 command) .badCommand
        :: .argument (∃ n, Hex.HasDigits (2 * n) (rest.head?.getD [])) .payloadNotHex
        :: .argument (∃ n ≤ 65535, Decimal.Denotes size n) .badSize
        :: initPacketChecks command (rest.head?.getD [])
  | _ => [.misuse]

/-- The checks of the arguments behind the channel id of a continuation. -/
def contChecks : List Text → List Check
  | sequence :: rest =>
      .argument (∃ n, Hex.HasDigits (2 * n) (rest.head?.getD [])) .payloadNotHex
        :: .argument (∃ n ≤ 255, Decimal.Denotes sequence n) .badSequence
        :: contPacketChecks sequence (rest.head?.getD [])
  | _ => [.misuse]

/-- Everything that is looked at in a command line, in this order. -/
def checks : List Text → List Check
  | mode :: subject :: rest =>
      if mode = ascii "decode" then decodeChecks subject
      else
        .argument (Hex.HasDigits 8 subject) .badChannelId
          :: if mode = ascii "init" then initChecks rest
            else if mode = ascii "cont" then contChecks rest
            else [.misuse]
  | _ => [.misuse]

/--
The run comes to what its checks say.  The first of them that fails ends it with its report
and without output; a run that passes all of them prints something and reports nothing.
-/
def Settles : List Check → Transcript → Prop
  | [], t => t.code = 0 ∧ t.out ≠ [] ∧ t.err = []
  | check :: rest, t =>
      (¬check.passes → t = { code := 1, out := [], err := check.report }) ∧
      (check.passes → Settles rest t)

namespace Settles

theorem cons {check : Check} {rest : List Check} {t : Transcript}
    (hfails : ¬check.passes → t = { code := 1, out := [], err := check.report })
    (hpasses : check.passes → Settles rest t) : Settles (check :: rest) t :=
  ⟨hfails, hpasses⟩

theorem argument {arguments : List Text} {passes : Prop} {complaint : Complaint}
    {rest : List Check} (hfails : ¬passes → readArguments arguments = .error complaint)
    (hpasses : passes → Settles rest (transcript arguments)) :
    Settles (.argument passes complaint :: rest) (transcript arguments) :=
  cons (fun h => transcript_of_complaint (hfails h)) hpasses

theorem misuse {arguments : List Text} (h : readArguments arguments = .error .usage) :
    Settles [.misuse] (transcript arguments) :=
  argument (fun _ => h) False.elim

/-- Whichever check ends a run, it has either failed and said so or printed something. -/
theorem code_eq_one_or {list : List Check} {t : Transcript} (h : Settles list t) :
    (t.code = 1 ∧ t.out = [] ∧ t.err ≠ []) ∨ (t.code = 0 ∧ t.out ≠ [] ∧ t.err = []) := by
  induction list with
  | nil => exact Or.inr h
  | cons check rest ih =>
      by_cases hpasses : check.passes
      · exact ih (h.2 hpasses)
      · rw [h.1 hpasses]
        exact Or.inl ⟨rfl, rfl, check.report_ne_nil⟩

end Settles

/-! ### Arguments that are not understood -/

/-- A reader that finds exactly what there is finds nothing when there is nothing. -/
theorem eq_none_iff_of_some_iff {β : Type} {o : Option β} {P : β → Prop}
    (h : ∀ x, o = some x ↔ P x) : o = none ↔ ¬∃ x, P x := by
  rw [Option.eq_none_iff_forall_ne_some]
  exact ⟨fun hne ⟨x, hx⟩ => hne x ((h x).2 hx), fun hnot x hx => hnot ⟨x, (h x).1 hx⟩⟩

theorem parseHex_eq_none_iff {t : Text} :
    Hex.parse? t = none ↔ ¬∃ n, Hex.HasDigits (2 * n) t := by
  rw [eq_none_iff_of_some_iff fun _ => Hex.parse?_eq_some_iff]
  simp only [← Hex.exists_spells_iff, exists_comm, exists_eq_left']

theorem payload?_eq_none_iff {rest : List Text} :
    payload? rest = none ↔ ¬∃ n, Hex.HasDigits (2 * n) (rest.head?.getD []) :=
  parseHex_eq_none_iff

theorem channelId?_eq_none_iff {t : Text} : channelId? t = none ↔ ¬Hex.HasDigits 8 t := by
  rw [eq_none_iff_of_some_iff fun _ => channelId?_eq_some_iff]
  exact not_congr exists_spells_vector_iff

theorem exists_byte_iff {t : Text} : (∃ b, Hex.Spells t [b]) ↔ Hex.HasDigits 2 t := by
  rw [← @Hex.exists_spells_iff t 1]
  constructor
  · rintro ⟨b, hb⟩
    exact ⟨[b], rfl, hb⟩
  · rintro ⟨bytes, hlength, hbytes⟩
    obtain ⟨b, rfl⟩ := List.length_eq_one_iff.1 hlength
    exact ⟨b, hbytes⟩

theorem oneByte?_eq_none_iff {t : Text} : oneByte? t = none ↔ ¬Hex.HasDigits 2 t := by
  rw [eq_none_iff_of_some_iff fun _ => oneByte?_eq_some_iff]
  exact not_congr exists_byte_iff

theorem parseDecimal_eq_none_iff {t : Text} (h : 0 ∉ t) {max : UInt64} :
    Decimal.parse? t max = none ↔ ¬∃ n ≤ max.toNat, Decimal.Denotes t n := by
  rw [eq_none_iff_of_some_iff fun _ => Decimal.parse?_eq_some_iff, Text.upToZero_of_notMem h]
  refine not_congr ⟨?_, ?_⟩
  · rintro ⟨n, hn, hle⟩
    exact ⟨n.toNat, UInt64.le_iff_toNat_le.1 hle, hn⟩
  · rintro ⟨n, hle, hn⟩
    have hword : (UInt64.ofNat n).toNat = n :=
      UInt64.toNat_ofNat_of_lt' (Nat.lt_of_le_of_lt hle max.toNat_lt_size)
    exact ⟨UInt64.ofNat n, by rwa [hword], UInt64.le_iff_toNat_le.2 (by rwa [hword])⟩

/-! ### What a packet looks at -/

/-- A payload of another length than a text has digits for does not come from it. -/
theorem length_le_of_hasDigits {payload : Text} {bytes : List UInt8}
    (hpayload : Hex.Spells payload bytes) {capacity : Nat} :
    (∃ n ≤ capacity, Hex.HasDigits (2 * n) payload) ↔ bytes.length ≤ capacity := by
  constructor
  · rintro ⟨n, hle, hdigits⟩
    obtain ⟨bytes', hlength, hbytes'⟩ := Hex.exists_spells_iff.2 hdigits
    rw [hpayload.unique hbytes', hlength]
    exact hle
  · intro hle
    exact ⟨bytes.length, hle, Hex.exists_spells_iff.1 ⟨bytes, rfl, hpayload⟩⟩

theorem half_length_unblanked {payload : Text} {bytes : List UInt8}
    (hpayload : Hex.Spells payload bytes) : payload.unblanked.length / 2 = bytes.length := by
  have hlength : payload.unblanked.length = 2 * bytes.length := Hex.Pairs.length_eq hpayload
  omega

theorem settles_initPacketChecks {arguments : List Text} {cid : ChannelId} {code : UInt8}
    {size : UInt16} {bytes : List UInt8} {command payload : Text}
    (hasks : Asks arguments (.buildInit cid code size bytes))
    (hcommand : Hex.Spells command [code]) (hpayload : Hex.Spells payload bytes) :
    Settles (initPacketChecks command payload) (transcript arguments) := by
  refine .cons (fun hundeclared => ?_) fun hdeclared =>
    .cons (fun hlong => ?_) fun hfits => ?_
  · have hcode : ¬∃ c : Command, c.byte = code :=
      fun ⟨c, hc⟩ => hundeclared ⟨c, hc ▸ hcommand⟩
    rw [transcript_of_refused_init hasks (InitPacket.build_of_undeclared hcode ..)]
    simp only [Check.packet, hcommand.number_eq, UInt8.ofNat_toNat]
  · obtain ⟨c, hc⟩ := hdeclared
    obtain rfl : c.byte = code := List.head_eq_of_cons_eq (hc.unique hcommand)
    have hlength : 57 < bytes.length :=
      Nat.lt_of_not_le fun hle => hlong ((length_le_of_hasDigits hpayload).2 hle)
    have hrefused : InitPacket.build cid c.byte size (.ofBytes bytes)
        = .refuse (.payloadTooLong .init bytes.length 57) := by
      rw [InitPacket.build_of_declared, Outcome.map_eq_refuse_iff]
      exact Buffer.payload_of_too_long (Buffer.holds_ofBytes bytes).not_missing .init hlength
    rw [transcript_of_refused_init hasks hrefused]
    simp only [Check.packet, half_length_unblanked hpayload]
  · obtain ⟨c, hc⟩ := hdeclared
    obtain rfl : c.byte = code := List.head_eq_of_cons_eq (hc.unique hcommand)
    obtain ⟨p, hp⟩ := InitPacket.exists_builtFrom cid c size
      ((length_le_of_hasDigits hpayload).1 hfits)
    rw [transcript_of_built_init hasks hp]
    exact ⟨rfl, line_ne_nil _ _, rfl⟩

theorem settles_contPacketChecks {arguments : List Text} {cid : ChannelId} {n : UInt8}
    {bytes : List UInt8} {sequence payload : Text}
    (hasks : Asks arguments (.buildCont cid n bytes))
    (hsequence : Decimal.Denotes sequence n.toNat) (hpayload : Hex.Spells payload bytes) :
    Settles (contPacketChecks sequence payload) (transcript arguments) := by
  have hrange_iff : (∃ m ≤ 127, Decimal.Denotes sequence m) ↔ n ≤ 0x7F := by
    rw [UInt8.le_iff_toNat_le]
    refine ⟨?_, fun hle => ⟨n.toNat, hle, hsequence⟩⟩
    rintro ⟨m, hle, hm⟩
    rw [← hsequence.number_eq, hm.number_eq]
    exact hle
  refine .cons (fun hout => ?_) fun hin => .cons (fun hlong => ?_) fun hfits => ?_
  · have hrange : 0x7F < n := UInt8.not_le.1 fun hle => hout (hrange_iff.2 hle)
    rw [transcript_of_refused_cont hasks (ContPacket.build_of_out_of_range hrange ..)]
    simp only [Check.packet, hsequence.number_eq, UInt8.ofNat_toNat]
  · have hlength : 59 < bytes.length :=
      Nat.lt_of_not_le fun hle => hlong ((length_le_of_hasDigits hpayload).2 hle)
    have hrefused : ContPacket.build cid n (.ofBytes bytes)
        = .refuse (.payloadTooLong .continuation bytes.length 59) := by
      rw [ContPacket.build_of_in_range (hrange_iff.1 hin), Outcome.map_eq_refuse_iff]
      exact Buffer.payload_of_too_long (Buffer.holds_ofBytes bytes).not_missing .continuation
        hlength
    rw [transcript_of_refused_cont hasks hrefused]
    simp only [Check.packet, half_length_unblanked hpayload]
  · obtain ⟨p, hp⟩ := ContPacket.exists_builtFrom cid (hrange_iff.1 hin)
      ((length_le_of_hasDigits hpayload).1 hfits)
    rw [transcript_of_built_cont hasks hp]
    exact ⟨rfl, line_ne_nil _ _, rfl⟩

/-! ### One mode at a time -/

theorem settles_decodeChecks (frame : Text) (rest : List Text) :
    Settles (decodeChecks frame) (transcript (ascii "decode" :: frame :: rest)) := by
  -- Digits that are hex but too few or too many are bytes, of which no frame is made.
  refine .argument (fun hbad => ?_) fun hhex => .cons (fun hbad => ?_) fun hwhole => ?_
  · rw [readArguments, if_pos rfl, parseHex_eq_none_iff.2 hbad]
  · obtain ⟨n, hdigits⟩ := hhex
    obtain ⟨bytes, -, hbytes⟩ := Hex.exists_spells_iff.2 hdigits
    have hlength : bytes.length ≠ 64 :=
      fun h64 => hbad (Hex.exists_spells_iff.1 ⟨bytes, h64, hbytes⟩)
    refine transcript_of_fail ?_ (writes_field "Decode failed: " (writes_text _))
    rw [run, readArguments_eq_ok_iff.2 (.decode hbytes)]
    show decode (.ofBytes bytes) = _
    rw [decode, Buffer.frameKind_ofBytes_of_ne hlength]
    rfl
  · obtain ⟨f, hf⟩ : ∃ f : Frame, Hex.Spells frame f.toList := exists_spells_vector_iff.2 hwhole
    cases hkind : f.kind with
    | init =>
        rw [transcript_of_init_frame (.decode hf) hkind]
        exact ⟨rfl, List.append_ne_nil_of_left_ne_nil (line_ne_nil _ _) _, rfl⟩
    | continuation =>
        rw [transcript_of_continuation_frame (.decode hf) hkind]
        exact ⟨rfl, List.append_ne_nil_of_left_ne_nil (line_ne_nil _ _) _, rfl⟩

theorem readArguments_of_bad_channel {mode channel : Text} (hmode : mode ≠ ascii "decode")
    (hbad : ¬Hex.HasDigits 8 channel) (rest : List Text) :
    readArguments (mode :: channel :: rest) = .error .badChannelId := by
  rw [readArguments, if_neg hmode, channelId?_eq_none_iff.2 hbad]

theorem readArguments_of_channel {mode channel : Text} {cid : ChannelId}
    (hmode : mode ≠ ascii "decode") (hchannel : Hex.Spells channel cid.toList)
    (rest : List Text) :
    readArguments (mode :: channel :: rest) =
      if mode = ascii "init" then readInit cid rest
      else if mode = ascii "cont" then readCont cid rest
      else .error .usage := by
  rw [readArguments, if_neg hmode, channelId?_eq_some_iff.2 hchannel]

theorem settles_initChecks {channel : Text} {cid : ChannelId}
    (hchannel : Hex.Spells channel cid.toList) {rest : List Text} (h : ∀ t ∈ rest, 0 ∉ t) :
    Settles (initChecks rest) (transcript (ascii "init" :: channel :: rest)) := by
  have hread : readArguments (ascii "init" :: channel :: rest) = readInit cid rest := by
    rw [readArguments_of_channel (by decide) hchannel, if_pos rfl]
  rcases rest with _ | ⟨command, _ | ⟨size, rest⟩⟩
  · exact .misuse hread
  · exact .misuse hread
  have hsize : 0 ∉ size := h size (by simp)
  refine .argument (fun hbad => ?_) fun hcommand => ?_
  · rw [hread, readInit, oneByte?_eq_none_iff.2 hbad]
  obtain ⟨code, hcode⟩ := exists_byte_iff.2 hcommand
  refine .argument (fun hbad => ?_) fun hhex => ?_
  · rw [hread, readInit, oneByte?_eq_some_iff.2 hcode, payload?_eq_none_iff.2 hbad]
  obtain ⟨_, hdigits⟩ := hhex
  obtain ⟨payload, -, hpayload⟩ := Hex.exists_spells_iff.2 hdigits
  refine .argument (fun hbad => ?_) fun hnumber => ?_
  · have hnone : Decimal.parse? size 0xFFFF = none := (parseDecimal_eq_none_iff hsize).2 hbad
    rw [hread, readInit, oneByte?_eq_some_iff.2 hcode, payload?_eq_some_iff.2 hpayload,
      hnone]
  obtain ⟨n, hle, hn⟩ := hnumber
  have hword : (UInt16.ofNat n).toNat = n := UInt16.toNat_ofNat_of_lt' (Nat.lt_succ_of_le hle)
  have hasks : Asks (ascii "init" :: channel :: command :: size :: rest)
      (.buildInit cid code (UInt16.ofNat n) payload) := by
    refine .init hchannel hcode ?_ hpayload
    rwa [Text.upToZero_of_notMem hsize, hword]
  exact settles_initPacketChecks hasks hcode hpayload

theorem settles_contChecks {channel : Text} {cid : ChannelId}
    (hchannel : Hex.Spells channel cid.toList) {rest : List Text} (h : ∀ t ∈ rest, 0 ∉ t) :
    Settles (contChecks rest) (transcript (ascii "cont" :: channel :: rest)) := by
  have hread : readArguments (ascii "cont" :: channel :: rest) = readCont cid rest := by
    rw [readArguments_of_channel (by decide) hchannel, if_neg (by decide), if_pos rfl]
  rcases rest with _ | ⟨sequence, rest⟩
  · exact .misuse hread
  have hzero : 0 ∉ sequence := h sequence (by simp)
  refine .argument (fun hbad => ?_) fun hhex => ?_
  · rw [hread, readCont, payload?_eq_none_iff.2 hbad]
  obtain ⟨_, hdigits⟩ := hhex
  obtain ⟨payload, -, hpayload⟩ := Hex.exists_spells_iff.2 hdigits
  refine .argument (fun hbad => ?_) fun hnumber => ?_
  · have hnone : Decimal.parse? sequence 0xFF = none := (parseDecimal_eq_none_iff hzero).2 hbad
    rw [hread, readCont, payload?_eq_some_iff.2 hpayload, hnone]
  obtain ⟨n, hle, hn⟩ := hnumber
  have hword : (UInt8.ofNat n).toNat = n := UInt8.toNat_ofNat_of_lt' (Nat.lt_succ_of_le hle)
  rw [← hword] at hn
  have hasks : Asks (ascii "cont" :: channel :: sequence :: rest)
      (.buildCont cid (UInt8.ofNat n) payload) := by
    refine .cont hchannel ?_ hpayload
    rwa [Text.upToZero_of_notMem hzero]
  exact settles_contPacketChecks hasks hn hpayload

/-! ### All command lines -/

theorem settles_checks {arguments : List Text} (h : ∀ t ∈ arguments, 0 ∉ t) :
    Settles (checks arguments) (transcript arguments) := by
  rcases arguments with _ | ⟨mode, _ | ⟨subject, rest⟩⟩
  · exact .misuse rfl
  · exact .misuse rfl
  have hrest : ∀ t ∈ rest, 0 ∉ t := fun t ht => h t (by simp [ht])
  rw [checks]
  by_cases hdecode : mode = ascii "decode"
  · rw [if_pos hdecode, hdecode]
    exact settles_decodeChecks subject rest
  rw [if_neg hdecode]
  refine .argument (fun hbad => readArguments_of_bad_channel hdecode hbad rest) fun hgood => ?_
  obtain ⟨cid, hchannel⟩ : ∃ cid : ChannelId, Hex.Spells subject cid.toList :=
    exists_spells_vector_iff.2 hgood
  by_cases hinit : mode = ascii "init"
  · rw [if_pos hinit, hinit]
    exact settles_initChecks hchannel hrest
  by_cases hcont : mode = ascii "cont"
  · rw [if_neg hinit, if_pos hcont, hcont]
    exact settles_contChecks hchannel hrest
  · rw [if_neg hinit, if_neg hcont]
    refine .misuse ?_
    rw [readArguments_of_channel hdecode hchannel, if_neg hinit, if_neg hcont]

/-- Data whose kind can be told can be read as a packet of either kind. -/
theorem exists_decoded {data : Buffer} {kind : FrameKind} (hreadable : data.Readable)
    (h : data.frameKind = .ok kind) :
    (∃ p, InitPacket.decode data = .ok p) ∧ ∃ p, ContPacket.decode data = .ok p := by
  have hframe : data.isFrame = true := by
    by_contra hnot
    rw [Buffer.frameKind_of_not_isFrame hnot] at h
    cases h
  obtain ⟨f, hf⟩ := hreadable.exists_frame hframe
  exact ⟨⟨_, InitPacket.decode_of_holds hf⟩, _, ContPacket.decode_of_holds hf⟩

/--
**A run ends with one report, which is that of the first check to fail.**

It succeeds exactly if it has nothing to report, and exactly if it prints something.  The
checks are in the order in which the arguments are looked at, and a refusal by a packet
comes last.  Once the kind of a frame could be told, reading the frame does not fail.
-/
theorem first_failing_check_reported (arguments : List Text) (h : ∀ t ∈ arguments, 0 ∉ t) :
    ((transcript arguments).code = 0 ∨ (transcript arguments).code = 1) ∧
    ((transcript arguments).code = 0 ↔ (transcript arguments).err = []) ∧
    ((transcript arguments).code = 0 ↔ (transcript arguments).out ≠ []) ∧
    Settles (checks arguments) (transcript arguments) ∧
    (∀ (data : Buffer) (kind : FrameKind), data.Readable → data.frameKind = .ok kind →
      (∃ p, InitPacket.decode data = .ok p) ∧ ∃ p, ContPacket.decode data = .ok p) := by
  have hsettles := settles_checks h
  refine ⟨?_, ?_, ?_, hsettles, fun data kind hreadable hkind => exists_decoded hreadable hkind⟩
  · rcases hsettles.code_eq_one_or with ⟨hcode, -, -⟩ | ⟨hcode, -, -⟩
    · exact Or.inr hcode
    · exact Or.inl hcode
  · rcases hsettles.code_eq_one_or with ⟨hcode, -, herr⟩ | ⟨hcode, -, herr⟩
    · rw [hcode]
      exact iff_of_false (by decide) herr
    · exact iff_of_true hcode herr
  · rcases hsettles.code_eq_one_or with ⟨hcode, hout, -⟩ | ⟨hcode, hout, -⟩
    · rw [hcode]
      exact iff_of_false (by decide) (not_not_intro hout)
    · exact iff_of_true hcode hout

/--
A payload and a number that are both wrong, where the number stands in front; a sequence
number and a payload that are both too large for the packet; and a payload that is too large
by itself.
-/
theorem first_failing_check_reported_two_faults :
    transcript [ascii "init", ascii "0a 0B0c0D", ascii "02", ascii "70000", ascii "abc"] =
      { code := 1, out := [], err := ascii "Payload is not valid hex\n" } ∧
    transcript [ascii "cont", ascii "0a0b0c0d", ascii "00200", List.replicate 120 48] =
      { code := 1
        out := []
        err := ascii "Continuation sequence 200 out of range 0-127\n"
          ++ ascii "Encode failed: invalid sequence number\n" } ∧
    transcript [ascii "init", ascii "0a0b0c0d", ascii "01", ascii "58", List.replicate 116 48] =
      { code := 1
        out := []
        err := ascii "Init frame payload of 58 bytes exceeds 57\n"
          ++ ascii "Encode failed: payload too large\n" } := by
  refine ⟨?_, ?_, ?_⟩
  · obtain ⟨-, -, -, hsettles, -⟩ := first_failing_check_reported
      [ascii "init", ascii "0a 0B0c0D", ascii "02", ascii "70000", ascii "abc"] (by decide)
    have hchannel : Hex.HasDigits 8 (ascii "0a 0B0c0D") := by decide +kernel
    have hcommand : Hex.HasDigits 2 (ascii "02") := by decide +kernel
    have hpayload : ¬∃ n, Hex.HasDigits (2 * n) (ascii "abc") := by
      rintro ⟨n, hlength, -⟩
      have hthree : (ascii "abc").unblanked.length = 3 := by decide +kernel
      omega
    exact ((hsettles.2 hchannel).2 hcommand).1 hpayload
  · obtain ⟨-, -, -, hsettles, -⟩ := first_failing_check_reported
      [ascii "cont", ascii "0a0b0c0d", ascii "00200", List.replicate 120 48] (by decide)
    have hchannel : Hex.HasDigits 8 (ascii "0a0b0c0d") := by decide +kernel
    have hpayload : ∃ n, Hex.HasDigits (2 * n) (List.replicate 120 48) :=
      ⟨60, by decide +kernel⟩
    have hnumber : Decimal.Denotes (ascii "00200") 200 :=
      ⟨by decide, by decide +kernel, by decide +kernel⟩
    have hout : ¬∃ n ≤ 127, Decimal.Denotes (ascii "00200") n := by
      rintro ⟨n, hle, hn⟩
      have hsame : 200 = n := hnumber.number_eq.symm.trans hn.number_eq
      omega
    have hreport : encodeReport (.sequenceOutOfRange
        (UInt8.ofNat (Decimal.numberFrom 0 (ascii "00200"))))
        = ascii "Continuation sequence 200 out of range 0-127\n"
          ++ ascii "Encode failed: invalid sequence number\n" := by decide +kernel
    rw [← hreport]
    exact (((hsettles.2 hchannel).2 hpayload).2 ⟨200, by decide, hnumber⟩).1 hout
  · obtain ⟨-, -, -, hsettles, -⟩ := first_failing_check_reported
      [ascii "init", ascii "0a0b0c0d", ascii "01", ascii "58", List.replicate 116 48] (by decide)
    have hchannel : Hex.HasDigits 8 (ascii "0a0b0c0d") := by decide +kernel
    have hcommand : Hex.HasDigits 2 (ascii "01") := by decide +kernel
    have hpayload : ∃ n, Hex.HasDigits (2 * n) (List.replicate 116 48) := ⟨58, by decide +kernel⟩
    have hnumber : ∃ n ≤ 65535, Decimal.Denotes (ascii "58") n :=
      ⟨58, by decide, by decide, by decide +kernel, by decide +kernel⟩
    have hdeclared : ∃ c : Command, Hex.Spells (ascii "01") [c.byte] :=
      ⟨.ping, Hex.parse?_eq_some_iff.1 (by decide +kernel)⟩
    have hlong : ¬∃ n ≤ 57, Hex.HasDigits (2 * n) (List.replicate 116 48) := by
      rintro ⟨n, hle, hlength, -⟩
      have hdigits : (Text.unblanked (List.replicate 116 48)).length = 116 := by decide +kernel
      omega
    have hreport : encodeReport (.payloadTooLong .init
        ((Text.unblanked (List.replicate 116 48)).length / 2) 57)
        = ascii "Init frame payload of 58 bytes exceeds 57\n"
          ++ ascii "Encode failed: payload too large\n" := by decide +kernel
    rw [← hreport]
    exact (((((hsettles.2 hchannel).2 hcommand).2 hpayload).2 hnumber).2 hdeclared).1 hlong

end HidLink.Dump
