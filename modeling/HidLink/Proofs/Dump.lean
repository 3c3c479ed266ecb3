/-
What a run of the frame dump leaves behind.

The exit code says whether the arguments asked for something and the packets went along
with it, and on success nothing is on the diagnostic stream.  A run that takes a frame
apart prints its kind and then the fields of that kind, a line for each; a run that puts
one together prints the report on a line of its own.
-/
import HidLink.Proofs.Arguments
import HidLink.Proofs.Build

namespace HidLink.Dump

/-! ### What the messages write -/

theorem writes_field (label : String) {value : List Item} {t : Text} (h : Writes value t) :
    Writes (field label value) (line label t) :=
  (h.ascii label).append (Writes.nil.ascii "\n")

/-- The dump of an init frame that is read as this packet. -/
def initDump (p : InitPacket) : Text :=
  initLines (Hex.render p.cid.toList) p.command.name
    (numeral .hexadecimal false p.commandByte.toNat) (numeral .decimal false p.size.toNat)
    (Hex.render p.payload.toList)

/-- The dump of a continuation that is read as this packet. -/
def contDump (p : ContPacket) : Text :=
  contLines (Hex.render p.cid.toList) (numeral .decimal false p.sequence.toNat)
    (Hex.render p.payload.toList)

theorem writes_text (t : Text) : Writes [.text t] t := by
  simpa using Writes.nil.text t

theorem writes_number (n : Nat) : Writes [.number n] (numeral .decimal false n) := by
  simpa using Writes.nil.number n

theorem writes_command (p : InitPacket) :
    Writes [.text p.command.name, .ascii " (0x", .radix .hexadecimal, .number p.commandByte.toNat,
        .radix .decimal, .ascii ")"]
      (p.command.name ++ ascii " (0x" ++ numeral .hexadecimal false p.commandByte.toNat
        ++ ascii ")") := by
  have h := (((Writes.nil.ascii ")").hexadecimal p.commandByte.toNat).ascii " (0x").text
    p.command.name
  simpa only [List.append_assoc, List.append_nil] using h

theorem writes_initFields (p : InitPacket) :
    Writes (initFields p)
      (line "CID:     " (Hex.render p.cid.toList)
        ++ line "Command: " (p.command.name ++ ascii " (0x"
          ++ numeral .hexadecimal false p.commandByte.toNat ++ ascii ")")
        ++ line "BCNT:    " (numeral .decimal false p.size.toNat)
        ++ line "Payload: " (Hex.render p.payload.toList)) := by
  have hcid := writes_field "CID:     " (writes_text (Hex.render p.cid.toList))
  have hcommand := writes_field "Command: " (writes_command p)
  have hsize := writes_field "BCNT:    " (writes_number p.size.toNat)
  have hpayload := writes_field "Payload: " (writes_text (Hex.render p.payload.toList))
  exact ((hcid.append hcommand).append hsize).append hpayload

theorem writes_contFields (p : ContPacket) :
    Writes (contFields p)
      (line "CID:     " (Hex.render p.cid.toList)
        ++ line "SEQ:     " (numeral .decimal false p.sequence.toNat)
        ++ line "Payload: " (Hex.render p.payload.toList)) := by
  have hcid := writes_field "CID:     " (writes_text (Hex.render p.cid.toList))
  have hsequence := writes_field "SEQ:     " (writes_number p.sequence.toNat)
  have hpayload := writes_field "Payload: " (writes_text (Hex.render p.payload.toList))
  exact (hcid.append hsequence).append hpayload

theorem writes_initDump (p : InitPacket) :
    Writes (field "Kind:    " [.text FrameKind.init.name] ++ initFields p) (initDump p) := by
  have h := (writes_field "Kind:    " (writes_text FrameKind.init.name)).append
    (writes_initFields p)
  simpa only [initDump, initLines, lines, FrameKind.name, List.zipWith_cons_cons,
    List.zipWith_nil_left, List.flatten_cons, List.flatten_nil, List.append_assoc,
    List.append_nil] using h

theorem writes_contDump (p : ContPacket) :
    Writes (field "Kind:    " [.text FrameKind.continuation.name] ++ contFields p)
      (contDump p) := by
  have h := (writes_field "Kind:    " (writes_text FrameKind.continuation.name)).append
    (writes_contFields p)
  simpa only [contDump, contLines, lines, FrameKind.name, List.zipWith_cons_cons,
    List.zipWith_nil_left, List.flatten_cons, List.flatten_nil, List.append_assoc,
    List.append_nil] using h

theorem writes_reportField (r : Report) :
    Writes (reportField r) (line "Report: " (Hex.render r.toList)) :=
  writes_field "Report: " (writes_text (Hex.render r.toList))

/-! ### The transcript of a job -/

theorem transcript_of_asks {arguments : List Text} {job : Job} {out err : Text}
    (h : Asks arguments job) (hout : Writes job.perform.out out)
    (herr : Writes job.perform.err err) :
    transcript arguments = { code := job.perform.result.code, out, err } := by
  have hrun : run arguments = job.perform := by
    rw [run, readArguments_eq_ok_iff.2 h]
  have hout' := (hout {} Format.calm_default).1
  have herr' := (herr {} Format.calm_default).1
  rw [transcript, hrun]
  simp only [Console.hear, hout', herr', List.nil_append]

theorem transcript_of_success {arguments : List Text} {job : Job} {message : List Item}
    {out : Text} (h : Asks arguments job)
    (hperform : job.perform = { result := .success, out := message })
    (hout : Writes message out) : transcript arguments = { code := 0, out, err := [] } := by
  rw [transcript_of_asks h (by rw [hperform]; exact hout) (by rw [hperform]; exact Writes.nil),
    hperform]
  rfl

theorem code_eq_zero_iff {status : ExitStatus} : status.code = 0 ↔ status = .success := by
  cases status <;> simp [ExitStatus.code]

/-- A run succeeds exactly when the arguments ask for a job that does. -/
theorem transcript_code_eq_zero_iff_job {arguments : List Text} :
    (transcript arguments).code = 0 ↔
      ∃ job, Asks arguments job ∧ job.perform.result = .success := by
  have hcode : (transcript arguments).code = (run arguments).result.code := rfl
  rw [hcode, code_eq_zero_iff, run]
  constructor
  · intro h
    split at h
    · cases h
    · rename_i job hjob
      exact ⟨job, readArguments_eq_ok_iff.1 hjob, h⟩
  · rintro ⟨job, hjob, h⟩
    rw [readArguments_eq_ok_iff.2 hjob]
    exact h

/-! ### Taking a frame apart -/

theorem perform_decode_init {f : Frame} (h : f.kind = .init) :
    (Job.decode f.toList).perform =
      { result := .success,
        out := field "Kind:    " [.text FrameKind.init.name] ++ initFields (.ofFrame f) } := by
  have hholds := Buffer.holds_ofBytes f.toList
  rw [Job.perform, decode, Buffer.frameKind_of_holds hholds, h]
  simp only [InitPacket.decode_of_holds hholds, present]

theorem perform_decode_continuation {f : Frame} (h : f.kind = .continuation) :
    (Job.decode f.toList).perform =
      { result := .success,
        out := field "Kind:    " [.text FrameKind.continuation.name] ++ contFields (.ofFrame f) } := by
  have hholds := Buffer.holds_ofBytes f.toList
  rw [Job.perform, decode, Buffer.frameKind_of_holds hholds, h]
  simp only [ContPacket.decode_of_holds hholds, present]

theorem perform_decode_success_iff {bytes : List UInt8} :
    (Job.decode bytes).perform.result = .success ↔ ∃ f : Frame, f.toList = bytes := by
  constructor
  · intro h
    by_cases hlength : bytes.length = 64
    · exact ⟨⟨bytes.toArray, by simpa using hlength⟩, rfl⟩
    · rw [Job.perform, decode, Buffer.frameKind_ofBytes_of_ne hlength] at h
      cases h
  · rintro ⟨f, rfl⟩
    cases hkind : f.kind with
    | init => rw [perform_decode_init hkind]
    | continuation => rw [perform_decode_continuation hkind]

theorem transcript_of_init_frame {arguments : List Text} {f : Frame}
    (h : Asks arguments (.decode f.toList)) (hkind : f.kind = .init) :
    transcript arguments = { code := 0, out := initDump (.ofFrame f), err := [] } :=
  transcript_of_success h (perform_decode_init hkind) (writes_initDump _)

theorem transcript_of_continuation_frame {arguments : List Text} {f : Frame}
    (h : Asks arguments (.decode f.toList)) (hkind : f.kind = .continuation) :
    transcript arguments = { code := 0, out := contDump (.ofFrame f), err := [] } :=
  transcript_of_success h (perform_decode_continuation hkind) (writes_contDump _)

/-! ### Putting a frame together -/

theorem perform_buildInit_of_built {p : InitPacket} {cid : ChannelId} {code : UInt8}
    {size : UInt16} {payload : List UInt8} (h : p.BuiltFrom cid code size payload) :
    (Job.buildInit cid code size payload).perform =
      { result := .success, out := reportField p.report } := by
  rw [Job.perform, InitPacket.build_ofBytes_eq_ok_iff.2 h]
  rfl

theorem perform_buildCont_of_built {p : ContPacket} {cid : ChannelId} {sequence : UInt8}
    {payload : List UInt8} (h : p.BuiltFrom cid sequence payload) :
    (Job.buildCont cid sequence payload).perform =
      { result := .success, out := reportField p.report } := by
  rw [Job.perform, ContPacket.build_ofBytes_eq_ok_iff.2 h]
  rfl

theorem present_success_iff {α : Type} {outcome : Outcome α} {failed : Failure → List Item}
    {fields : α → List Item} :
    (present outcome failed fields).result = .success ↔ ∃ x, outcome = .ok x := by
  cases outcome with
  | error failure => simp [present, fail]
  | ok x => simp [present]

theorem perform_buildInit_success_iff {cid : ChannelId} {code : UInt8} {size : UInt16}
    {payload : List UInt8} :
    (Job.buildInit cid code size payload).perform.result = .success ↔
      ∃ p : InitPacket, p.BuiltFrom cid code size payload := by
  rw [Job.perform, present_success_iff]
  exact exists_congr fun p => InitPacket.build_ofBytes_eq_ok_iff

theorem perform_buildCont_success_iff {cid : ChannelId} {sequence : UInt8}
    {payload : List UInt8} :
    (Job.buildCont cid sequence payload).perform.result = .success ↔
      ∃ p : ContPacket, p.BuiltFrom cid sequence payload := by
  rw [Job.perform, present_success_iff]
  exact exists_congr fun p => ContPacket.build_ofBytes_eq_ok_iff

theorem transcript_of_built_init {arguments : List Text} {p : InitPacket} {cid : ChannelId}
    {code : UInt8} {size : UInt16} {payload : List UInt8}
    (h : Asks arguments (.buildInit cid code size payload))
    (hp : p.BuiltFrom cid code size payload) :
    transcript arguments =
      { code := 0, out := line "Report: " (Hex.render p.report.toList), err := [] } :=
  transcript_of_success h (perform_buildInit_of_built hp) (writes_reportField _)

theorem transcript_of_built_cont {arguments : List Text} {p : ContPacket} {cid : ChannelId}
    {sequence : UInt8} {payload : List UInt8}
    (h : Asks arguments (.buildCont cid sequence payload))
    (hp : p.BuiltFrom cid sequence payload) :
    transcript arguments =
      { code := 0, out := line "Report: " (Hex.render p.report.toList), err := [] } :=
  transcript_of_success h (perform_buildCont_of_built hp) (writes_reportField _)

/-! ### Success -/

/-- **A run succeeds when there is a frame to take apart or a packet to put together, only then.** -/
theorem transcript_code_eq_zero_iff {arguments : List Text} :
    (transcript arguments).code = 0 ↔
      (∃ f : Frame, Asks arguments (.decode f.toList)) ∨
      (∃ cid code size payload p, Asks arguments (.buildInit cid code size payload) ∧
        InitPacket.BuiltFrom p cid code size payload) ∨
      (∃ cid sequence payload p, Asks arguments (.buildCont cid sequence payload) ∧
        ContPacket.BuiltFrom p cid sequence payload) := by
  rw [transcript_code_eq_zero_iff_job]
  constructor
  · rintro ⟨job, hasks, hsuccess⟩
    cases job with
    | decode bytes =>
        obtain ⟨f, rfl⟩ := perform_decode_success_iff.1 hsuccess
        exact Or.inl ⟨f, hasks⟩
    | buildInit cid code size payload =>
        obtain ⟨p, hp⟩ := perform_buildInit_success_iff.1 hsuccess
        exact Or.inr (Or.inl ⟨cid, code, size, payload, p, hasks, hp⟩)
    | buildCont cid sequence payload =>
        obtain ⟨p, hp⟩ := perform_buildCont_success_iff.1 hsuccess
        exact Or.inr (Or.inr ⟨cid, sequence, payload, p, hasks, hp⟩)
  · rintro (⟨f, hasks⟩ | ⟨cid, code, size, payload, p, hasks, hp⟩ |
      ⟨cid, sequence, payload, p, hasks, hp⟩)
    · exact ⟨_, hasks, perform_decode_success_iff.2 ⟨f, rfl⟩⟩
    · exact ⟨_, hasks, perform_buildInit_success_iff.2 ⟨p, hp⟩⟩
    · exact ⟨_, hasks, perform_buildCont_success_iff.2 ⟨p, hp⟩⟩

/-- A run that succeeds in the mode for dumps had a frame. -/
theorem exists_dumped {arguments : List Text} (h : (transcript arguments).code = 0)
    (hmode : arguments.head? = some (ascii "decode")) :
    ∃ f : Frame, Asks arguments (.decode f.toList) := by
  rcases transcript_code_eq_zero_iff.1 h with hframe | ⟨_, _, _, _, _, hasks, -⟩ |
    ⟨_, _, _, _, hasks, -⟩
  · exact hframe
  · cases hasks
    exact absurd (Option.some.inj hmode) (by decide)
  · cases hasks
    exact absurd (Option.some.inj hmode) (by decide)

/-- A run that succeeds in the mode for init frames has built one. -/
theorem exists_built_init {arguments : List Text} (h : (transcript arguments).code = 0)
    (hmode : arguments.head? = some (ascii "init")) :
    ∃ cid code size payload p, Asks arguments (.buildInit cid code size payload) ∧
      InitPacket.BuiltFrom p cid code size payload := by
  rcases transcript_code_eq_zero_iff.1 h with ⟨_, hasks⟩ | hbuilt | ⟨_, _, _, _, hasks, -⟩
  · cases hasks
    exact absurd (Option.some.inj hmode) (by decide)
  · exact hbuilt
  · cases hasks
    exact absurd (Option.some.inj hmode) (by decide)

/-- A run that succeeds in the mode for continuations has built one. -/
theorem exists_built_cont {arguments : List Text} (h : (transcript arguments).code = 0)
    (hmode : arguments.head? = some (ascii "cont")) :
    ∃ cid sequence payload p, Asks arguments (.buildCont cid sequence payload) ∧
      ContPacket.BuiltFrom p cid sequence payload := by
  rcases transcript_code_eq_zero_iff.1 h with ⟨_, hasks⟩ | ⟨_, _, _, _, _, hasks, -⟩ | hbuilt
  · cases hasks
    exact absurd (Option.some.inj hmode) (by decide)
  · cases hasks
    exact absurd (Option.some.inj hmode) (by decide)
  · exact hbuilt

/-! ### Failure -/

/-- What is written about arguments that ask for nothing. -/
def Complaint.report : Complaint → Text
  | usage =>
      ascii "Usage:\n" ++ ascii "  frame_dump decode <frame hex, 64 bytes>\n"
        ++ ascii "  frame_dump init <cid hex> <cmd hex> <bcnt> [payload hex]\n"
        ++ ascii "  frame_dump cont <cid hex> <seq> [payload hex]\n"
  | frameNotHex => ascii "Frame is not valid hex\n"
  | badChannelId => ascii "Channel id must be 4 hex bytes\n"
  | badCommand => ascii "Command must be one hex byte\n"
  | payloadNotHex => ascii "Payload is not valid hex\n"
  | badSize => ascii "BCNT must be a decimal number 0-65535\n"
  | badSequence => ascii "Sequence must be a decimal number 0-255\n"

theorem Complaint.writes_diagnostic (complaint : Complaint) :
    Writes complaint.diagnostic complaint.report := by
  cases complaint with
  | usage =>
      have h := (((Writes.nil.ascii "  frame_dump cont <cid hex> <seq> [payload hex]\n").ascii
        "  frame_dump init <cid hex> <cmd hex> <bcnt> [payload hex]\n").ascii
        "  frame_dump decode <frame hex, 64 bytes>\n").ascii "Usage:\n"
      simpa only [diagnostic, report, List.append_assoc, List.append_nil] using h
  | badChannelId =>
      have h := ((Writes.nil.ascii " hex bytes\n").number Layout.channelIdSize).ascii
        "Channel id must be "
      have hreport : report .badChannelId = ascii "Channel id must be "
          ++ (numeral .decimal false Layout.channelIdSize ++ (ascii " hex bytes\n" ++ [])) := by
        decide
      rw [hreport]
      exact h
  | frameNotHex => exact writes_text _
  | badCommand => exact writes_text _
  | payloadNotHex => exact writes_text _
  | badSize => exact writes_text _
  | badSequence => exact writes_text _

/-- What is written about a packet that was refused: its own line, and one that names the error. -/
def encodeReport (refusal : Refusal) : Text :=
  refusal.sentence ++ ascii "\n" ++ line "Encode failed: " refusal.error.message

theorem writes_encodeFailed (refusal : Refusal) :
    Writes (refusal.diagnostic ++ encodeFailed (.refused refusal)) (encodeReport refusal) :=
  refusal.writes_diagnostic.append
    (writes_field "Encode failed: " (writes_text refusal.error.message))

/-- A run that fails prints nothing, and all it writes is its message. -/
theorem transcript_of_fail {arguments : List Text} {message : List Item} {err : Text}
    (hrun : run arguments = fail message) (herr : Writes message err) :
    transcript arguments = { code := 1, out := [], err } := by
  have herr' := (herr {} Format.calm_default).1
  rw [transcript, hrun]
  simp only [Console.hear, fail, herr', Stream.emit_nil, List.nil_append]
  rfl

theorem transcript_of_complaint {arguments : List Text} {complaint : Complaint}
    (h : readArguments arguments = .error complaint) :
    transcript arguments = { code := 1, out := [], err := complaint.report } :=
  transcript_of_fail (by rw [run, h]) complaint.writes_diagnostic

/-- A packet that is refused is reported by itself and then by the run. -/
theorem transcript_of_refused {α : Type} {arguments : List Text} {job : Job}
    {outcome : Outcome α} {fields : α → List Item} {refusal : Refusal} (h : Asks arguments job)
    (hjob : job.perform = present outcome encodeFailed fields)
    (hrefused : outcome = .refuse refusal) :
    transcript arguments = { code := 1, out := [], err := encodeReport refusal } := by
  refine transcript_of_fail ?_ (writes_encodeFailed refusal)
  rw [run, readArguments_eq_ok_iff.2 h]
  show job.perform = _
  rw [hjob, hrefused]
  rfl

theorem transcript_of_refused_init {arguments : List Text} {cid : ChannelId} {code : UInt8}
    {size : UInt16} {payload : List UInt8} {refusal : Refusal}
    (h : Asks arguments (.buildInit cid code size payload))
    (hrefused : InitPacket.build cid code size (.ofBytes payload) = .refuse refusal) :
    transcript arguments = { code := 1, out := [], err := encodeReport refusal } :=
  transcript_of_refused h rfl hrefused

theorem transcript_of_refused_cont {arguments : List Text} {cid : ChannelId} {sequence : UInt8}
    {payload : List UInt8} {refusal : Refusal} (h : Asks arguments (.buildCont cid sequence payload))
    (hrefused : ContPacket.build cid sequence (.ofBytes payload) = .refuse refusal) :
    transcript arguments = { code := 1, out := [], err := encodeReport refusal } :=
  transcript_of_refused h rfl hrefused

/-- A byte that is no command's is refused, by the packet first and then by the run. -/
theorem transcript_of_undeclared {arguments : List Text} {cid : ChannelId} {code : UInt8}
    {size : UInt16} {payload : List UInt8} (h : Asks arguments (.buildInit cid code size payload))
    (hcode : ¬∃ command : Command, command.byte = code) :
    transcript arguments =
      { code := 1, out := [],
        err := line "Refusing init frame with unknown command 0x"
            (numeral .hexadecimal false code.toNat)
          ++ line "Encode failed: " (ascii "invalid command") } :=
  transcript_of_refused_init h (InitPacket.build_of_undeclared hcode cid size _)

end HidLink.Dump
