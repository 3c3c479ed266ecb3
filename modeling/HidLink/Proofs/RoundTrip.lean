/-
From arguments to a report to a dump, and from a dump back to the report.

What is asked for on one command line can be read off another.  A report that was printed
is taken apart again by a run that is given its frame, and the fields of that dump are the
arguments, in the one spelling that dumps have.  The other way round, the fields of a dump
are arguments from which the frame is put together again: they are hex of just the right
length and numbers within bounds, since they came from a frame that has no room for more.

Only one frame does not come back, an init frame whose command byte is not declared.  It
can be dumped but not built, and the run that is asked to build it fails without output.

A dump shows a command by its name, which no argument has.  The names are therefore held
against a table of their own.
-/
import HidLink.Proofs.Dump

namespace HidLink

theorem Frame.toList_report (f : Frame) : f.report.toList = 0 :: f.toList := by
  rw [report, Vector.toList_cast, Vector.toList_append]
  rfl

/-! ### The declared commands -/

namespace Command

/-- The bytes that are declared, and under which names. -/
def declarations : List (UInt8 × Text) :=
  [(0x00, ascii "INVALID"), (0x01, ascii "PING"), (0x03, ascii "MSG"), (0x04, ascii "LOCK"),
    (0x06, ascii "INIT"), (0x08, ascii "WINK"), (0x10, ascii "CBOR"), (0x11, ascii "CANCEL"),
    (0x3B, ascii "KEEPALIVE"), (0x3F, ascii "ERROR")]

/-- There is a command for every entry of the table, and an entry for every command. -/
theorem mem_declarations_iff {code : UInt8} {name : Text} :
    (code, name) ∈ declarations ↔
      ∃ command : Command, command.byte = code ∧ command.name = name := by
  have htable : declarations =
      [invalid, ping, msg, lock, init, wink, cbor, cancel, keepalive, error].map
        fun command => (command.byte, command.name) := rfl
  rw [htable, List.mem_map]
  constructor
  · rintro ⟨command, -, hentry⟩
    obtain ⟨hbyte, hname⟩ := Prod.mk.inj hentry
    exact ⟨command, hbyte, hname⟩
  · rintro ⟨command, rfl, rfl⟩
    exact ⟨command, by cases command <;> decide, rfl⟩

/-- A byte is declared under one name. -/
theorem name_eq_of_mem_declarations {command : Command} {name : Text}
    (h : (command.byte, name) ∈ declarations) : name = command.name := by
  obtain ⟨declared, hbyte, hname⟩ := mem_declarations_iff.1 h
  rw [← hname, byte_inj.1 hbyte]

end Command

namespace Dump

/-- The digits of a report are two zeros and the digits of its frame. -/
theorem render_report (f : Frame) :
    Hex.render f.report.toList = ascii "00" ++ Hex.render f.toList := by
  rw [Frame.toList_report, Hex.render_cons]
  rfl

/-! ### From a report to its dump -/

theorem drop_render_report (f : Frame) :
    (Hex.render f.report.toList).drop 2 = Hex.render f.toList := by
  rw [render_report]
  rfl

theorem length_render_report (r : Report) : (Hex.render r.toList).length = 130 := by
  rw [Hex.length_render, Vector.length_toList]

theorem asks_decode_render (f : Frame) :
    Asks [ascii "decode", Hex.render f.toList] (.decode f.toList) :=
  .decode (Hex.spells_render f.toList)

theorem transcript_decode_init_report {p : InitPacket} (hp : p.Consistent) :
    transcript [ascii "decode", (Hex.render p.report.toList).drop 2] =
      { code := 0, out := initDump p, err := [] } := by
  rw [InitPacket.report, drop_render_report,
    transcript_of_init_frame (asks_decode_render p.frame) p.kind_frame,
    InitPacket.ofFrame_frame hp]

theorem transcript_decode_cont_report {p : ContPacket} (hp : p.sequence ≤ 0x7F) :
    transcript [ascii "decode", (Hex.render p.report.toList).drop 2] =
      { code := 0, out := contDump p, err := [] } := by
  rw [ContPacket.report, drop_render_report, transcript_of_continuation_frame
    (asks_decode_render p.frame) (ContPacket.kind_frame_eq_continuation_iff.2 hp),
    ContPacket.ofFrame_frame]

/--
**The dump of a printed report shows what the report was asked to hold.**

However the arguments were spelled, the dump has one spelling for them: capitals without
blanks, a number without leading zeros, and zeros behind the payload.  The name is the one
that is declared for the byte of the command.
-/
theorem printed_report_dump (arguments : List Text) (h : (transcript arguments).code = 0) :
    (arguments.head? = some (ascii "init") →
      ∃ (cid : ChannelId) (code : UInt8) (name : Text) (size : UInt16) (payload : List UInt8)
          (digits : Text),
        (code, name) ∈ Command.declarations ∧
        Asks arguments (.buildInit cid code size payload) ∧
        transcript arguments = { code := 0, out := line "Report: " digits, err := [] } ∧
        digits.length = 130 ∧ (∀ c ∈ digits, Hex.IsCapital c) ∧
        transcript [ascii "decode", digits.drop 2] =
          { code := 0
            out := initLines (Hex.render cid.toList) name
              (numeral .hexadecimal false code.toNat) (numeral .decimal false size.toNat)
              (Hex.render (payload ++ List.replicate (57 - payload.length) 0))
            err := [] }) ∧
    (arguments.head? = some (ascii "cont") →
      ∃ (cid : ChannelId) (sequence : UInt8) (payload : List UInt8) (digits : Text),
        Asks arguments (.buildCont cid sequence payload) ∧
        transcript arguments = { code := 0, out := line "Report: " digits, err := [] } ∧
        digits.length = 130 ∧ (∀ c ∈ digits, Hex.IsCapital c) ∧
        transcript [ascii "decode", digits.drop 2] =
          { code := 0
            out := contLines (Hex.render cid.toList) (numeral .decimal false sequence.toNat)
              (Hex.render (payload ++ List.replicate (59 - payload.length) 0))
            err := [] }) := by
  refine ⟨?_, ?_⟩
  · intro hmode
    obtain ⟨cid, code, size, payload, p, hasks, hp⟩ := exists_built_init h hmode
    have hreport := transcript_of_built_init hasks hp
    have hdump := transcript_decode_init_report hp.consistent
    have hdeclared : (code, p.command.name) ∈ Command.declarations :=
      Command.mem_declarations_iff.2 ⟨p.command, hp.command_byte, rfl⟩
    rw [initDump, hp.cid_eq, hp.size_eq, hp.payload_eq, hp.commandByte_eq] at hdump
    exact ⟨cid, code, _, size, payload, _, hdeclared, hasks, hreport, length_render_report _,
      Hex.isCapital_of_mem_render, hdump⟩
  · intro hmode
    obtain ⟨cid, sequence, payload, p, hasks, hp⟩ := exists_built_cont h hmode
    have hreport := transcript_of_built_cont hasks hp
    have hdump := transcript_decode_cont_report (hp.sequence_eq ▸ hp.sequence_le)
    rw [contDump, hp.cid_eq, hp.sequence_eq, hp.payload_eq] at hdump
    exact ⟨cid, sequence, payload, _, hasks, hreport, length_render_report _,
      Hex.isCapital_of_mem_render, hdump⟩

/--
Blanks and either case in hex, zeros in front of a number, an argument too many: nothing of
this is left in the dump, and each command comes with its own name.
-/
theorem printed_report_dump_spelled_freely :
    (∃ digits,
      transcript [ascii "init", ascii "0a 0B\t0c0D", ascii "3B", ascii "0007", ascii "ab Cd",
          ascii "more"] =
        { code := 0, out := line "Report: " digits, err := [] } ∧
      transcript [ascii "decode", digits.drop 2] =
        { code := 0
          out := initLines (ascii "0A0B0C0D") (ascii "KEEPALIVE") (ascii "3b") (ascii "7")
            (ascii "ABCD" ++ List.replicate 110 48)
          err := [] }) ∧
    (∃ digits,
      transcript [ascii "init", ascii "ffffffff", ascii "0 1", ascii "65535"] =
        { code := 0, out := line "Report: " digits, err := [] } ∧
      transcript [ascii "decode", digits.drop 2] =
        { code := 0
          out := initLines (ascii "FFFFFFFF") (ascii "PING") (ascii "1") (ascii "65535")
            (List.replicate 114 48)
          err := [] }) ∧
    (∃ digits,
      transcript [ascii "cont", ascii "0a0b0c0d", ascii "00127"] =
        { code := 0, out := line "Report: " digits, err := [] } ∧
      transcript [ascii "decode", digits.drop 2] =
        { code := 0
          out := contLines (ascii "0A0B0C0D") (ascii "127") (List.replicate 118 48)
          err := [] }) := by
  refine ⟨?_, ?_, ?_⟩
  · obtain ⟨hinit, -⟩ := printed_report_dump
      [ascii "init", ascii "0a 0B\t0c0D", ascii "3B", ascii "0007", ascii "ab Cd", ascii "more"]
      (by decide +kernel)
    obtain ⟨cid, code, name, size, payload, digits, hdeclared, hasks, hreport, -, -, hdump⟩ :=
      hinit rfl
    have hjob : Job.buildInit cid code size payload =
        .buildInit #v[0x0A, 0x0B, 0x0C, 0x0D] Command.keepalive.byte 7 [0xAB, 0xCD] :=
      hasks.unique (readArguments_eq_ok_iff.1 (by decide +kernel))
    obtain ⟨rfl, rfl, rfl, rfl⟩ := Job.buildInit.inj hjob
    rw [Command.name_eq_of_mem_declarations hdeclared] at hdump
    refine ⟨digits, hreport, hdump.trans ?_⟩
    decide +kernel
  · obtain ⟨hinit, -⟩ := printed_report_dump
      [ascii "init", ascii "ffffffff", ascii "0 1", ascii "65535"] (by decide +kernel)
    obtain ⟨cid, code, name, size, payload, digits, hdeclared, hasks, hreport, -, -, hdump⟩ :=
      hinit rfl
    have hjob : Job.buildInit cid code size payload =
        .buildInit Layout.broadcastChannel Command.ping.byte 65535 [] :=
      hasks.unique (readArguments_eq_ok_iff.1 (by decide +kernel))
    obtain ⟨rfl, rfl, rfl, rfl⟩ := Job.buildInit.inj hjob
    rw [Command.name_eq_of_mem_declarations hdeclared] at hdump
    refine ⟨digits, hreport, hdump.trans ?_⟩
    decide +kernel
  · obtain ⟨-, hcont⟩ := printed_report_dump [ascii "cont", ascii "0a0b0c0d", ascii "00127"]
      (by decide +kernel)
    obtain ⟨cid, sequence, payload, digits, hasks, hreport, -, -, hdump⟩ := hcont rfl
    have hjob : Job.buildCont cid sequence payload =
        .buildCont #v[0x0A, 0x0B, 0x0C, 0x0D] 127 [] :=
      hasks.unique (readArguments_eq_ok_iff.1 (by decide +kernel))
    obtain ⟨rfl, rfl, rfl⟩ := Job.buildCont.inj hjob
    refine ⟨digits, hreport, hdump.trans ?_⟩
    decide +kernel

/-! ### From a dump to the report -/

theorem denotes_upToZero_numeral (n : Nat) :
    Decimal.Denotes (numeral .decimal false n).upToZero n := by
  have h := Decimal.denotes_numeral false n
  rwa [h.upToZero_eq]

/-- The fields on a dump are arguments that ask for the packet again. -/
theorem asks_cont_dump (p : ContPacket) :
    Asks [ascii "cont", Hex.render p.cid.toList, numeral .decimal false p.sequence.toNat,
        Hex.render p.payload.toList]
      (.buildCont p.cid p.sequence p.payload.toList) :=
  .cont (Hex.spells_render _) (denotes_upToZero_numeral _) (Hex.spells_render _)

theorem asks_init_dump (p : InitPacket) {hex : Text} (h : Hex.Spells hex [p.commandByte]) :
    Asks [ascii "init", Hex.render p.cid.toList, hex, numeral .decimal false p.size.toNat,
        Hex.render p.payload.toList]
      (.buildInit p.cid p.commandByte p.size p.payload.toList) :=
  .init (Hex.spells_render _) h (denotes_upToZero_numeral _) (Hex.spells_render _)

theorem transcript_rebuild_cont {f : Frame} (h : f.kind = .continuation) :
    let p := ContPacket.ofFrame f
    transcript [ascii "cont", Hex.render p.cid.toList, numeral .decimal false p.sequence.toNat,
        Hex.render p.payload.toList] =
      { code := 0, out := line "Report: " (ascii "00" ++ Hex.render f.toList), err := [] } := by
  intro p
  have hreport := transcript_of_built_cont (asks_cont_dump p) (ContPacket.builtFrom_ofFrame h)
  rwa [ContPacket.report, ContPacket.frame_ofFrame, render_report] at hreport

theorem transcript_rebuild_init {f : Frame} (h : f.kind = .init) {hex : Text}
    (hhex : Hex.Spells hex [(InitPacket.ofFrame f).commandByte]) {command : Command}
    (hdeclared : command.byte = (InitPacket.ofFrame f).commandByte) :
    let p := InitPacket.ofFrame f
    transcript [ascii "init", Hex.render p.cid.toList, hex, numeral .decimal false p.size.toNat,
        Hex.render p.payload.toList] =
      { code := 0, out := line "Report: " (ascii "00" ++ Hex.render f.toList), err := [] } := by
  intro p
  have hreport := transcript_of_built_init (asks_init_dump p hhex)
    (InitPacket.builtFrom_ofFrame hdeclared)
  rwa [InitPacket.report, InitPacket.frame_ofFrame, Frame.marked_of_init h, render_report]
    at hreport

/-- What a dump shows can be told from its text. -/
theorem contDump_inj {p : ContPacket} {cid sequence payload : Text}
    (h : contDump p = contLines cid sequence payload) :
    Hex.render p.cid.toList = cid ∧ numeral .decimal false p.sequence.toNat = sequence ∧
      Hex.render p.payload.toList = payload :=
  contLines_inj (newline_notMem_render _) (plain_numeral _ _).newline_notMem
    (newline_notMem_render _) h

theorem initDump_inj {p : InitPacket} {cid name size payload : Text} {b : UInt8}
    (h : initDump p = initLines cid name (numeral .hexadecimal false b.toNat) size payload) :
    Hex.render p.cid.toList = cid ∧ p.commandByte = b ∧
      numeral .decimal false p.size.toNat = size ∧ Hex.render p.payload.toList = payload := by
  obtain ⟨hcid, -, hbyte, hsize, hpayload⟩ := initLines_inj (newline_notMem_render _)
    (plain_name _) (plain_numeral _ _) (plain_numeral _ _).newline_notMem
    (newline_notMem_render _) h
  exact ⟨hcid, UInt8.toNat_inj.1 (Hex.numeral_inj hbyte), hsize, hpayload⟩

/--
**The fields of a dump are arguments from which the frame is put together again.**

The values are those that can be read on the lines of the dump.  There is no frame for
which a build falls short, but for one whose command is not declared.
-/
theorem rebuilt_from_dump (t : Text) (h : (transcript [ascii "decode", t]).code = 0) :
    ∃ f : Frame, Hex.Spells t f.toList ∧
      ((∃ cid sequence payload,
          (transcript [ascii "decode", t]).out = contLines cid sequence payload) ∨
        (∃ cid name size payload, ∃ b : UInt8, (transcript [ascii "decode", t]).out =
          initLines cid name (numeral .hexadecimal false b.toNat) size payload)) ∧
      (∀ cid sequence payload,
        (transcript [ascii "decode", t]).out = contLines cid sequence payload →
        transcript [ascii "cont", cid, sequence, payload] =
          { code := 0, out := line "Report: " (ascii "00" ++ Hex.render f.toList), err := [] }) ∧
      (∀ cid name size payload, ∀ b : UInt8,
        (transcript [ascii "decode", t]).out =
          initLines cid name (numeral .hexadecimal false b.toNat) size payload →
        ∀ hex, Hex.Spells hex [b] →
          ((∃ command : Command, command.byte = b) →
            transcript [ascii "init", cid, hex, size, payload] =
              { code := 0
                out := line "Report: " (ascii "00" ++ Hex.render f.toList)
                err := [] }) ∧
          ((¬∃ command : Command, command.byte = b) →
            transcript [ascii "init", cid, hex, size, payload] =
              { code := 1
                out := []
                err := line "Refusing init frame with unknown command 0x"
                    (numeral .hexadecimal false b.toNat)
                  ++ line "Encode failed: " (ascii "invalid command") })) := by
  obtain ⟨f, hasks⟩ := exists_dumped h rfl
  have ht : Hex.Spells t f.toList := by
    cases hasks with
    | decode hframe => exact hframe
  refine ⟨f, ht, ?_⟩
  cases hkind : f.kind with
  | continuation =>
      rw [transcript_of_continuation_frame hasks hkind]
      refine ⟨Or.inl ⟨_, _, _, rfl⟩, ?_, ?_⟩
      · intro cid sequence payload hout
        obtain ⟨rfl, rfl, rfl⟩ := contDump_inj hout
        exact transcript_rebuild_cont hkind
      · intro cid name size payload b hout
        exact absurd hout.symm initLines_ne_contLines
  | init =>
      rw [transcript_of_init_frame hasks hkind]
      refine ⟨Or.inr ⟨_, _, _, _, _, rfl⟩, ?_, ?_⟩
      · intro cid sequence payload hout
        exact absurd hout initLines_ne_contLines
      · intro cid name size payload b hout hex hhex
        obtain ⟨rfl, rfl, rfl, rfl⟩ := initDump_inj hout
        refine ⟨?_, ?_⟩
        · rintro ⟨command, hdeclared⟩
          exact transcript_rebuild_init hkind hhex hdeclared
        · intro hundeclared
          exact transcript_of_undeclared (asks_init_dump _ hhex) hundeclared

/--
The largest sequence number fits again, and so does a payload that fills its frame.  A frame
with the byte of no command is dumped, and then refused.
-/
theorem rebuilt_from_dump_full_and_undeclared :
    transcript [ascii "cont", ascii "0A0B0C0D", ascii "127", List.replicate 118 70] =
      { code := 0
        out := line "Report: " (ascii "00" ++ ascii "0A0B0C0D7F" ++ List.replicate 118 70)
        err := [] } ∧
    transcript [ascii "init", ascii "00000001", ascii "7F", ascii "65535",
        List.replicate 114 48] =
      { code := 1
        out := []
        err := ascii "Refusing init frame with unknown command 0x7f\n"
          ++ ascii "Encode failed: invalid command\n" } := by
  refine ⟨?_, ?_⟩
  · obtain ⟨f, hf, -, hcont, -⟩ := rebuilt_from_dump
      (ascii "0a0B 0c0D 7f " ++ List.replicate 118 102) (by decide +kernel)
    have hbytes : f.toList = [0x0A, 0x0B, 0x0C, 0x0D, 0x7F] ++ List.replicate 59 0xFF :=
      hf.unique (Hex.parse?_eq_some_iff.1 (by decide +kernel))
    have hreport := hcont (ascii "0A0B0C0D") (ascii "127") (List.replicate 118 70)
      (by decide +kernel)
    rw [hreport, hbytes]
    decide +kernel
  · obtain ⟨f, -, -, -, hinit⟩ := rebuilt_from_dump
      (ascii "00000001 ff ffff" ++ List.replicate 114 48) (by decide +kernel)
    have hrefused := (hinit (ascii "00000001") (ascii "INVALID") (ascii "65535")
      (List.replicate 114 48) 0x7F (by decide +kernel) (ascii "7F")
      (Hex.parse?_eq_some_iff.1 (by decide +kernel))).2
    have hundeclared : ¬∃ command : Command, command.byte = 0x7F := by
      rintro ⟨command, hbyte⟩
      cases command <;> cases hbyte
    rw [hrefused hundeclared]
    decide +kernel

end Dump

end HidLink
