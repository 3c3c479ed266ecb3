/-
Which command lines are accepted.

Whether a run succeeds is settled by how many arguments there are and by what each of
them looks like: how many hex digits it has, which number it denotes.  The packets add
two conditions to those of the arguments' own language, a declared command and a sequence
number without the mark of an init frame, and the room there is for payload.

No number is cut down to the word it is kept in, whatever the length of the text that
denotes it: the report that is printed holds the number as it stands in the argument.
-/
import HidLink.Proofs.Dump
import HidLink.Proofs.HexCodec

namespace HidLink.Dump

/-! ### What the arguments look like -/

/-- The argument for the payload, if there is one, is hex for `capacity` bytes at most. -/
def PayloadFits (capacity : Nat) (rest : List Text) : Prop :=
  ∀ t ∈ rest.head?, ∃ n ≤ capacity, Hex.HasDigits (2 * n) t

/-- The arguments behind the mode are such that an init frame can be made of them. -/
structure FitForInit (channel command size : Text) (rest : List Text) : Prop where
  channel_digits : Hex.HasDigits 8 channel
  command_digits : Hex.HasDigits 2 command
  declared : ∃ c : Command, Hex.Spells command [c.byte]
  size_fits : ∃ n ≤ 65535, Decimal.Denotes size n
  payload_fits : PayloadFits 57 rest

/-- The arguments behind the mode are such that a continuation can be made of them. -/
structure FitForCont (channel sequence : Text) (rest : List Text) : Prop where
  channel_digits : Hex.HasDigits 8 channel
  sequence_fits : ∃ n ≤ 127, Decimal.Denotes sequence n
  payload_fits : PayloadFits 59 rest

theorem exists_spells_vector_iff {t : Text} {n : Nat} :
    (∃ v : Vector UInt8 n, Hex.Spells t v.toList) ↔ Hex.HasDigits (2 * n) t := by
  rw [← Hex.exists_spells_iff]
  constructor
  · rintro ⟨v, hv⟩
    exact ⟨v.toList, Vector.length_toList, hv⟩
  · rintro ⟨bytes, hlength, hbytes⟩
    exact ⟨⟨bytes.toArray, by simpa using hlength⟩, hbytes⟩

theorem payloadFits_iff {capacity : Nat} {rest : List Text} :
    PayloadFits capacity rest ↔
      ∃ payload, Hex.Spells (rest.head?.getD []) payload ∧ payload.length ≤ capacity := by
  unfold PayloadFits
  cases rest with
  | nil =>
      refine iff_of_true (by simp) ⟨[], ?_, Nat.zero_le capacity⟩
      exact .nil
  | cons t rest =>
      simp only [List.head?_cons, Option.mem_some_iff, forall_eq', Option.getD_some]
      constructor
      · rintro ⟨n, hle, hdigits⟩
        obtain ⟨payload, hlength, hpayload⟩ := Hex.exists_spells_iff.2 hdigits
        exact ⟨payload, hpayload, hlength ▸ hle⟩
      · rintro ⟨payload, hpayload, hle⟩
        exact ⟨payload.length, hle, Hex.exists_spells_iff.1 ⟨payload, rfl, hpayload⟩⟩

/-! ### One mode at a time -/

theorem exists_decode_iff {arguments : List Text} :
    (∃ f : Frame, Asks arguments (.decode f.toList)) ↔
      ∃ frame rest, arguments = ascii "decode" :: frame :: rest ∧ Hex.HasDigits 128 frame := by
  constructor
  · rintro ⟨f, hasks⟩
    cases hasks with
    | decode hframe => exact ⟨_, _, rfl, exists_spells_vector_iff.1 ⟨f, hframe⟩⟩
  · rintro ⟨frame, rest, rfl, hdigits⟩
    obtain ⟨f, hframe⟩ := (@exists_spells_vector_iff frame 64).2 hdigits
    exact ⟨f, .decode hframe⟩

theorem exists_init_iff {arguments : List Text} (h : ∀ t ∈ arguments, 0 ∉ t) :
    (∃ cid code n payload p, Asks arguments (.buildInit cid code n payload) ∧
        InitPacket.BuiltFrom p cid code n payload) ↔
      ∃ channel command size rest,
        arguments = ascii "init" :: channel :: command :: size :: rest ∧
          FitForInit channel command size rest := by
  constructor
  · rintro ⟨cid, code, n, payload, p, hasks, hp⟩
    cases hasks with
    | @init channel command size rest _ _ _ _ hchannel hcommand hn hpayload =>
        rw [Text.upToZero_of_notMem (h size (by simp))] at hn
        refine ⟨channel, command, size, rest, rfl, ?_⟩
        refine ⟨exists_spells_vector_iff.1 ⟨cid, hchannel⟩, ?_, ⟨p.command, ?_⟩, ⟨n.toNat, ?_, hn⟩, ?_⟩
        · exact Hex.exists_spells_iff.1 ⟨[code], rfl, hcommand⟩
        · rw [hp.command_byte]
          exact hcommand
        · exact Nat.le_of_lt_succ n.toNat_lt
        · exact payloadFits_iff.2 ⟨payload, hpayload, hp.fits⟩
  · rintro ⟨channel, command, size, rest, rfl, hfit⟩
    obtain ⟨cid, hcid⟩ := (@exists_spells_vector_iff channel 4).2 hfit.channel_digits
    obtain ⟨c, hc⟩ := hfit.declared
    obtain ⟨n, hle, hn⟩ := hfit.size_fits
    obtain ⟨payload, hpayload, hfits⟩ := payloadFits_iff.1 hfit.payload_fits
    obtain ⟨p, hp⟩ := InitPacket.exists_builtFrom cid c (UInt16.ofNat n) hfits
    have hword : (UInt16.ofNat n).toNat = n := UInt16.toNat_ofNat_of_lt' (Nat.lt_succ_of_le hle)
    refine ⟨cid, c.byte, UInt16.ofNat n, payload, p, .init hcid hc ?_ hpayload, hp⟩
    rw [Text.upToZero_of_notMem (h size (by simp)), hword]
    exact hn

theorem exists_cont_iff {arguments : List Text} (h : ∀ t ∈ arguments, 0 ∉ t) :
    (∃ cid n payload p, Asks arguments (.buildCont cid n payload) ∧
        ContPacket.BuiltFrom p cid n payload) ↔
      ∃ channel sequence rest, arguments = ascii "cont" :: channel :: sequence :: rest ∧
        FitForCont channel sequence rest := by
  constructor
  · rintro ⟨cid, n, payload, p, hasks, hp⟩
    cases hasks with
    | @cont channel sequence rest _ _ _ hchannel hn hpayload =>
        rw [Text.upToZero_of_notMem (h sequence (by simp))] at hn
        refine ⟨channel, sequence, rest, rfl, ?_⟩
        refine ⟨exists_spells_vector_iff.1 ⟨cid, hchannel⟩, ⟨n.toNat, ?_, hn⟩, ?_⟩
        · exact UInt8.le_iff_toNat_le.1 hp.sequence_le
        · exact payloadFits_iff.2 ⟨payload, hpayload, hp.fits⟩
  · rintro ⟨channel, sequence, rest, rfl, hfit⟩
    obtain ⟨cid, hcid⟩ := (@exists_spells_vector_iff channel 4).2 hfit.channel_digits
    obtain ⟨n, hle, hn⟩ := hfit.sequence_fits
    obtain ⟨payload, hpayload, hfits⟩ := payloadFits_iff.1 hfit.payload_fits
    have hword : (UInt8.ofNat n).toNat = n :=
      UInt8.toNat_ofNat_of_lt' (Nat.lt_of_le_of_lt hle (by decide))
    have hrange : UInt8.ofNat n ≤ 0x7F := UInt8.le_iff_toNat_le.2 (by rw [hword]; exact hle)
    obtain ⟨p, hp⟩ := ContPacket.exists_builtFrom cid hrange hfits
    refine ⟨cid, UInt8.ofNat n, payload, p, .cont hcid ?_ hpayload, hp⟩
    rw [Text.upToZero_of_notMem (h sequence (by simp)), hword]
    exact hn

/-! ### All command lines -/

/--
**A run succeeds exactly for the command lines of three kinds, and prints what they say.**

Arguments hold no zero bytes, for these end a text.  A digit string may be of any length;
the length and the sequence number in the report are the very numbers it denotes.  What is
printed spells the bytes of this report, and its frame is read as the same packet.
-/
theorem accepted_iff (arguments : List Text) (h : ∀ t ∈ arguments, 0 ∉ t) :
    ((transcript arguments).code = 0 ↔
      (∃ frame rest, arguments = ascii "decode" :: frame :: rest ∧ Hex.HasDigits 128 frame) ∨
      (∃ channel command size rest,
        arguments = ascii "init" :: channel :: command :: size :: rest ∧
          FitForInit channel command size rest) ∨
      (∃ channel sequence rest, arguments = ascii "cont" :: channel :: sequence :: rest ∧
        FitForCont channel sequence rest)) ∧
    (∀ channel command size rest,
      arguments = ascii "init" :: channel :: command :: size :: rest →
        (transcript arguments).code = 0 →
      ∃ (p : InitPacket) (payload : List UInt8) (digits : Text),
        transcript arguments = { code := 0, out := line "Report: " digits, err := [] } ∧
        Hex.Spells digits p.report.toList ∧ (∀ c ∈ digits, Hex.IsCapital c) ∧
        InitPacket.decode (.ofBytes (Frame.ofReport p.report).toList) = .ok p ∧
        Hex.Spells channel p.cid.toList ∧ Hex.Spells command [p.commandByte] ∧
        Decimal.Denotes size p.size.toNat ∧ Hex.Spells (rest.head?.getD []) payload ∧
        p.payload.toList = payload ++ List.replicate (57 - payload.length) 0) ∧
    (∀ channel sequence rest, arguments = ascii "cont" :: channel :: sequence :: rest →
        (transcript arguments).code = 0 →
      ∃ (p : ContPacket) (payload : List UInt8) (digits : Text),
        transcript arguments = { code := 0, out := line "Report: " digits, err := [] } ∧
        Hex.Spells digits p.report.toList ∧ (∀ c ∈ digits, Hex.IsCapital c) ∧
        ContPacket.decode (.ofBytes (Frame.ofReport p.report).toList) = .ok p ∧
        Hex.Spells channel p.cid.toList ∧ Decimal.Denotes sequence p.sequence.toNat ∧
        Hex.Spells (rest.head?.getD []) payload ∧
        p.payload.toList = payload ++ List.replicate (59 - payload.length) 0) := by
  refine ⟨?_, ?_, ?_⟩
  · rw [transcript_code_eq_zero_iff, exists_decode_iff, exists_init_iff h, exists_cont_iff h]
  · rintro channel command size rest rfl hcode
    obtain ⟨cid, code, n, payload, p, hasks, hp⟩ := exists_built_init hcode rfl
    have hreport := transcript_of_built_init hasks hp
    have hdecode := InitPacket.decode_report hp.consistent (Buffer.holds_ofBytes _)
    cases hasks with
    | init hchannel hcommand hsize hpayload =>
        rw [Text.upToZero_of_notMem (h size (by simp)), ← hp.size_eq] at hsize
        rw [← hp.cid_eq] at hchannel
        rw [← hp.commandByte_eq] at hcommand
        exact ⟨p, payload, _, hreport, Hex.spells_render _, Hex.isCapital_of_mem_render, hdecode,
          hchannel, hcommand, hsize, hpayload, hp.payload_eq⟩
  · rintro channel sequence rest rfl hcode
    obtain ⟨cid, n, payload, p, hasks, hp⟩ := exists_built_cont hcode rfl
    have hreport := transcript_of_built_cont hasks hp
    have hdecode := ContPacket.decode_report (p := p) (Buffer.holds_ofBytes _)
    cases hasks with
    | cont hchannel hsequence hpayload =>
        rw [Text.upToZero_of_notMem (h sequence (by simp)), ← hp.sequence_eq] at hsequence
        rw [← hp.cid_eq] at hchannel
        exact ⟨p, payload, _, hreport, Hex.spells_render _, Hex.isCapital_of_mem_render, hdecode,
          hchannel, hsequence, hpayload, hp.payload_eq⟩

/--
Leading zeros make no number too large, however many there are, and an argument too many
does no harm; but a length that would wrap a word of 64 bits around to one is not taken for one.
-/
theorem accepted_iff_long_numbers :
    transcript [ascii "cont", ascii "0a 0B\t0c0D", ascii "000000000000000000000000127",
        ascii " ", ascii "more"] =
      { code := 0
        out := ascii "Report: 000A0B0C0D7F" ++ List.replicate 118 48 ++ ascii "\n"
        err := [] } ∧
    (transcript [ascii "init", ascii "00000001", ascii "01",
        ascii "18446744073709551617"]).code ≠ 0 := by
  refine ⟨?_, ?_⟩
  · obtain ⟨haccepted, -, hcont⟩ := accepted_iff
      [ascii "cont", ascii "0a 0B\t0c0D", ascii "000000000000000000000000127", ascii " ",
        ascii "more"] (by decide)
    have hfit : FitForCont (ascii "0a 0B\t0c0D") (ascii "000000000000000000000000127")
        [ascii " ", ascii "more"] := by
      have hnumber : Decimal.Denotes (ascii "000000000000000000000000127") 127 :=
        ⟨by decide, by decide +kernel, by decide +kernel⟩
      refine ⟨by decide +kernel, ⟨127, by decide, hnumber⟩, ?_⟩
      intro t ht
      obtain rfl := Option.some.inj ht
      exact ⟨0, by decide, by decide +kernel⟩
    have hcode := haccepted.2 (Or.inr (Or.inr ⟨_, _, _, rfl, hfit⟩))
    obtain ⟨p, payload, digits, hreport, hdigits, hcapitals, -, hchannel, hsequence, hpayload,
      hpadded⟩ := hcont _ _ _ rfl hcode
    have hcid : p.cid = #v[0x0A, 0x0B, 0x0C, 0x0D] :=
      Vector.toList_inj.1 (hchannel.unique (Hex.parse?_eq_some_iff.1 (by decide +kernel)))
    have hlast : p.sequence = 127 := UInt8.toNat_inj.1 hsequence.number_eq.symm
    obtain rfl : payload = [] := hpayload.unique (Hex.parse?_eq_some_iff.1 (by decide +kernel))
    have hzeros : p.payload = Vector.replicate 59 0 :=
      Vector.toList_inj.1 (hpadded.trans Vector.toList_replicate.symm)
    have hp : p = ⟨#v[0x0A, 0x0B, 0x0C, 0x0D], 127, Vector.replicate 59 0⟩ :=
      ContPacket.ext hcid hlast hzeros
    rw [hreport, hdigits.eq_render hcapitals, hp]
    decide +kernel
  · obtain ⟨haccepted, -⟩ := accepted_iff
      [ascii "init", ascii "00000001", ascii "01", ascii "18446744073709551617"] (by decide)
    intro hcode
    rcases haccepted.1 hcode with ⟨_, _, hmode, -⟩ | ⟨_, _, _, _, hmode, hfit⟩ | ⟨_, _, _, hmode, -⟩
    · exact absurd (List.cons.inj hmode).1 (by decide)
    · simp only [List.cons.injEq] at hmode
      obtain ⟨-, -, -, rfl, -⟩ := hmode
      obtain ⟨n, hle, hn⟩ := hfit.size_fits
      have hnumber : 18446744073709551617 = n := hn.number_eq
      omega
    · exact absurd (List.cons.inj hmode).1 (by decide)

end HidLink.Dump
