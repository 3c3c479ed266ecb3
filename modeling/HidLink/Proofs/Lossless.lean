/-
A dump tells one frame from every other.

Two runs that print the same have been given the same bytes.  The first line says which kind
the frames are, so that dumps of different kinds differ there already, and for one kind the
values can be read off the lines behind it.  Numbers are written without padding, but a
numeral ends where its line or its bracket does, and no two numbers share one.  So the two
packets agree in all that is shown.

What is shown is all there is in a frame.  The name of an init packet's command is not
enough for that, since all undeclared bytes have one name in common, but the byte stands
beside it, and the name follows from the byte.
-/
import HidLink.Proofs.HexCodec
import HidLink.Proofs.RoundTrip

namespace HidLink

/-! ### Frames and their packets -/

/-- Frames with the mark of an init frame are told apart by the packets read from them. -/
theorem InitPacket.ofFrame_inj {f g : Frame} (hf : f.kind = .init) (hg : g.kind = .init)
    (h : InitPacket.ofFrame f = InitPacket.ofFrame g) : f = g := by
  have hmarked : f.marked = g.marked := by
    rw [← InitPacket.frame_ofFrame, h, InitPacket.frame_ofFrame]
  rwa [Frame.marked_of_init hf, Frame.marked_of_init hg] at hmarked

theorem ContPacket.ofFrame_inj {f g : Frame} (h : ContPacket.ofFrame f = ContPacket.ofFrame g) :
    f = g := by
  rw [← ContPacket.frame_ofFrame f, h, ContPacket.frame_ofFrame]

namespace Dump

/-! ### Packets and their dumps -/

theorem render_toList_inj {n : Nat} {v w : Vector UInt8 n}
    (h : Hex.render v.toList = Hex.render w.toList) : v = w :=
  Vector.toList_inj.1 (Hex.render_inj h)

theorem contDump_eq_iff {p q : ContPacket} : contDump p = contDump q ↔ p = q := by
  refine ⟨fun h => ?_, fun h => h ▸ rfl⟩
  obtain ⟨hcid, hsequence, hpayload⟩ := contDump_inj h
  apply ContPacket.ext
  · exact render_toList_inj hcid
  · exact UInt8.toNat_inj.1 (Hex.numeral_inj hsequence)
  · exact render_toList_inj hpayload

/-- The command is not compared by its name: it is the one its byte is read as. -/
theorem initDump_eq_iff {p q : InitPacket} (hp : p.Consistent) (hq : q.Consistent) :
    initDump p = initDump q ↔ p = q := by
  refine ⟨fun h => ?_, fun h => h ▸ rfl⟩
  obtain ⟨hcid, hbyte, hsize, hpayload⟩ := initDump_inj h
  apply InitPacket.ext
  · exact render_toList_inj hcid
  · rw [hp.command_eq, hq.command_eq, hbyte]
  · exact hbyte
  · exact UInt16.toNat_inj.1 (Hex.numeral_inj hsize)
  · exact render_toList_inj hpayload

/-! ### Frames and their dumps -/

/-- The dump of a frame, which is read as a packet of its own kind. -/
def frameDump (f : Frame) : Text :=
  match f.kind with
  | .init => initDump (.ofFrame f)
  | .continuation => contDump (.ofFrame f)

theorem frameDump_of_init {f : Frame} (h : f.kind = .init) :
    frameDump f = initDump (.ofFrame f) := by
  rw [frameDump, h]

theorem frameDump_of_continuation {f : Frame} (h : f.kind = .continuation) :
    frameDump f = contDump (.ofFrame f) := by
  rw [frameDump, h]

theorem transcript_of_frame {arguments : List Text} {f : Frame}
    (h : Asks arguments (.decode f.toList)) :
    transcript arguments = { code := 0, out := frameDump f, err := [] } := by
  cases hkind : f.kind with
  | init => rw [transcript_of_init_frame h hkind, frameDump_of_init hkind]
  | continuation =>
      rw [transcript_of_continuation_frame h hkind, frameDump_of_continuation hkind]

/-- **No two frames have the same dump.** -/
theorem frameDump_inj {f g : Frame} : frameDump f = frameDump g ↔ f = g := by
  refine ⟨fun h => ?_, fun h => h ▸ rfl⟩
  cases hf : f.kind with
  | init =>
      cases hg : g.kind with
      | init =>
          rw [frameDump_of_init hf, frameDump_of_init hg, initDump_eq_iff
            (InitPacket.consistent_ofFrame f) (InitPacket.consistent_ofFrame g)] at h
          exact InitPacket.ofFrame_inj hf hg h
      | continuation =>
          rw [frameDump_of_init hf, frameDump_of_continuation hg] at h
          exact absurd h initLines_ne_contLines
  | continuation =>
      cases hg : g.kind with
      | init =>
          rw [frameDump_of_continuation hf, frameDump_of_init hg] at h
          exact absurd h.symm initLines_ne_contLines
      | continuation =>
          rw [frameDump_of_continuation hf, frameDump_of_continuation hg, contDump_eq_iff] at h
          exact ContPacket.ofFrame_inj h

/-- A run that succeeds has been given a frame, and prints its dump. -/
theorem exists_frameDump {t : Text} (h : (transcript [ascii "decode", t]).code = 0) :
    ∃ f : Frame, Hex.parse? t = some f.toList ∧
      (transcript [ascii "decode", t]).out = frameDump f := by
  obtain ⟨f, hasks⟩ := exists_dumped h rfl
  have hout := transcript_of_frame hasks
  cases hasks with
  | decode hframe => exact ⟨f, Hex.parse?_eq_some_iff.2 hframe, by rw [hout]⟩

/--
**Two runs print the same dump exactly when they were given the same 64 bytes.**

However the bytes were spelled makes no difference to the dump, and every difference between
them makes one.
-/
theorem same_dump_iff_same_bytes (t₁ t₂ : Text)
    (h₁ : (transcript [ascii "decode", t₁]).code = 0)
    (h₂ : (transcript [ascii "decode", t₂]).code = 0) :
    ∃ bytes₁ bytes₂ : List UInt8,
      Hex.parse? t₁ = some bytes₁ ∧ bytes₁.length = 64 ∧
      Hex.parse? t₂ = some bytes₂ ∧ bytes₂.length = 64 ∧
      ((transcript [ascii "decode", t₁]).out = (transcript [ascii "decode", t₂]).out ↔
        bytes₁ = bytes₂) := by
  obtain ⟨f₁, hparse₁, hout₁⟩ := exists_frameDump h₁
  obtain ⟨f₂, hparse₂, hout₂⟩ := exists_frameDump h₂
  refine ⟨f₁.toList, f₂.toList, hparse₁, Vector.length_toList, hparse₂, Vector.length_toList, ?_⟩
  rw [hout₁, hout₂, frameDump_inj, Vector.toList_inj]

/--
A frame spelled in two ways has one dump.  Two frames that differ only in which undeclared
command they hold have two, although both commands are named INVALID there.
-/
theorem same_dump_iff_same_bytes_undeclared :
    (transcript [ascii "decode", ascii "0a 0B 0c0D ff 0102" ++ List.replicate 114 48]).out =
      (transcript [ascii "decode", ascii "0A0b0C0dF F\t0102" ++ List.replicate 114 48]).out ∧
    (transcript [ascii "decode", ascii "0a 0B 0c0D ff 0102" ++ List.replicate 114 48]).out ≠
      (transcript [ascii "decode", ascii "0a 0B 0c0D fe 0102" ++ List.replicate 114 48]).out := by
  refine ⟨?_, ?_⟩
  · obtain ⟨bytes₁, bytes₂, hparse₁, -, hparse₂, -, hiff⟩ := same_dump_iff_same_bytes
      (ascii "0a 0B 0c0D ff 0102" ++ List.replicate 114 48)
      (ascii "0A0b0C0dF F\t0102" ++ List.replicate 114 48) (by decide +kernel) (by decide +kernel)
    have hsame : some bytes₁ = some bytes₂ := by
      rw [← hparse₁, ← hparse₂]
      decide +kernel
    exact hiff.2 (Option.some.inj hsame)
  · obtain ⟨bytes₁, bytes₂, hparse₁, -, hparse₂, -, hiff⟩ := same_dump_iff_same_bytes
      (ascii "0a 0B 0c0D ff 0102" ++ List.replicate 114 48)
      (ascii "0a 0B 0c0D fe 0102" ++ List.replicate 114 48) (by decide +kernel) (by decide +kernel)
    intro hout
    have hsame : some bytes₁ = some bytes₂ := congrArg some (hiff.1 hout)
    rw [← hparse₁, ← hparse₂] at hsame
    revert hsame
    decide +kernel

end Dump

end HidLink
