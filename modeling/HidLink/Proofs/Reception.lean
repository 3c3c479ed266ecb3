/-
Three receivers of the same data.

Data that should be a frame can be classified by its marker, and it can be read as an init
packet and as a continuation.  None of the three asks another whether it is a frame at all,
and what they look at is counted in different ways.  Still they accept the same data, which
is any data of 64 bytes, and refuse all other data with the same error, so whoever has
asked one of them need not fear the answers of the other two.  What differs is the noise:
the decoders write a line about the length, and telling the kind is silent.

On accepted data the two packets are views of one frame.  They share the channel and the
byte behind it, and what an init packet takes for the length of the message is where the
payload of a continuation begins.
-/
import HidLink.Proofs.Build
import HidLink.Proofs.History

namespace HidLink

/-! ### Accepted -/

/-- All three receivers accept the data and come to this. -/
structure Buffer.ReceivedAs (data : Buffer) (p : InitPacket) (q : ContPacket)
    (kind : FrameKind) : Prop where
  init : InitPacket.decode data = .ok p
  cont : ContPacket.decode data = .ok q
  kind : data.frameKind = .ok kind

/-- The two packets and the kind are what one frame looks like from three sides. -/
structure SameFrame (p : InitPacket) (q : ContPacket) (kind : FrameKind) : Prop where
  cid : p.cid = q.cid
  commandByte : p.commandByte = q.sequence &&& 0x7F
  kind : kind = .init ↔ 0x80 ≤ q.sequence
  payload : q.payload.toList =
    (p.size.toNat / 256).toUInt8 :: p.size.toNat.toUInt8 :: p.payload.toList

theorem sameFrame_ofFrame (f : Frame) :
    SameFrame (InitPacket.ofFrame f) (ContPacket.ofFrame f) f.kind where
  cid := rfl
  commandByte := rfl
  kind := FrameKind.ofMarker_eq_init_iff f.marker
  payload := by
    have hsplit := Frame.toList_field_add f 5 2 57 (by decide)
    rw [← InitPacket.sizeBytes_ofFrame, InitPacket.toList_sizeBytes] at hsplit
    exact hsplit

theorem Buffer.Readable.exists_received {data : Buffer} (h : data.Readable)
    (hframe : data.isFrame = true) :
    ∃ p q kind, data.ReceivedAs p q kind ∧ SameFrame p q kind := by
  obtain ⟨f, hholds⟩ := h.exists_frame hframe
  have hreceived : data.ReceivedAs (.ofFrame f) (.ofFrame f) f.kind :=
    ⟨InitPacket.decode_of_holds hholds, ContPacket.decode_of_holds hholds,
      Buffer.frameKind_of_holds hholds⟩
  exact ⟨_, _, _, hreceived, sameFrame_ofFrame f⟩

/-! ### Refused -/

/-- All three receivers refuse the data, and the decoders say this about it. -/
structure Buffer.RefusedAs (data : Buffer) (sentence : Text) : Prop where
  init : (InitPacket.decode data).Refused .malformedFrame sentence
  cont : (ContPacket.decode data).Refused .malformedFrame sentence
  kind : ∃ refusal, data.frameKind = .refuse refusal ∧ refusal.error = .malformedFrame

/-- What the decoders say about data that is no frame.  Missing data is as good as empty. -/
def Buffer.malformedSentence (data : Buffer) : Text :=
  ascii "Malformed CTAPHID frame: expected 64 bytes, got "
    ++ numeral .decimal false (if data.memory.isSome then data.length else 0)

theorem InitPacket.decode_of_not_isFrame {data : Buffer} (h : ¬data.isFrame = true) :
    decode data = .refuse (.malformedFrame data.reportedLength) := by
  rw [decode, Buffer.frame_of_not_isFrame h]
  rfl

theorem ContPacket.decode_of_not_isFrame {data : Buffer} (h : ¬data.isFrame = true) :
    decode data = .refuse (.malformedFrame data.reportedLength) := by
  rw [decode, Buffer.frame_of_not_isFrame h]
  rfl

theorem Buffer.refusedAs_of_not_isFrame {data : Buffer} (h : ¬data.isFrame = true) :
    data.RefusedAs data.malformedSentence := by
  refine ⟨?_, ?_, ?_⟩
  · rw [InitPacket.decode_of_not_isFrame h]
    exact Outcome.refused_refuse (.malformedFrame data.reportedLength)
  · rw [ContPacket.decode_of_not_isFrame h]
    exact Outcome.refused_refuse (.malformedFrame data.reportedLength)
  · exact ⟨_, Buffer.frameKind_of_not_isFrame h, rfl⟩

/-! ### What a session hears of it -/

/-- Whatever a session hands over can be read as far as it is announced. -/
theorem Supply.readable {store : Store} {supply : Supply} {data : Buffer}
    (h : supply.buffer? store = some data) : data.Readable := by
  have hannounced : ∀ bytes length, (announce bytes length).Readable := by
    intro bytes length
    cases length with
    | none => exact Buffer.readable_ofBytes bytes
    | some length => exact Buffer.readable_window bytes length
  cases supply with
  | absent length =>
      cases h
      exact Buffer.readable_absent length
  | given bytes length =>
      cases h
      exact hannounced bytes length
  | stored slot edit length =>
      obtain ⟨p, -, rfl⟩ := Option.map_eq_some_iff.1 h
      exact hannounced _ length

/-- What either decoder writes about the data. -/
def Buffer.decoderLog (data : Buffer) : Text :=
  if data.isFrame then [] else data.malformedSentence ++ ascii "\n"

theorem Buffer.Readable.report_decode {data : Buffer} (h : data.Readable) :
    (InitPacket.decode data).report = data.decoderLog ∧
      (ContPacket.decode data).report = data.decoderLog := by
  by_cases hframe : data.isFrame = true
  · obtain ⟨p, q, kind, hreceived, -⟩ := h.exists_received hframe
    rw [hreceived.init, hreceived.cont, decoderLog, if_pos hframe]
    exact ⟨rfl, rfl⟩
  · rw [InitPacket.decode_of_not_isFrame hframe, ContPacket.decode_of_not_isFrame hframe,
      decoderLog, if_neg hframe]
    exact ⟨rfl, rfl⟩

namespace Outcome

variable {α β γ : Type}

theorem map_map (outcome : Outcome α) (f : α → β) (g : β → γ) :
    (outcome.map f).map g = outcome.map fun x => g (f x) := by
  cases outcome <;> rfl

theorem report_map (outcome : Outcome α) (f : α → β) :
    report (outcome.map f) = outcome.report := by
  cases outcome <;> rfl

end Outcome

namespace Session

theorem answer_make_eq {s : Session} (h : s.console.Calm) {attempt : Attempt}
    {outcome : Outcome Packet} (hmade : attempt.outcome? s.store = some outcome)
    (into : Option Int) :
    (s.answer (.make attempt into)).1 =
      { reply := some (outcome.map .packet), out := [], err := outcome.report } := by
  have hperform : (perform s.store (.make attempt into)).1 =
      { result := some (outcome.map .packet), err := outcome.diagnostic } := by
    simp only [perform, hmade]
  have hout : Writes (perform s.store (.make attempt into)).1.out [] := by
    rw [hperform]
    exact Writes.nil
  have herr : Writes (perform s.store (.make attempt into)).1.err outcome.report := by
    rw [hperform]
    exact outcome.writes_diagnostic
  rw [answer_eq_of_writes h hout herr, hperform]

theorem answer_frameKind_eq (s : Session) {supply : Supply} {data : Buffer}
    (hdata : supply.buffer? s.store = some data) :
    (s.answer (.frameKind supply)).1 =
      { reply := some (data.frameKind.map .kind), out := [], err := [] } := by
  simp only [answer, perform, hdata]
  rfl

end Session

/--
**The three receivers accept and refuse the same data, and see the same frame in it.**

Data is accepted when there is some and it is 64 bytes long.  If it is not, the decoders
write the same line about its length, and telling the kind writes nothing, whatever was
written to the streams before.
-/
theorem receivers_agree (data : Buffer) :
    (data.memory.isSome = true ∧ data.length = 64 → data.Readable →
      ∃ p q kind, data.ReceivedAs p q kind ∧ SameFrame p q kind) ∧
    (¬(data.memory.isSome = true ∧ data.length = 64) →
      data.RefusedAs data.malformedSentence) ∧
    ∀ (s : Session) (supply : Supply) (into : Option Int), s.console.Calm →
      supply.buffer? s.store = some data →
        (s.answer (.make (.decodeInit supply) into)).1 =
          { reply := some ((InitPacket.decode data).map fun p => .packet (.init p))
            out := []
            err := data.decoderLog } ∧
        (s.answer (.make (.decodeCont supply) into)).1 =
          { reply := some ((ContPacket.decode data).map fun p => .packet (.cont p))
            out := []
            err := data.decoderLog } ∧
        (s.answer (.frameKind supply)).1 =
          { reply := some (data.frameKind.map .kind), out := [], err := [] } := by
  rw [← Buffer.isFrame_iff]
  refine ⟨?_, Buffer.refusedAs_of_not_isFrame, ?_⟩
  · intro hframe hreadable
    exact hreadable.exists_received hframe
  · intro s supply into hcalm hdata
    obtain ⟨hinit, hcont⟩ := (Supply.readable hdata).report_decode
    have hmadeInit : (Attempt.decodeInit supply).outcome? s.store
        = some ((InitPacket.decode data).map .init) := by
      rw [Attempt.outcome?, hdata, Option.map_some]
    have hmadeCont : (Attempt.decodeCont supply).outcome? s.store
        = some ((ContPacket.decode data).map .cont) := by
      rw [Attempt.outcome?, hdata, Option.map_some]
    refine ⟨?_, ?_, s.answer_frameKind_eq hdata⟩
    · rw [Session.answer_make_eq hcalm hmadeInit, Outcome.map_map, Outcome.report_map, hinit]
    · rw [Session.answer_make_eq hcalm hmadeCont, Outcome.map_map, Outcome.report_map, hcont]

/--
No data that is announced with the length of a frame, in a session that was told of an unknown
error code before; and an init frame, which is accepted as a continuation as well.
-/
theorem receivers_agree_null_and_init :
    (Buffer.absent 64).RefusedAs
      (ascii "Malformed CTAPHID frame: expected 64 bytes, got 0") ∧
    (let s := (Session.answers {} [.decodeErrorCode 0x0C]).2;
      (s.answer (.make (.decodeCont (.absent 64)) none)).1.err
          = ascii "Malformed CTAPHID frame: expected 64 bytes, got 0\n" ∧
        (s.answer (.frameKind (.absent 64))).1.err = []) ∧
    ∃ p q, (Buffer.ofBytes (List.replicate 64 0x86)).ReceivedAs p q .init ∧
      q.sequence = 0x86 ∧ p.commandByte = 0x06 := by
  refine ⟨?_, ?_, ?_⟩
  · have hsentence : (Buffer.absent 64).malformedSentence
        = ascii "Malformed CTAPHID frame: expected 64 bytes, got 0" := by decide +kernel
    rw [← hsentence]
    exact (receivers_agree (.absent 64)).2.1 (by decide)
  · intro s
    have hcalm : s.console.Calm :=
      (Session.answers_of_calm [.decodeErrorCode 0x0C] {} Console.calm_default).2
    obtain ⟨-, hcont, hkind⟩ := (receivers_agree (.absent 64)).2.2 s (.absent 64) none hcalm rfl
    rw [hcont, hkind]
    exact ⟨by decide +kernel, rfl⟩
  · obtain ⟨p, q, kind, hreceived, hsame⟩ := (receivers_agree _).1 ⟨rfl, rfl⟩
      (Buffer.readable_ofBytes (List.replicate 64 0x86))
    have hframe : (Vector.replicate 64 (0x86 : UInt8)).toList = List.replicate 64 0x86 :=
      Vector.toList_replicate
    have hdecode := ContPacket.decode_of_holds
      (Buffer.holds_ofBytes (Vector.replicate 64 (0x86 : UInt8)).toList)
    have hsequence : q.sequence = 0x86 := by
      rw [hframe, hreceived.cont] at hdecode
      cases hdecode
      rfl
    obtain rfl : kind = .init := hsame.kind.2 (by rw [hsequence]; decide)
    exact ⟨p, q, hreceived, hsequence, by rw [hsame.commandByte, hsequence]; rfl⟩

end HidLink
