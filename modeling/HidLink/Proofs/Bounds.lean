/-
Where data is read, and where it is not.

A length that a caller announces can be any number, and there may be no data behind it.
Nothing about that shows in the values that operations come to, since a value is whole or not
there at all.  So every operation on data is laid out here as the accesses it makes, one byte
after another and place by place in its arrays, and two things are shown of it.  It comes to
what the operation comes to, so it is the same operation; and none of its accesses is outside
of what is there, as long as there is as much data as was announced.

An operation that is refused has not read anything by then.  One that builds a packet has read
all of its payload and nothing behind it, so what lies there makes no difference.
-/
import HidLink.Proofs.Accesses
import HidLink.Proofs.HexCodec
import HidLink.Proofs.Reception

namespace HidLink

/-! ### The operations, access by access -/

namespace Buffer

/-- One byte of the data. -/
def access (b : Buffer) (i : Nat) : Steps UInt8 where
  reads := [i]
  said := []
  result :=
    match b.memory.map (· i) with
    | none => .error (.noData i)
    | some none => .error (.behindData i)
    | some (some x) => .ok x

/-- A payload is copied to the front of an array that is zero. -/
def payloadSteps (b : Buffer) (kind : FrameKind) (capacity : Nat) :
    Steps (Outcome (Vector UInt8 capacity)) :=
  if b.memory.isNone ∧ 0 < b.length then .refuse (.missingPayload kind b.length)
  else if capacity < b.length then .refuse (.payloadTooLong kind b.length capacity)
  else .ok <$> Steps.copy b.access (Vector.replicate capacity 0) 0 b.length

/-- A frame is copied behind the report id of a report that is zero. -/
def reportSteps (b : Buffer) : Steps (Outcome Report) :=
  if b.isFrame then .ok <$> Steps.copy b.access (Vector.replicate 65 0) 1 b.length
  else .refuse (.malformedFrame b.reportedLength)

/-- The kind is told from one byte of the data itself, and a refusal is not written anywhere. -/
def frameKindSteps (b : Buffer) : Steps (Outcome FrameKind) :=
  if b.isFrame then do
    let marker ← b.access (Layout.commandOffset - 1)
    return .ok (FrameKind.ofMarker marker)
  else return .refuse (.malformedFrame b.reportedLength)

/-- The first `n` bytes in hex, byte by byte. -/
def renderSteps (b : Buffer) : (n : Nat) → Steps Text
  | 0 => return []
  | n + 1 => do
      let written ← b.renderSteps n
      let x ← b.access n
      return written ++ Hex.render [x]

/-- Nothing is checked here: whoever asks for it has to have the data. -/
def hexSteps (b : Buffer) : Steps (Outcome Text) := .ok <$> b.renderSteps b.length

end Buffer

namespace InitPacket

def buildSteps (cid : ChannelId) (code : UInt8) (size : UInt16) (payload : Buffer) :
    Steps (Outcome InitPacket) :=
  match Command.ofByte? code with
  | none => .refuse (.unknownCommand code)
  | some command =>
      (payload.payloadSteps .init Layout.initPayloadSize).unlessRefused fun payload =>
        return { cid, command, commandByte := command.byte, size, payload }

def decodeSteps (data : Buffer) : Steps (Outcome InitPacket) :=
  data.reportSteps.unlessRefused ofReportSteps

end InitPacket

namespace ContPacket

def buildSteps (cid : ChannelId) (sequence : UInt8) (payload : Buffer) :
    Steps (Outcome ContPacket) :=
  if Layout.maxSequence < sequence then .refuse (.sequenceOutOfRange sequence)
  else
    (payload.payloadSteps .continuation Layout.contPayloadSize).unlessRefused fun payload =>
      return { cid, sequence, payload }

def decodeSteps (data : Buffer) : Steps (Outcome ContPacket) :=
  data.reportSteps.unlessRefused ofReportSteps

end ContPacket

/-! ### How an operation may end -/

namespace Steps

variable {α β : Type} {log : Refusal → List Item} {positions : List Nat}

/--
The accesses are those of an operation that comes to this: either it is accepted and has asked
for just these positions of the data, or it is refused, has asked for none and has written
about it.  There is no third way, so no access has failed.
-/
inductive EndsAs (log : Refusal → List Item) (positions : List Nat) :
    Steps (Outcome α) → Outcome α → Prop where
  | accepted (x : α) : EndsAs log positions ⟨positions, [], .ok (.ok x)⟩ (.ok x)
  | refused (refusal : Refusal) :
      EndsAs log positions ⟨[], log refusal, .ok (.refuse refusal)⟩ (.refuse refusal)

theorem endsAs_refuse (refusal : Refusal) :
    (refuse refusal : Steps (Outcome α)).EndsAs Refusal.diagnostic positions (.refuse refusal) :=
  .refused refusal

/-- What is done with an accepted value, without another access to the data, changes nothing. -/
theorem EndsAs.unlessRefused {s : Steps (Outcome α)} {outcome : Outcome α}
    (h : s.EndsAs log positions outcome) {next : α → Steps β} {f : α → β}
    (hnext : ∀ x, next x = pure (f x)) :
    (s.unlessRefused next).EndsAs log positions (outcome.map f) := by
  cases h with
  | accepted x =>
      rw [unlessRefused_of_ok (hnext x)]
      exact .accepted (f x)
  | refused refusal =>
      rw [unlessRefused_of_refuse]
      exact .refused refusal

theorem EndsAs.reads_of_ok {s : Steps (Outcome α)} {x : α} (h : s.EndsAs log positions (.ok x)) :
    s.reads = positions := by
  cases h
  rfl

theorem EndsAs.reads_of_refuse {s : Steps (Outcome α)} {refusal : Refusal}
    (h : s.EndsAs log positions (.refuse refusal)) : s.reads = [] := by
  cases h
  rfl

theorem EndsAs.result_eq {s : Steps (Outcome α)} {outcome : Outcome α}
    (h : s.EndsAs log positions outcome) : s.result = .ok outcome := by
  cases h with
  | accepted x => rfl
  | refused refusal => rfl

end Steps

namespace Buffer

/-! ### Data that is there -/

theorem access_of_read {b : Buffer} {i : Nat} {x : UInt8} (h : b.read i = .ok x) :
    b.access i = ⟨[i], [], .ok x⟩ := by
  unfold read at h
  split at h
  · cases h
  · rename_i memory hmemory
    split at h
    · cases h
    · rename_i y hy
      cases h
      rw [access, hmemory, Option.map_some, hy]

theorem Holds.access_eq {b : Buffer} {bytes : List UInt8} (h : b.Holds bytes) :
    ∀ i < b.length, b.access i = ⟨[i], [], .ok (bytes.getD i 0)⟩ := by
  intro i hi
  rw [h.length] at hi
  rw [access_of_read (h.readable i hi), List.getD_eq_getElem?_getD, List.getElem?_eq_getElem hi,
    Option.getD_some]

theorem Holds.copy_eq {b : Buffer} {bytes : List UInt8} (h : b.Holds bytes) {n : Nat}
    (a : Vector UInt8 n) {start : Nat} (hroom : start + b.length ≤ n) :
    Steps.copy b.access a start b.length =
      ⟨List.range b.length, [], .ok (Steps.overwrite a start (bytes.getD · 0) b.length)⟩ := by
  have hreads : (List.range b.length).flatMap (fun i => [i]) = List.range b.length :=
    List.flatMap_singleton' _
  rw [Steps.copy_eq a h.access_eq hroom, hreads]

/-- Copying a payload fills its array up with zeros, since these stood there before. -/
theorem toList_overwrite_zeros {capacity : Nat} {bytes : List UInt8}
    (h : bytes.length ≤ capacity) :
    (Steps.overwrite (Vector.replicate capacity 0) 0 (bytes.getD · 0) bytes.length).toList =
      bytes ++ List.replicate (capacity - bytes.length) 0 := by
  refine List.ext_getElem (by simp; omega) fun i hi hi' => ?_
  rw [Vector.getElem_toList, Steps.getElem_overwrite, List.getElem_append]
  by_cases hin : i < bytes.length
  · rw [if_pos (by omega), dif_pos hin, Nat.sub_zero, List.getD_eq_getElem?_getD,
      List.getElem?_eq_getElem hin, Option.getD_some]
  · rw [if_neg (by omega), dif_neg hin, List.getElem_replicate, Vector.getElem_replicate]

theorem overwrite_report (f : Frame) :
    Steps.overwrite (Vector.replicate 65 0) 1 (f.toList.getD · 0) 64 = f.report := by
  refine Frame.eq_report ?_ (Vector.ext fun i hi => ?_)
  · rw [Report.reportId, Steps.getElem_overwrite, if_neg (by omega), Vector.getElem_replicate]
  · rw [Frame.ofReport, Vector.getElem_ofFn, Steps.getElem_overwrite, if_pos (by omega),
      Nat.add_sub_cancel]
    exact Steps.getD_toList f hi

theorem payloadSteps_endsAs {b : Buffer} (h : b.Readable) (kind : FrameKind) (capacity : Nat) :
    (b.payloadSteps kind capacity).EndsAs Refusal.diagnostic (List.range b.length)
      (b.payload kind capacity) := by
  by_cases hmissing : b.Missing
  · rw [payload_of_missing hmissing, payloadSteps, if_pos (missing_iff.1 hmissing)]
    exact .refused _
  by_cases hlong : capacity < b.length
  · rw [payload_of_too_long hmissing kind hlong, payloadSteps,
      if_neg ((not_congr missing_iff).1 hmissing), if_pos hlong]
    exact .refused _
  obtain ⟨bytes, hbytes⟩ := h.exists_holds hmissing
  have hfits : bytes.length ≤ capacity := by
    rw [← hbytes.length]
    omega
  rw [payload_eq_ok_iff.2 ⟨bytes, hbytes, hfits, toList_overwrite_zeros hfits⟩, payloadSteps,
    if_neg ((not_congr missing_iff).1 hmissing), if_neg hlong, hbytes.copy_eq _ (by omega),
    Steps.map_ok, hbytes.length]
  exact .accepted _

theorem reportSteps_endsAs {b : Buffer} (h : b.Readable) :
    b.reportSteps.EndsAs Refusal.diagnostic (List.range b.length) (b.frame.map Frame.report) := by
  by_cases hframe : b.isFrame = true
  · obtain ⟨f, hf⟩ := h.exists_frame hframe
    have hlength : b.length = 64 := (isFrame_iff.1 hframe).2
    rw [frame_eq_ok_iff.2 hf, reportSteps, if_pos hframe, hf.copy_eq _ (by omega), Steps.map_ok,
      hlength, overwrite_report]
    exact .accepted _
  · rw [frame_of_not_isFrame hframe, reportSteps, if_neg hframe]
    exact .refused _

/-- A report that was made of a frame is taken apart as the frame is. -/
theorem unpackSteps_endsAs {α : Type} {b : Buffer} (h : b.Readable) {unpack : Report → Steps α}
    {f : Frame → α} (hunpack : ∀ r, unpack r = pure (f (Frame.ofReport r))) :
    (b.reportSteps.unlessRefused unpack).EndsAs Refusal.diagnostic (List.range b.length)
      (b.frame.map f) := by
  have hsteps := (reportSteps_endsAs h).unlessRefused hunpack
  simp only [Outcome.map_map, Frame.ofReport_report] at hsteps
  exact hsteps

theorem frameKindSteps_endsAs {b : Buffer} (h : b.Readable) :
    b.frameKindSteps.EndsAs (fun _ => []) [4] b.frameKind := by
  by_cases hframe : b.isFrame = true
  · obtain ⟨f, hf⟩ := h.exists_frame hframe
    have hmarker : b.access (Layout.commandOffset - 1) = ⟨[4], [], .ok f.marker⟩ := by
      refine access_of_read ?_
      rw [hf.readable _ (by simp), Vector.getElem_toList]
      rfl
    rw [frameKind_of_holds hf, frameKindSteps, if_pos hframe, hmarker]
    exact .accepted _
  · rw [frameKind_of_not_isFrame hframe, frameKindSteps, if_neg hframe]
    exact .refused _

theorem renderSteps_eq {b : Buffer} {bytes : List UInt8} (h : b.Holds bytes) :
    ∀ n ≤ b.length, b.renderSteps n = ⟨List.range n, [], .ok (Hex.render (bytes.take n))⟩ := by
  intro n
  induction n with
  | zero =>
      intro _
      rfl
  | succ n ih =>
      intro hn
      have hlast : n < bytes.length := by
        rw [← h.length]
        omega
      have haccess : b.access n = ⟨[n], [], .ok bytes[n]⟩ := access_of_read (h.readable n hlast)
      rw [renderSteps, ih (by omega), haccess, List.range_succ,
        List.take_succ_eq_append_getElem hlast, Hex.render_append]
      simp only [bind_pure_comp, Steps.bind_ok, Steps.map_ok]
      rfl

theorem hexSteps_endsAs {b : Buffer} (h : b.Readable) (hpresent : ¬b.Missing)
    (log : Refusal → List Item) :
    b.hexSteps.EndsAs log (List.range b.length) b.hex := by
  obtain ⟨bytes, hbytes⟩ := h.exists_holds hpresent
  rw [hbytes.hex_eq, hexSteps, renderSteps_eq hbytes b.length (Nat.le_refl _), Steps.map_ok,
    hbytes.length, List.take_length]
  exact .accepted _

theorem renderSteps_of_absent {b : Buffer} (h : b.memory = none) (n : Nat) :
    b.renderSteps (n + 1) = ⟨[0], [], .error (.noData 0)⟩ := by
  induction n with
  | zero =>
      have haccess : b.access 0 = ⟨[0], [], .error (.noData 0)⟩ := by
        rw [access, h, Option.map_none]
      rw [renderSteps, renderSteps, pure_bind, haccess, Steps.bind_error]
  | succ n ih => rw [renderSteps, ih, Steps.bind_error]

/-- Rendering without any data goes wrong with the first access. -/
theorem hexSteps_of_missing {b : Buffer} (h : b.Missing) :
    b.hexSteps = ⟨[0], [], .error (.noData 0)⟩ := by
  obtain ⟨habsent, hpos⟩ := h
  obtain ⟨n, hn⟩ : ∃ n, b.length = n + 1 := ⟨b.length - 1, by omega⟩
  rw [hexSteps, hn, renderSteps_of_absent habsent, map_eq_pure_bind, Steps.bind_error]

/-! ### Data that agrees as far as it is announced -/

/-- As much is announced of both, and as far as that they are the same. -/
structure Agrees (a b : Buffer) : Prop where
  length_eq : a.length = b.length
  memory_eq : ∀ i < a.length, a.memory.map (· i) = b.memory.map (· i)

variable {a b : Buffer}

theorem Agrees.access_eq (h : a.Agrees b) {i : Nat} (hi : i < a.length) :
    a.access i = b.access i := by
  rw [access, access, h.memory_eq i hi]

theorem Agrees.isSome_eq (h : a.Agrees b) (hpos : 0 < a.length) :
    a.memory.isSome = b.memory.isSome := by
  have hfirst := congrArg Option.isSome (h.memory_eq 0 hpos)
  rwa [Option.isSome_map, Option.isSome_map] at hfirst

theorem Agrees.isNone_eq (h : a.Agrees b) (hpos : 0 < a.length) :
    a.memory.isNone = b.memory.isNone := by
  rw [← Option.not_isSome, h.isSome_eq hpos, Option.not_isSome]

theorem Agrees.isFrame_eq (h : a.Agrees b) : a.isFrame = b.isFrame := by
  rcases Nat.eq_zero_or_pos a.length with hempty | hpos
  · have hempty' : b.length = 0 := by rw [← h.length_eq, hempty]
    have hshort : (0 == Layout.frameSize) = false := rfl
    rw [isFrame, isFrame, hempty, hempty', hshort, Bool.and_false, Bool.and_false]
  · rw [isFrame, isFrame, h.isSome_eq hpos, h.length_eq]

theorem Agrees.reportedLength_eq (h : a.Agrees b) : a.reportedLength = b.reportedLength := by
  rcases Nat.eq_zero_or_pos a.length with hempty | hpos
  · have hempty' : b.length = 0 := by rw [← h.length_eq, hempty]
    simp [reportedLength, hempty, hempty']
  · rw [reportedLength, reportedLength, h.isSome_eq hpos, h.length_eq]

theorem Agrees.copy_eq (h : a.Agrees b) {n : Nat} (v : Vector UInt8 n) (start : Nat) :
    Steps.copy a.access v start a.length = Steps.copy b.access v start b.length := by
  rw [← h.length_eq]
  exact Steps.copy_congr v start fun i hi => h.access_eq hi

theorem Agrees.not_missing (h : a.Agrees b) (hpresent : ¬a.Missing) : ¬b.Missing := by
  rintro ⟨habsent, hpos⟩
  rw [← h.length_eq] at hpos
  have hnone := h.isNone_eq hpos
  rw [habsent, Option.isNone_none, Option.isNone_iff_eq_none] at hnone
  exact hpresent ⟨hnone, hpos⟩

theorem Agrees.payloadSteps_eq (h : a.Agrees b) (kind : FrameKind) (capacity : Nat) :
    a.payloadSteps kind capacity = b.payloadSteps kind capacity := by
  rw [payloadSteps, payloadSteps, h.copy_eq, ← h.length_eq]
  exact if_congr (and_congr_left fun hpos => by rw [h.isNone_eq hpos]) rfl rfl

theorem Agrees.reportSteps_eq (h : a.Agrees b) : a.reportSteps = b.reportSteps := by
  rw [reportSteps, reportSteps, h.isFrame_eq, h.reportedLength_eq, h.copy_eq]

theorem Agrees.frameKindSteps_eq (h : a.Agrees b) : a.frameKindSteps = b.frameKindSteps := by
  rw [frameKindSteps, frameKindSteps, h.reportedLength_eq, ← h.isFrame_eq]
  by_cases hframe : a.isFrame = true
  · have hlength : a.length = 64 := (isFrame_iff.1 hframe).2
    rw [if_pos hframe, if_pos hframe,
      h.access_eq (show Layout.commandOffset - 1 < a.length by rw [hlength]; decide)]
  · rw [if_neg hframe, if_neg hframe]

theorem Agrees.renderSteps_eq (h : a.Agrees b) :
    ∀ n ≤ a.length, a.renderSteps n = b.renderSteps n := by
  intro n
  induction n with
  | zero =>
      intro _
      rfl
  | succ n ih =>
      intro hn
      rw [renderSteps, renderSteps, ih (by omega), h.access_eq (by omega)]

theorem Agrees.hexSteps_eq (h : a.Agrees b) : a.hexSteps = b.hexSteps := by
  rw [hexSteps, hexSteps, h.renderSteps_eq _ (Nat.le_refl _), h.length_eq]

end Buffer

/-! ### Packets -/

namespace InitPacket

theorem buildSteps_endsAs {payload : Buffer} (h : payload.Readable) (cid : ChannelId)
    (code : UInt8) (size : UInt16) :
    (buildSteps cid code size payload).EndsAs Refusal.diagnostic (List.range payload.length)
      (build cid code size payload) := by
  unfold buildSteps build
  cases Command.ofByte? code with
  | none => exact Steps.endsAs_refuse _
  | some command => exact (Buffer.payloadSteps_endsAs h _ _).unlessRefused fun payload => rfl

theorem decodeSteps_endsAs {data : Buffer} (h : data.Readable) :
    (decodeSteps data).EndsAs Refusal.diagnostic (List.range data.length) (decode data) :=
  Buffer.unpackSteps_endsAs h ofReportSteps_eq

end InitPacket

namespace ContPacket

theorem buildSteps_endsAs {payload : Buffer} (h : payload.Readable) (cid : ChannelId)
    (sequence : UInt8) :
    (buildSteps cid sequence payload).EndsAs Refusal.diagnostic (List.range payload.length)
      (build cid sequence payload) := by
  unfold buildSteps build
  by_cases hrange : Layout.maxSequence < sequence
  · rw [if_pos hrange, if_pos hrange]
    exact Steps.endsAs_refuse _
  · rw [if_neg hrange, if_neg hrange]
    exact (Buffer.payloadSteps_endsAs h _ _).unlessRefused fun payload => rfl

theorem decodeSteps_endsAs {data : Buffer} (h : data.Readable) :
    (decodeSteps data).EndsAs Refusal.diagnostic (List.range data.length) (decode data) :=
  Buffer.unpackSteps_endsAs h ofReportSteps_eq

end ContPacket

/-! ### All operations on data -/

/-- An operation on data that is handed over, with its other arguments. -/
inductive Operation where
  | buildInit (cid : ChannelId) (code : UInt8) (size : UInt16)
  | buildCont (cid : ChannelId) (sequence : UInt8)
  | decodeInit
  | decodeCont
  | frameKind
  | hex
  deriving DecidableEq, Repr

namespace Operation

/-- What the operation comes to. -/
def outcome : Operation → Buffer → Outcome Value
  | buildInit cid code size, data =>
      (InitPacket.build cid code size data).map fun p => .packet (.init p)
  | buildCont cid sequence, data =>
      (ContPacket.build cid sequence data).map fun p => .packet (.cont p)
  | decodeInit, data => (InitPacket.decode data).map fun p => .packet (.init p)
  | decodeCont, data => (ContPacket.decode data).map fun p => .packet (.cont p)
  | frameKind, data => data.frameKind.map .kind
  | hex, data => data.hex.map .text

/-- The accesses that the operation makes. -/
def steps : Operation → Buffer → Steps (Outcome Value)
  | buildInit cid code size, data =>
      (InitPacket.buildSteps cid code size data).unlessRefused fun p => return .packet (.init p)
  | buildCont cid sequence, data =>
      (ContPacket.buildSteps cid sequence data).unlessRefused fun p => return .packet (.cont p)
  | decodeInit, data =>
      (InitPacket.decodeSteps data).unlessRefused fun p => return .packet (.init p)
  | decodeCont, data =>
      (ContPacket.decodeSteps data).unlessRefused fun p => return .packet (.cont p)
  | frameKind, data => data.frameKindSteps.unlessRefused fun kind => return .kind kind
  | hex, data => data.hexSteps.unlessRefused fun text => return .text text

/-- What is written when the operation is refused.  Telling the kind of a frame is silent. -/
def log : Operation → Refusal → List Item
  | frameKind => fun _ => []
  | _ => Refusal.diagnostic

/-- What the operation reads of data that it accepts: all of it, or only the marker of a frame. -/
def positions : Operation → Buffer → List Nat
  | frameKind, _ => [4]
  | _, data => List.range data.length

/-- All operations but one see for themselves whether there is data. -/
def MayTake : Operation → Buffer → Prop
  | hex, data => ¬data.Missing
  | _, _ => True

theorem endsAs {data : Buffer} (op : Operation) (h : data.Readable) (hop : op.MayTake data) :
    (op.steps data).EndsAs op.log (op.positions data) (op.outcome data) := by
  cases op with
  | buildInit cid code size =>
      exact (InitPacket.buildSteps_endsAs h cid code size).unlessRefused fun p => rfl
  | buildCont cid sequence =>
      exact (ContPacket.buildSteps_endsAs h cid sequence).unlessRefused fun p => rfl
  | decodeInit => exact (InitPacket.decodeSteps_endsAs h).unlessRefused fun p => rfl
  | decodeCont => exact (ContPacket.decodeSteps_endsAs h).unlessRefused fun p => rfl
  | frameKind => exact (Buffer.frameKindSteps_endsAs h).unlessRefused fun kind => rfl
  | hex => exact (Buffer.hexSteps_endsAs h hop _).unlessRefused fun text => rfl

theorem steps_eq {a b : Buffer} (op : Operation) (h : a.Agrees b) : op.steps a = op.steps b := by
  cases op with
  | buildInit cid code size =>
      rw [steps, steps, InitPacket.buildSteps, InitPacket.buildSteps, h.payloadSteps_eq]
  | buildCont cid sequence =>
      rw [steps, steps, ContPacket.buildSteps, ContPacket.buildSteps, h.payloadSteps_eq]
  | decodeInit =>
      rw [steps, steps, InitPacket.decodeSteps, InitPacket.decodeSteps, h.reportSteps_eq]
  | decodeCont =>
      rw [steps, steps, ContPacket.decodeSteps, ContPacket.decodeSteps, h.reportSteps_eq]
  | frameKind => rw [steps, steps, h.frameKindSteps_eq]
  | hex => rw [steps, steps, h.hexSteps_eq]

theorem mayTake_of_agrees {a b : Buffer} {op : Operation} (h : a.Agrees b) (hop : op.MayTake a) :
    op.MayTake b := by
  cases op with
  | hex => exact h.not_missing hop
  | _ => trivial

theorem outcome_eq {a b : Buffer} {op : Operation} (ha : a.Readable) (hb : b.Readable)
    (hop : op.MayTake a) (h : a.Agrees b) : op.outcome a = op.outcome b := by
  have hresult := (op.endsAs ha hop).result_eq
  rw [op.steps_eq h, (op.endsAs hb (mayTake_of_agrees h hop)).result_eq] at hresult
  exact (Except.ok.inj hresult).symm

end Operation

/--
**No operation accesses memory where there is none, and one that is refused has read nothing.**

The data may be announced with any length, and what lies behind that length makes no
difference.  The one thing that is asked of a caller, that there is data to be rendered, is
needed: without it the first access fails.  Writing a packet out stays inside its arrays, and
pairing the digits of a text stays inside the digits.
-/
theorem reads_only_what_is_there :
    (∀ (op : Operation) (data : Buffer), data.Readable → op.MayTake data →
      (op.steps data).EndsAs op.log (op.positions data) (op.outcome data)) ∧
    (∀ (op : Operation) (a b : Buffer), a.Agrees b →
      op.steps a = op.steps b ∧
      (a.Readable → b.Readable → op.MayTake a → op.outcome a = op.outcome b)) ∧
    (∀ data : Buffer, data.Missing →
      (Operation.hex.steps data).result = .error (.noData 0)) ∧
    (∀ p : InitPacket, p.reportSteps = pure p.report) ∧
    (∀ p : ContPacket, p.reportSteps = pure p.report) ∧
    (∀ t : Text, Hex.parseSteps t =
      ⟨if (Hex.parse? t).isSome then List.range t.unblanked.length else [], [],
        .ok (Hex.parse? t)⟩) := by
  refine ⟨fun op data => op.endsAs, ?_, ?_, InitPacket.reportSteps_eq, ContPacket.reportSteps_eq,
    Hex.parseSteps_eq⟩
  · intro op a b h
    exact ⟨op.steps_eq h, fun ha hb hop => Operation.outcome_eq ha hb hop h⟩
  · intro data h
    rw [Operation.steps, Buffer.hexSteps_of_missing h, Steps.unlessRefused, Steps.bind_error]

/--
A length that no memory has, a payload with more behind it than was announced, and data to be
rendered that is not there.
-/
theorem reads_only_what_is_there_huge_and_prefix :
    ((Operation.buildCont Layout.broadcastChannel 0x7F).steps
      (.window [] 18446744073709551615)).reads = [] ∧
    (let op := Operation.buildInit Layout.broadcastChannel Command.ping.byte 3
      let whole := Buffer.ofBytes [1, 2, 3]
      let longer : Buffer := ⟨some fun i => [1, 2, 3, 4][i]?, 3⟩
      (op.steps whole).reads = [0, 1, 2] ∧ op.outcome longer = op.outcome whole) ∧
    (Operation.hex.steps (.absent 1)).result = .error (.noData 0) := by
  obtain ⟨hends, hagrees, hmissing, -⟩ := reads_only_what_is_there
  refine ⟨?_, ⟨?_, ?_⟩, hmissing (.absent 1) ⟨rfl, by decide⟩⟩
  · have hpresent : ¬(Buffer.window [] 18446744073709551615).Missing := fun h => nomatch h.1
    have hend := hends (.buildCont Layout.broadcastChannel 0x7F) _
      (Buffer.readable_window [] 18446744073709551615) trivial
    rw [Operation.outcome, ContPacket.build_of_in_range (by decide),
      Buffer.payload_of_too_long hpresent _ (by decide)] at hend
    exact hend.reads_of_refuse
  · have hend := hends (.buildInit Layout.broadcastChannel Command.ping.byte 3) _
      (Buffer.readable_ofBytes [1, 2, 3]) trivial
    obtain ⟨p, hp⟩ := InitPacket.exists_builtFrom Layout.broadcastChannel .ping 3
      (show [1, 2, 3].length ≤ 57 by decide)
    rw [Operation.outcome, InitPacket.build_ofBytes_eq_ok_iff.2 hp] at hend
    exact hend.reads_of_ok
  · have hsame : Buffer.Agrees ⟨some fun i => [1, 2, 3, 4][i]?, 3⟩ (.ofBytes [1, 2, 3]) :=
      ⟨rfl, by decide⟩
    refine (hagrees _ _ _ hsame).2 ?_ (Buffer.readable_ofBytes [1, 2, 3]) trivial
    intro memory hmemory
    cases hmemory
    decide

end HidLink
