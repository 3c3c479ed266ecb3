/-
The operations on packets and texts, access by access.

Elsewhere a packet is put together from its parts, and a frame is taken apart into fields, as
if each of these were one step.  Here both are done in place: an array of zeros is written to
at the offsets of the layout, and parts of it are copied out again.  Every array has a fixed
size and every access to it is checked, so that the parts fit, and that they meet without a
gap, has to be shown.  It is shown by the result, which is a value and not a fault, and the
same value as before.

The same is done for the loop that pairs the digits of a text.  It looks one digit ahead, and
what keeps that digit inside is the count of the digits, which was looked at before.
-/
import HidLink.Proofs.Hex
import HidLink.Proofs.Packet
import HidLink.Proofs.Steps

namespace HidLink

/-! ### Writing packets out -/

/-- A report with a channel id in it and nothing else. -/
def openSteps (cid : ChannelId) : Steps Report :=
  Steps.put cid (Vector.replicate 65 0) Layout.channelIdOffset

/-- Behind the channel id, an init packet is a marked command, two length bytes and a payload. -/
def InitPacket.reportSteps (p : InitPacket) : Steps Report := do
  let r ← openSteps p.cid
  let r ← Steps.set r Layout.commandOffset (FrameKind.mark p.commandByte)
  let r ← Steps.put (sizeBytes p.size) r Layout.lengthOffset
  Steps.put p.payload r Layout.initPayloadOffset

/-- Behind the channel id, a continuation is its sequence number and a payload. -/
def ContPacket.reportSteps (p : ContPacket) : Steps Report := do
  let r ← openSteps p.cid
  let r ← Steps.set r Layout.sequenceOffset p.sequence
  Steps.put p.payload r Layout.contPayloadOffset

/-- A report with a zero report id is told by the frame it carries. -/
theorem Frame.eq_report {f : Frame} {r : Report} (hid : r.reportId = 0)
    (hframe : Frame.ofReport r = f) : r = f.report := by
  rw [← hframe, Frame.report_ofReport hid]

theorem InitPacket.reportSteps_eq (p : InitPacket) : p.reportSteps = pure p.report := by
  simp only [reportSteps, openSteps, Layout.channelIdOffset, Layout.commandOffset,
    Layout.lengthOffset, Layout.initPayloadOffset, Steps.put_eq _ _ (show 1 + 4 ≤ 65 by decide),
    Steps.set_of_lt _ (show 5 < 65 by decide), Steps.put_eq _ _ (show 6 + 2 ≤ 65 by decide),
    Steps.put_eq _ _ (show 8 + 57 ≤ 65 by decide), pure_bind]
  refine congrArg pure (Frame.eq_report ?_ (Vector.ext fun i hi => ?_))
  · -- The report id is in front of all that was written, so it is the zero it was.
    simp only [Report.reportId, Steps.getElem_overwrite, Vector.getElem_set,
      Vector.getElem_replicate]
    rw [if_neg (by omega), if_neg (by omega), if_neg (by omega), if_neg (by omega)]
  simp only [Frame.ofReport, Vector.getElem_ofFn, Steps.getElem_overwrite, Vector.getElem_set,
    Vector.getElem_replicate, getElem_frame]
  by_cases hcid : i < 4
  · rw [if_neg (by omega), if_neg (by omega), if_neg (by omega), if_pos (by omega), dif_pos hcid]
    exact Steps.getD_toList p.cid hcid
  rw [dif_neg hcid]
  by_cases hmark : i = 4
  · rw [if_neg (by omega), if_neg (by omega), if_pos (by omega), if_pos hmark]
  rw [if_neg hmark]
  by_cases hsize : i < 7
  · have hplace : i + 1 - 6 = i - 5 := by omega
    rw [if_neg (by omega), if_pos (by omega), dif_pos hsize, hplace]
    exact Steps.getD_toList _ (by omega)
  · have hplace : i + 1 - 8 = i - 7 := by omega
    rw [if_pos (by omega), dif_neg hsize, hplace]
    exact Steps.getD_toList _ (by omega)

theorem ContPacket.reportSteps_eq (p : ContPacket) : p.reportSteps = pure p.report := by
  simp only [reportSteps, openSteps, Layout.channelIdOffset, Layout.sequenceOffset,
    Layout.contPayloadOffset, Steps.put_eq _ _ (show 1 + 4 ≤ 65 by decide),
    Steps.set_of_lt _ (show 5 < 65 by decide), Steps.put_eq _ _ (show 6 + 59 ≤ 65 by decide),
    pure_bind]
  refine congrArg pure (Frame.eq_report ?_ (Vector.ext fun i hi => ?_))
  · simp only [Report.reportId, Steps.getElem_overwrite, Vector.getElem_set,
      Vector.getElem_replicate]
    rw [if_neg (by omega), if_neg (by omega), if_neg (by omega)]
  simp only [Frame.ofReport, Vector.getElem_ofFn, Steps.getElem_overwrite, Vector.getElem_set,
    Vector.getElem_replicate, getElem_frame]
  by_cases hcid : i < 4
  · rw [if_neg (by omega), if_neg (by omega), if_pos (by omega), dif_pos hcid]
    exact Steps.getD_toList p.cid hcid
  rw [dif_neg hcid]
  by_cases hsequence : i = 4
  · rw [if_neg (by omega), if_pos (by omega), if_pos hsequence]
  · have hplace : i + 1 - 6 = i - 5 := by omega
    rw [if_pos (by omega), if_neg hsequence, hplace]
    exact Steps.getD_toList _ (by omega)

/-! ### Taking reports apart -/

def InitPacket.ofReportSteps (r : Report) : Steps InitPacket := do
  let cid ← Steps.slice r Layout.channelIdOffset 4
  let marker ← Steps.get r Layout.commandOffset
  let size ← Steps.slice r Layout.lengthOffset 2
  let payload ← Steps.slice r Layout.initPayloadOffset 57
  return {
    cid
    command := Command.ofByte (FrameKind.unmark marker)
    commandByte := FrameKind.unmark marker
    size := sizeOfBytes size
    payload }

def ContPacket.ofReportSteps (r : Report) : Steps ContPacket := do
  let cid ← Steps.slice r Layout.channelIdOffset 4
  let sequence ← Steps.get r Layout.sequenceOffset
  let payload ← Steps.slice r Layout.contPayloadOffset 59
  return { cid, sequence, payload }

/-- In a report everything stands one place behind where it stands in the frame. -/
theorem Steps.slice_report (r : Report) {start width : Nat} (h : start + width ≤ 64) :
    Steps.slice r (start + 1) width = pure ((Frame.ofReport r).field start width h) := by
  rw [Steps.slice_eq r (by omega)]
  refine congrArg pure (Vector.ext fun i hi => ?_)
  rw [Vector.getElem_ofFn, Frame.getElem_field, Frame.ofReport, Vector.getElem_ofFn]
  simp only [Nat.add_right_comm]

theorem Steps.get_report (r : Report) {i : Nat} (h : i < 64) :
    Steps.get r (i + 1) = pure (Frame.ofReport r)[i] := by
  rw [Steps.get_of_lt r (by omega), Frame.ofReport, Vector.getElem_ofFn]

/-- The byte behind the channel id. -/
theorem Steps.get_report_marker (r : Report) :
    Steps.get r Layout.commandOffset = pure (Frame.ofReport r).marker :=
  Steps.get_report r (show 4 < 64 by decide)

theorem Steps.slice_report_channelId (r : Report) :
    Steps.slice r Layout.channelIdOffset 4 = pure (Frame.ofReport r).channelId :=
  Steps.slice_report r (show 0 + 4 ≤ 64 by decide)

theorem InitPacket.ofReportSteps_eq (r : Report) :
    ofReportSteps r = pure (ofFrame (Frame.ofReport r)) := by
  have hsize := Steps.slice_report r (show 5 + 2 ≤ 64 by decide)
  have hpayload := Steps.slice_report r (show 7 + 57 ≤ 64 by decide)
  rw [ofReportSteps, Steps.slice_report_channelId, pure_bind, Steps.get_report_marker, pure_bind,
    hsize, pure_bind, hpayload, pure_bind]
  rfl

theorem ContPacket.ofReportSteps_eq (r : Report) :
    ofReportSteps r = pure (ofFrame (Frame.ofReport r)) := by
  have hpayload := Steps.slice_report r (show 5 + 59 ≤ 64 by decide)
  rw [ofReportSteps, Steps.slice_report_channelId, pure_bind, Steps.get_report_marker, pure_bind,
    hpayload, pure_bind]
  rfl

namespace Hex

/-! ### Pairing digits -/

/-- One of the digits of a text. -/
def digitSteps (digits : List (Fin 16)) (i : Nat) : Steps (Fin 16) where
  reads := [i]
  said := []
  result :=
    match digits[i]? with
    | none => .error (.behindData i)
    | some d => .ok d

/-- Pairs the digits from position `i` on. -/
def pairSteps (digits : List (Fin 16)) (i : Nat) : Steps (List UInt8) :=
  if i < digits.length then do
    let high ← digitSteps digits i
    let low ← digitSteps digits (i + 1)
    let later ← pairSteps digits (i + 2)
    return joinHalves high low :: later
  else return []
termination_by digits.length - i

/-- The digits are collected and counted before one of them is looked at again. -/
def parseSteps (text : Text) : Steps (Option (List UInt8)) :=
  match digits? text with
  | none => return none
  | some digits =>
      if digits.length % 2 = 0 then some <$> pairSteps digits 0 else return none

theorem digitSteps_of_lt {digits : List (Fin 16)} {i : Nat} (h : i < digits.length) :
    digitSteps digits i = ⟨[i], [], .ok digits[i]⟩ := by
  rw [digitSteps, List.getElem?_eq_getElem h]

/-- With an even number of digits left, every digit is read once and none behind the last. -/
theorem pairSteps_eq {digits : List (Fin 16)} (n : Nat) :
    ∀ i, i + 2 * n = digits.length →
      ∃ bytes, pairs? (digits.drop i) = some bytes ∧
        pairSteps digits i = ⟨List.range' i (2 * n), [], .ok bytes⟩ := by
  induction n with
  | zero =>
      intro i hi
      refine ⟨[], ?_, ?_⟩
      · rw [List.drop_eq_nil_of_le (by omega)]
        rfl
      · rw [pairSteps, if_neg (by omega)]
        rfl
  | succ n ih =>
      intro i hi
      obtain ⟨later, hpairs, hsteps⟩ := ih (i + 2) (by omega)
      -- Where one digit is left of an even number, there is a second one behind it.
      have hhigh : i < digits.length := by omega
      have hlow : i + 1 < digits.length := by omega
      refine ⟨joinHalves digits[i] digits[i + 1] :: later, ?_, ?_⟩
      · rw [List.drop_eq_getElem_cons hhigh, List.drop_eq_getElem_cons hlow, pairs?, hpairs]
        rfl
      · rw [pairSteps, if_pos hhigh, digitSteps_of_lt hhigh, digitSteps_of_lt hlow, hsteps,
          Nat.mul_succ, List.range'_succ, List.range'_succ]
        simp only [bind_pure_comp, Steps.bind_ok, Steps.map_ok]
        rfl

theorem length_of_digits? {t : Text} {digits : List (Fin 16)} (h : digits? t = some digits) :
    digits.length = t.unblanked.length := by
  have hlength := congrArg List.length (digits?_eq_some_iff.1 h)
  rw [List.length_map, List.length_map] at hlength
  exact hlength.symm

/-- **The loop stays inside the digits: it is not entered unless their number is even.** -/
theorem parseSteps_eq (t : Text) :
    parseSteps t =
      ⟨if (parse? t).isSome then List.range t.unblanked.length else [], [], .ok (parse? t)⟩ := by
  unfold parseSteps parse?
  cases hdigits : digits? t with
  | none => rfl
  | some digits =>
      by_cases heven : digits.length % 2 = 0
      · have hall : 0 + 2 * (digits.length / 2) = digits.length := by omega
        obtain ⟨bytes, hpairs, hsteps⟩ := pairSteps_eq _ 0 hall
        have hcount : 2 * (digits.length / 2) = t.unblanked.length := by
          rw [← length_of_digits? hdigits]
          omega
        rw [List.drop_zero] at hpairs
        simp only [if_pos heven, hpairs, hsteps, hcount, Steps.map_ok, Option.isSome_some, if_true,
          List.range_eq_range']
      · simp only [if_neg heven]
        rfl

end Hex

end HidLink
