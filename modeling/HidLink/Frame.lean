/-
Frames, and the reports they travel in.

A frame is exactly 64 bytes, so whatever is handed over as one is measured first: data
of any other length, or no data, is refused before a byte of it is read.  Telling the
kind of a frame reads one byte and decoding it reads all of them, but both accept the
same data.
-/
import HidLink.Buffer

namespace HidLink

/-- The channel a frame belongs to. -/
abbrev ChannelId := Vector UInt8 4

abbrev Frame := Vector UInt8 64

/-- What is handed to the device: a report id that is zero, and a frame. -/
abbrev Report := Vector UInt8 65

namespace Report

/-- The byte in front of the frame. -/
def reportId (r : Report) : UInt8 := r[0]

/-- The byte behind the channel id, which the report id puts one place further than in the frame. -/
def marker (r : Report) : UInt8 := r[5]

end Report

namespace Frame

/-- The `width` bytes from position `start` on. -/
def field (f : Frame) (start width : Nat) (h : start + width ≤ 64 := by decide) :
    Vector UInt8 width :=
  Vector.ofFn fun i => f[start + i.val]

def channelId (f : Frame) : ChannelId := f.field 0 4

/-- The byte behind the channel id. -/
def marker (f : Frame) : UInt8 := f[4]

def kind (f : Frame) : FrameKind := FrameKind.ofMarker f.marker

/-- The frame with the mark of an init frame put on. -/
def marked (f : Frame) : Frame := f.set 4 (FrameKind.mark f.marker)

def report (f : Frame) : Report := (#v[(0 : UInt8)] ++ f).cast (by decide)

def ofReport (r : Report) : Frame := Vector.ofFn fun i => r[i.val + 1]

@[simp] theorem getElem_field (f : Frame) (start width : Nat) (h : start + width ≤ 64)
    (i : Nat) (hi : i < width) : (f.field start width h)[i] = f[start + i] := by
  simp [field]

theorem marker_marked (f : Frame) : f.marked.marker = FrameKind.mark f.marker :=
  Vector.getElem_set_self (by decide)

theorem getElem_marked_ne (f : Frame) (i : Nat) (h : i < 64) (hi : i ≠ 4) : f.marked[i] = f[i] :=
  Vector.getElem_set_ne (by decide) h (Ne.symm hi)

theorem reportId_report (f : Frame) : f.report.reportId = 0 := by
  simp only [Report.reportId, report, Vector.getElem_cast, Vector.getElem_append]
  rfl

theorem getElem_report_succ (f : Frame) (i : Nat) (h : i < 64) : f.report[i + 1] = f[i] := by
  simp only [report, Vector.getElem_cast, Vector.getElem_append]
  rw [dif_neg (by omega)]
  rfl

theorem marker_report (f : Frame) : f.report.marker = f.marker :=
  getElem_report_succ f 4 (by decide)

@[simp] theorem ofReport_report (f : Frame) : ofReport f.report = f := by
  refine Vector.ext fun i h => ?_
  simp [ofReport, getElem_report_succ]

/-- Any report with a zero report id is that of the frame it carries. -/
theorem report_ofReport {r : Report} (h : r.reportId = 0) : (ofReport r).report = r := by
  refine Vector.ext fun i hi => ?_
  cases i with
  | zero => exact (reportId_report _).trans h.symm
  | succ i =>
      rw [getElem_report_succ _ i (by omega)]
      simp [ofReport]

theorem exists_report_eq_iff {r : Report} : (∃ f : Frame, f.report = r) ↔ r.reportId = 0 := by
  refine ⟨?_, fun h => ⟨ofReport r, report_ofReport h⟩⟩
  intro h
  obtain ⟨f, rfl⟩ := h
  exact reportId_report f

theorem report_inj {f g : Frame} : f.report = g.report ↔ f = g := by
  refine ⟨fun h => ?_, fun h => h ▸ rfl⟩
  rw [← ofReport_report f, h, ofReport_report]

end Frame

namespace Buffer

def isFrame (b : Buffer) : Bool := b.memory.isSome && b.length == Layout.frameSize

/-- The length to report when this should have been a frame: zero if there is no data. -/
def reportedLength (b : Buffer) : Nat := if b.memory.isSome then b.length else 0

def frame (b : Buffer) : Outcome Frame :=
  if b.isFrame then b.first 64 else .refuse (.malformedFrame b.reportedLength)

/-- The kind of the frame that was handed over, for which its marker is enough. -/
def frameKind (b : Buffer) : Outcome FrameKind :=
  if b.isFrame then (b.read 4).map FrameKind.ofMarker
  else .refuse (.malformedFrame b.reportedLength)

end Buffer

end HidLink
