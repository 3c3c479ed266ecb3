/-
What is read of data that is really there.

An announced length promises nothing by itself, so every statement about a packet is
about bytes that a buffer *holds*: exactly as many as it announces, each of them
readable.  Where an operation succeeds its buffer held some bytes, and no two byte
strings are held by one buffer; so nothing is lost by speaking of the bytes instead.

Three results come out of this.  A payload is made of the bytes held, with zeros behind
them; a frame is accepted exactly when its 64 bytes are held; and a frame that is
accepted is also one whose kind can be told.
-/
import HidLink.Frame

namespace HidLink.Buffer

/-- The data is these bytes: as many as announced, each of which can be read. -/
structure Holds (b : Buffer) (bytes : List UInt8) : Prop where
  length : b.length = bytes.length
  readable : ∀ (i : Nat) (h : i < bytes.length), b.read i = .ok bytes[i]

theorem holds_ofBytes (bytes : List UInt8) : (ofBytes bytes).Holds bytes :=
  ⟨rfl, fun _ h => read_ofBytes h⟩

/-- No data announced as empty is as good as data of length zero. -/
theorem holds_absent : (absent 0).Holds [] :=
  ⟨rfl, fun i h => absurd h (Nat.not_lt_zero i)⟩

/-! ### Reading all of it -/

theorem first_length_eq_ok_iff {b : Buffer} {v : Vector UInt8 b.length} :
    b.first b.length = .ok v ↔ b.Holds v.toList := by
  rw [first_eq_ok_iff]
  constructor
  · intro h
    refine ⟨Vector.length_toList.symm, fun i hi => ?_⟩
    rw [Vector.getElem_toList]
    exact h i (by simpa using hi)
  · intro h i hi
    rw [h.readable i (by simpa using hi), Vector.getElem_toList]

theorem Holds.exists_first {b : Buffer} {bytes : List UInt8} (h : b.Holds bytes) :
    ∃ v, b.first b.length = .ok v ∧ v.toList = bytes := by
  have hsize : bytes.toArray.size = b.length := by rw [List.size_toArray, h.length]
  exact ⟨⟨bytes.toArray, hsize⟩, first_length_eq_ok_iff.2 h, rfl⟩

/-- A buffer holds one byte string at most. -/
theorem Holds.unique {b : Buffer} {xs ys : List UInt8} (hx : b.Holds xs) (hy : b.Holds ys) :
    xs = ys := by
  obtain ⟨v, hv, rfl⟩ := hx.exists_first
  obtain ⟨w, hw, rfl⟩ := hy.exists_first
  rw [hv] at hw
  cases hw
  rfl

theorem Holds.memory_isSome {b : Buffer} {bytes : List UInt8} (h : b.Holds bytes)
    (hpos : 0 < bytes.length) : b.memory.isSome = true := by
  have hread := h.readable 0 hpos
  cases hm : b.memory with
  | none =>
      rw [read, hm] at hread
      cases hread
  | some bytes => rfl

/-! ### Data that is there -/

/-- Some length is announced, but there is no data. -/
def Missing (b : Buffer) : Prop := b.memory = none ∧ 0 < b.length

theorem missing_iff {b : Buffer} : b.Missing ↔ b.memory.isNone = true ∧ 0 < b.length := by
  rw [Option.isNone_iff_eq_none]
  rfl

/-- If there is data, there is as much of it as announced. -/
def Readable (b : Buffer) : Prop :=
  ∀ memory, b.memory = some memory → ∀ i < b.length, (memory i).isSome = true

theorem readable_ofBytes (bytes : List UInt8) : (ofBytes bytes).Readable := by
  intro memory hmemory i hi
  cases hmemory
  have hlt : i < bytes.length := hi
  simp only [List.getElem?_eq_getElem hlt, Option.isSome_some]

theorem readable_absent (length : Nat) : (absent length).Readable := by
  intro memory hmemory
  cases hmemory

theorem readable_window (bytes : List UInt8) (length : Nat) : (window bytes length).Readable := by
  intro memory hmemory i hi
  cases hmemory
  have hlt : i < length := hi
  simp only [if_pos hlt, Option.isSome_some]

theorem Holds.not_missing {b : Buffer} {bytes : List UInt8} (h : b.Holds bytes) : ¬b.Missing := by
  rintro ⟨hnone, hpos⟩
  have hsome := h.memory_isSome (by rwa [← h.length])
  rw [hnone] at hsome
  cases hsome

theorem holds_of_length_eq_zero {b : Buffer} (h : b.length = 0) : b.Holds [] :=
  ⟨h, fun i hi => absurd hi (Nat.not_lt_zero i)⟩

/-- Data that can be read is some bytes. -/
theorem Readable.exists_holds {b : Buffer} (h : b.Readable) (hpresent : ¬b.Missing) :
    ∃ bytes, b.Holds bytes := by
  cases hmemory : b.memory with
  | none =>
      have hlength : b.length = 0 :=
        (Nat.eq_zero_or_pos b.length).resolve_right fun hpos => hpresent ⟨hmemory, hpos⟩
      exact ⟨[], holds_of_length_eq_zero hlength⟩
  | some memory =>
      have hall := h memory hmemory
      let bytes : List UInt8 := List.ofFn fun i : Fin b.length => (memory i).get (hall i i.isLt)
      refine ⟨bytes, (List.length_ofFn).symm, fun i hi => ?_⟩
      have hread : memory i = some bytes[i] := by simp [bytes]
      rw [read, hmemory]
      simp only [hread]

/-! ### A payload -/

/-- **A payload is accepted exactly when all of it is there and fits.** -/
theorem payload_eq_ok_iff {b : Buffer} {kind : FrameKind} {capacity : Nat}
    {v : Vector UInt8 capacity} :
    b.payload kind capacity = .ok v ↔
      ∃ bytes, b.Holds bytes ∧ bytes.length ≤ capacity ∧
        v.toList = bytes ++ List.replicate (capacity - bytes.length) 0 := by
  unfold payload
  constructor
  · intro hv
    split at hv
    · cases hv
    · split at hv
      · rename_i hfits
        obtain ⟨given, hgiven, rfl⟩ := Outcome.map_eq_ok_iff.1 hv
        refine ⟨given.toList, first_length_eq_ok_iff.1 hgiven, ?_, ?_⟩
        · simpa using hfits
        · rw [toList_zeroPadded, Vector.length_toList]
      · cases hv
  · rintro ⟨bytes, hholds, hfits, hv⟩
    obtain ⟨given, hgiven, rfl⟩ := hholds.exists_first
    rw [Vector.length_toList] at hfits hv
    rw [if_neg ((not_congr missing_iff).1 hholds.not_missing), dif_pos hfits, hgiven]
    refine congrArg Except.ok (Vector.toList_inj.1 ?_)
    rw [toList_zeroPadded, hv]

theorem payload_of_missing {b : Buffer} (h : b.Missing) (kind : FrameKind) (capacity : Nat) :
    b.payload kind capacity = .refuse (.missingPayload kind b.length) := by
  rw [payload, if_pos (missing_iff.1 h)]

theorem payload_of_too_long {b : Buffer} (h : ¬b.Missing) (kind : FrameKind) {capacity : Nat}
    (hlong : capacity < b.length) :
    b.payload kind capacity = .refuse (.payloadTooLong kind b.length capacity) := by
  rw [payload, if_neg ((not_congr missing_iff).1 h), dif_neg (by omega)]

theorem payload_of_holds {b : Buffer} {bytes : List UInt8} (h : b.Holds bytes) (kind : FrameKind)
    {capacity : Nat} (hfits : bytes.length ≤ capacity) : ∃ v, b.payload kind capacity = .ok v := by
  obtain ⟨given, -, hgiven⟩ := h.exists_first
  subst hgiven
  have hfits' : given.toList.length ≤ capacity := hfits
  rw [Vector.length_toList] at hfits
  refine ⟨zeroPadded given hfits, payload_eq_ok_iff.2 ⟨_, h, hfits', ?_⟩⟩
  rw [toList_zeroPadded, Vector.length_toList]

/-- Two payloads that hold the same bytes come to the same. -/
theorem payload_congr {a b : Buffer} {bytes : List UInt8} (ha : a.Holds bytes)
    (hb : b.Holds bytes) (kind : FrameKind) (capacity : Nat) :
    a.payload kind capacity = b.payload kind capacity := by
  by_cases hfits : bytes.length ≤ capacity
  · obtain ⟨v, hv⟩ := payload_of_holds ha kind hfits
    obtain ⟨held, hheld, hfits', hpadded⟩ := payload_eq_ok_iff.1 hv
    obtain rfl : bytes = held := ha.unique hheld
    rw [hv, payload_eq_ok_iff.2 ⟨bytes, hb, hfits', hpadded⟩]
  · rw [payload_of_too_long ha.not_missing kind (by rw [ha.length]; omega),
      payload_of_too_long hb.not_missing kind (by rw [hb.length]; omega), ha.length, hb.length]

/-- Bytes that are there can only be too many. -/
theorem error_of_holds {b : Buffer} {bytes : List UInt8} (h : b.Holds bytes) {kind : FrameKind}
    {capacity : Nat} {refusal : Refusal} (hrefused : b.payload kind capacity = .refuse refusal) :
    refusal.error = .payloadTooLarge := by
  by_cases hfits : bytes.length ≤ capacity
  · obtain ⟨v, hv⟩ := payload_of_holds h kind hfits
    rw [hv] at hrefused
    cases hrefused
  · rw [payload_of_too_long h.not_missing kind (by rw [h.length]; omega)] at hrefused
    cases hrefused
    rfl

/-! ### A frame -/

theorem isFrame_iff {b : Buffer} : b.isFrame = true ↔ b.memory.isSome = true ∧ b.length = 64 := by
  simp [isFrame]

theorem isFrame_of_holds {b : Buffer} {f : Frame} (h : b.Holds f.toList) : b.isFrame = true := by
  refine isFrame_iff.2 ⟨h.memory_isSome (by simp), ?_⟩
  rw [h.length, Vector.length_toList]

/-- **Data is accepted as a frame exactly when it holds the bytes of one.** -/
theorem frame_eq_ok_iff {b : Buffer} {f : Frame} : b.frame = .ok f ↔ b.Holds f.toList := by
  unfold frame
  constructor
  · intro hf
    split at hf
    · rename_i hisFrame
      obtain ⟨-, hlength⟩ := isFrame_iff.1 hisFrame
      refine ⟨by rw [hlength, Vector.length_toList], fun i hi => ?_⟩
      rw [Vector.getElem_toList]
      exact first_eq_ok_iff.1 hf i (by simpa using hi)
    · cases hf
  · intro h
    rw [if_pos (isFrame_of_holds h), first_eq_ok_iff]
    intro i hi
    rw [h.readable i (by simpa using hi), Vector.getElem_toList]

/-- Data that is taken for a frame holds the bytes of one. -/
theorem Readable.exists_frame {b : Buffer} (h : b.Readable) (hframe : b.isFrame = true) :
    ∃ f : Frame, b.Holds f.toList := by
  obtain ⟨hsome, hlength⟩ := isFrame_iff.1 hframe
  have hpresent : ¬b.Missing := by
    rintro ⟨hnone, -⟩
    rw [hnone] at hsome
    cases hsome
  obtain ⟨bytes, hbytes⟩ := h.exists_holds hpresent
  have hsize : bytes.toArray.size = 64 := by rw [List.size_toArray, ← hbytes.length, hlength]
  exact ⟨⟨bytes.toArray, hsize⟩, hbytes⟩

theorem frameKind_of_holds {b : Buffer} {f : Frame} (h : b.Holds f.toList) :
    b.frameKind = .ok f.kind := by
  have hmarker : b.read 4 = .ok f.marker := by
    rw [h.readable 4 (by simp), Vector.getElem_toList]
    rfl
  rw [frameKind, if_pos (isFrame_of_holds h), hmarker]
  rfl

theorem frame_of_not_isFrame {b : Buffer} (h : ¬b.isFrame = true) :
    b.frame = .refuse (.malformedFrame b.reportedLength) := by
  rw [frame, if_neg h]

theorem frameKind_of_not_isFrame {b : Buffer} (h : ¬b.isFrame = true) :
    b.frameKind = .refuse (.malformedFrame b.reportedLength) := by
  rw [frameKind, if_neg h]

theorem frameKind_ofBytes_of_ne {bytes : List UInt8} (h : bytes.length ≠ 64) :
    (ofBytes bytes).frameKind = .refuse (.malformedFrame bytes.length) :=
  frameKind_of_not_isFrame fun hframe => h (isFrame_iff.1 hframe).2

end HidLink.Buffer
