/-
Data that a caller hands over: where it lies, and how long the caller says it is.

The length is only an announcement.  There may be no data at all, or data at fewer
positions than announced, and reading where there is none is a fault of the library
and not of the caller.  So every operation checks the announced length first, and
reads only then and only below it.

What is read comes out as a vector of exactly the bytes asked for, and a payload is
filled up with zeros behind them to the room its frame has.
-/
import HidLink.Hex
import HidLink.Refusal

namespace HidLink

/-- Data as it is handed over. -/
structure Buffer where
  /-- The byte at each position that can be read; nothing at all if there is no data. -/
  memory : Option (Nat → Option UInt8)
  /-- The length the caller announces. -/
  length : Nat

namespace Buffer

/-- Data that is exactly as long as announced. -/
def ofBytes (bytes : List UInt8) : Buffer where
  memory := some fun i => bytes[i]?
  length := bytes.length

/-- No data, whatever length is announced. -/
def absent (length : Nat) : Buffer where
  memory := none
  length := length

/-- Data of the announced length that opens with these bytes and is zero behind them. -/
def window (bytes : List UInt8) (length : Nat) : Buffer where
  memory := some fun i => if i < length then some (bytes.getD i 0) else none
  length := length

/-- One byte. -/
def read (b : Buffer) (i : Nat) : Outcome UInt8 :=
  match b.memory with
  | none => .error (.unreadable i)
  | some bytes =>
      match bytes i with
      | none => .error (.unreadable i)
      | some x => .ok x

/-- The first `n` bytes, read in order. -/
def first (b : Buffer) : (n : Nat) → Outcome (Vector UInt8 n)
  | 0 => .ok #v[]
  | n + 1 =>
      match b.first n with
      | .error failure => .error failure
      | .ok front =>
          match b.read n with
          | .error failure => .error failure
          | .ok x => .ok (front.push x)

/-- All of the data in hex, as far as it is announced. -/
def hex (b : Buffer) : Outcome Text := (b.first b.length).map fun bytes => Hex.render bytes.toList

/-! ### What is read -/

theorem read_ofBytes {bytes : List UInt8} {i : Nat} (h : i < bytes.length) :
    (ofBytes bytes).read i = .ok bytes[i] := by
  simp [read, ofBytes, List.getElem?_eq_getElem h]

/-- Reading a stretch succeeds exactly when every position in it can be read. -/
theorem first_eq_ok_iff {b : Buffer} {n : Nat} {v : Vector UInt8 n} :
    b.first n = .ok v ↔ ∀ (i : Nat) (h : i < n), b.read i = .ok v[i] := by
  induction n with
  | zero => simp [first]
  | succ n ih =>
      constructor
      · intro hv i hi
        rw [first] at hv
        split at hv
        · cases hv
        · next front hfront =>
            split at hv
            · cases hv
            · next x hx =>
                cases hv
                by_cases hin : i < n
                · simpa [Vector.getElem_push, hin] using ih.1 hfront i hin
                · obtain rfl : i = n := by omega
                  simpa using hx
      · intro hall
        have hfront : b.first n = .ok v.pop := ih.2 fun i hi => by
          simpa using hall i (by omega)
        have hlast : b.read n = .ok v[n] := hall n (by omega)
        simp only [first, hfront, hlast, Except.ok.injEq]
        exact Vector.push_pop_back v

/-! ### Payload -/

/-- The same bytes with zeros behind them, up to `capacity`. -/
def zeroPadded {n capacity : Nat} (v : Vector UInt8 n) (h : n ≤ capacity) :
    Vector UInt8 capacity :=
  (v ++ Vector.replicate (capacity - n) (0 : UInt8)).cast (by omega)

theorem toList_zeroPadded {n capacity : Nat} (v : Vector UInt8 n) (h : n ≤ capacity) :
    (zeroPadded v h).toList = v.toList ++ List.replicate (capacity - n) 0 := by
  rw [zeroPadded, Vector.toList_cast, Vector.toList_append, Vector.toList_replicate]

theorem getElem_zeroPadded {n capacity : Nat} (v : Vector UInt8 n) (h : n ≤ capacity)
    (i : Nat) (hi : i < capacity) :
    (zeroPadded v h)[i] = if hin : i < n then v[i] else 0 := by
  simp [zeroPadded, Vector.getElem_append]

/--
The payload of a frame with room for `capacity` bytes.  That there is data is checked
before its length, and nothing is read unless it all fits.
-/
def payload (b : Buffer) (kind : FrameKind) (capacity : Nat) : Outcome (Vector UInt8 capacity) :=
  if b.memory.isNone ∧ 0 < b.length then .refuse (.missingPayload kind b.length)
  else if h : b.length ≤ capacity then
    (b.first b.length).map fun given => zeroPadded given h
  else .refuse (.payloadTooLong kind b.length capacity)

end Buffer

end HidLink
