/-
The commands an init frame can open a message with.

Each command has one byte, without the mark of the init frame.  Any byte can arrive:
one that belongs to no command is read as `invalid`, which is a command of its own
with a byte of its own, so reading loses nothing only for the ten bytes listed here.
-/
import HidLink.Text

namespace HidLink

/-- What a message asks for. -/
inductive Command where
  | invalid
  | ping
  | msg
  | lock
  | init
  | wink
  | cbor
  | cancel
  | keepalive
  | error
  deriving DecidableEq, Repr

namespace Command

/-- The byte on the wire. -/
def byte : Command → UInt8
  | invalid => 0x00
  | ping => 0x01
  | msg => 0x03
  | lock => 0x04
  | init => 0x06
  | wink => 0x08
  | cbor => 0x10
  | cancel => 0x11
  | keepalive => 0x3b
  | error => 0x3f

/-- The command a byte belongs to, if there is one. -/
def ofByte? : UInt8 → Option Command
  | 0x00 => some invalid
  | 0x01 => some ping
  | 0x03 => some msg
  | 0x04 => some lock
  | 0x06 => some init
  | 0x08 => some wink
  | 0x10 => some cbor
  | 0x11 => some cancel
  | 0x3b => some keepalive
  | 0x3f => some error
  | _ => none

/-- The command a received byte is taken for: its own, or `invalid` when it has none. -/
def ofByte (b : UInt8) : Command := (ofByte? b).getD invalid

def name : Command → Text
  | invalid => ascii "INVALID"
  | ping => ascii "PING"
  | msg => ascii "MSG"
  | lock => ascii "LOCK"
  | init => ascii "INIT"
  | wink => ascii "WINK"
  | cbor => ascii "CBOR"
  | cancel => ascii "CANCEL"
  | keepalive => ascii "KEEPALIVE"
  | error => ascii "ERROR"

/-- The name to show for a byte, which need not be a command's. -/
def nameOfByte (b : UInt8) : Text :=
  match ofByte? b with
  | some c => c.name
  | none => ascii "UNKNOWN"

@[simp] theorem ofByte?_byte (c : Command) : ofByte? c.byte = some c := by
  cases c <;> rfl

@[simp] theorem ofByte_byte (c : Command) : ofByte c.byte = c := by
  simp [ofByte]

theorem ofByte?_eq_some_iff {b : UInt8} {c : Command} : ofByte? b = some c ↔ c.byte = b := by
  constructor
  · intro h
    unfold ofByte? at h
    split at h <;> cases h <;> rfl
  · rintro rfl
    exact ofByte?_byte c

theorem ofByte?_eq_none_iff {b : UInt8} : ofByte? b = none ↔ ¬∃ c : Command, c.byte = b := by
  simp only [Option.eq_none_iff_forall_ne_some, ne_eq, ofByte?_eq_some_iff, not_exists]

theorem ofByte_of_undeclared {b : UInt8} (h : ¬∃ c : Command, c.byte = b) : ofByte b = invalid := by
  rw [ofByte, ofByte?_eq_none_iff.2 h]
  rfl

/-- No two commands share a byte. -/
theorem byte_inj {c d : Command} : c.byte = d.byte ↔ c = d := by
  refine ⟨fun h => ?_, fun h => h ▸ rfl⟩
  have hsome := congrArg ofByte? h
  rw [ofByte?_byte, ofByte?_byte] at hsome
  exact Option.some.inj hsome

theorem byte_le (c : Command) : c.byte ≤ 0x7F := by
  cases c <;> decide

end Command

end HidLink
