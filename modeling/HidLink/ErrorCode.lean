/-
The error codes an authenticator answers with.

An error message carries one byte that says what went wrong.  Unlike commands, error
codes have no member to stand in for the unlisted bytes, so reading one can be refused.
-/
import HidLink.Refusal

namespace HidLink

/-- What an authenticator found wrong with a request. -/
inductive ErrorCode where
  | invalidCommand
  | invalidParameter
  | invalidLength
  | invalidSequence
  | messageTimeout
  | channelBusy
  | lockRequired
  | reserved
  | other
  deriving DecidableEq, Repr

namespace ErrorCode

/-- The byte on the wire. -/
def byte : ErrorCode → UInt8
  | invalidCommand => 0x01
  | invalidParameter => 0x02
  | invalidLength => 0x03
  | invalidSequence => 0x04
  | messageTimeout => 0x05
  | channelBusy => 0x06
  | lockRequired => 0x0A
  | reserved => 0x0B
  | other => 0x7F

/-- The error code a byte belongs to, if there is one. -/
def ofByte? : UInt8 → Option ErrorCode
  | 0x01 => some invalidCommand
  | 0x02 => some invalidParameter
  | 0x03 => some invalidLength
  | 0x04 => some invalidSequence
  | 0x05 => some messageTimeout
  | 0x06 => some channelBusy
  | 0x0A => some lockRequired
  | 0x0B => some reserved
  | 0x7F => some other
  | _ => none

def description : ErrorCode → Text
  | invalidCommand => ascii "The command in the request is invalid"
  | invalidParameter => ascii "The parameter(s) in the request is invalid"
  | invalidLength => ascii "The length field (BCNT) is invalid for the request"
  | invalidSequence => ascii "The sequence does not match expected value"
  | messageTimeout => ascii "The message has timed out"
  | channelBusy => ascii "The device is busy for the requesting channel"
  | lockRequired => ascii "Command requires channel lock"
  | reserved => ascii "Reserved error"
  | other => ascii "Unspecified error"

/-- The description to show for a byte, which need not be an error code's. -/
def descriptionOfByte (b : UInt8) : Text :=
  match ofByte? b with
  | some code => code.description
  | none => ascii "Unknown error code"

/-- Reads the byte of an error message. -/
def decode (b : UInt8) : Outcome ErrorCode :=
  match ofByte? b with
  | some code => .ok code
  | none => .refuse (.unknownErrorCode b)

@[simp] theorem ofByte?_byte (code : ErrorCode) : ofByte? code.byte = some code := by
  cases code <;> rfl

theorem ofByte?_eq_some_iff {b : UInt8} {code : ErrorCode} :
    ofByte? b = some code ↔ code.byte = b := by
  constructor
  · intro h
    unfold ofByte? at h
    split at h <;> cases h <;> rfl
  · rintro rfl
    exact ofByte?_byte code

theorem ofByte?_eq_none_iff {b : UInt8} :
    ofByte? b = none ↔ ¬∃ code : ErrorCode, code.byte = b := by
  simp only [Option.eq_none_iff_forall_ne_some, ne_eq, ofByte?_eq_some_iff, not_exists]

end ErrorCode

end HidLink
