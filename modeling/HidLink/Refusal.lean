/-
Why an operation is refused, and what is said about it.

A refusal carries the value that gave offence, so that its line on the diagnostic
stream can show it; the caller is told only which of five errors it was.  There are
six causes, since a payload without data counts as a malformed frame.

Besides being refused an operation can go wrong in one more way: it can read where the
caller has given no data.  That is kept apart as a fault of the library, with neither an
error nor a line of its own, so that it can be shown never to happen when there is as
much data as was announced.
-/
import HidLink.Console
import HidLink.FrameKind

namespace HidLink

/-- What a caller is told about a refused operation. -/
inductive Error where
  | malformedFrame
  | payloadTooLarge
  | invalidSequence
  | invalidCommand
  | unknownErrorCode
  deriving DecidableEq, Repr

namespace Error

def message : Error → Text
  | malformedFrame => ascii "malformed frame"
  | payloadTooLarge => ascii "payload too large"
  | invalidSequence => ascii "invalid sequence number"
  | invalidCommand => ascii "invalid command"
  | unknownErrorCode => ascii "unknown error code"

/-- The errors in the order they are numbered in. -/
def all : List Error :=
  [malformedFrame, payloadTooLarge, invalidSequence, invalidCommand, unknownErrorCode]

/-- The message for an error that is given by number, which need not exist. -/
def messageOfIndex : Int → Text
  | .ofNat i =>
      match all[i]? with
      | some error => error.message
      | none => ascii "unknown"
  | .negSucc _ => ascii "unknown"

end Error

/-- Why an operation was refused. -/
inductive Refusal where
  /-- An init frame was asked for with a byte that is no command's. -/
  | unknownCommand (code : UInt8)
  /-- A continuation was asked for with a sequence number that would read as the mark of an init
  frame. -/
  | sequenceOutOfRange (sequence : UInt8)
  /-- A payload was announced with this length, but there is no data. -/
  | missingPayload (kind : FrameKind) (length : Nat)
  /-- A payload of this length does not fit into a frame that has room for `capacity` bytes. -/
  | payloadTooLong (kind : FrameKind) (length capacity : Nat)
  /-- What should be a frame has this length, which counts as zero when there is no data. -/
  | malformedFrame (length : Nat)
  /-- A byte that is no error code's. -/
  | unknownErrorCode (code : UInt8)
  deriving DecidableEq, Repr

namespace Refusal

/-- A payload without data is reported as a malformed frame. -/
def error : Refusal → Error
  | unknownCommand _ => .invalidCommand
  | sequenceOutOfRange _ => .invalidSequence
  | missingPayload .. => .malformedFrame
  | payloadTooLong .. => .payloadTooLarge
  | malformedFrame _ => .malformedFrame
  | unknownErrorCode _ => .unknownErrorCode

/--
The line that is written about a refusal.  The two that show a byte in base sixteen
return to base ten behind it; the fill of the error code's field stays as it was set.
-/
def diagnostic : Refusal → List Item
  | unknownCommand code =>
      [.ascii "Refusing init frame with unknown command 0x", .radix .hexadecimal,
        .number code.toNat, .radix .decimal, .ascii "\n"]
  | sequenceOutOfRange sequence =>
      [.ascii "Continuation sequence ", .number sequence.toNat, .ascii " out of range 0-",
        .number Layout.maxSequence.toNat, .ascii "\n"]
  | missingPayload kind length =>
      [.text (kind.title ++ ascii " payload of "), .number length,
        .ascii " bytes has no data\n"]
  | payloadTooLong kind length capacity =>
      [.text (kind.title ++ ascii " payload of "), .number length, .ascii " bytes exceeds ",
        .number capacity, .ascii "\n"]
  | malformedFrame length =>
      [.ascii "Malformed CTAPHID frame: expected ", .number Layout.frameSize,
        .ascii " bytes, got ", .number length, .ascii "\n"]
  | unknownErrorCode code =>
      [.ascii "Unknown CTAPHID error code 0x", .radix .hexadecimal, .width 2, .fill 48,
        .number code.toNat, .radix .decimal, .ascii "\n"]

end Refusal

/-- How an operation can fail. -/
inductive Failure where
  | refused (refusal : Refusal)
  /-- Data was read at a position where there is none. -/
  | unreadable (index : Nat)
  deriving DecidableEq, Repr

namespace Failure

/-- What the caller is told. -/
def message : Failure → Text
  | refused refusal => refusal.error.message
  | unreadable _ => ascii "unreadable data"

/-- What is written about it. -/
def diagnostic : Failure → List Item
  | refused refusal => refusal.diagnostic
  | unreadable _ => []

end Failure

/-- What an operation comes to. -/
abbrev Outcome (α : Type) := Except Failure α

namespace Outcome

def refuse {α : Type} (refusal : Refusal) : Outcome α := .error (.refused refusal)

/-- What is written about an outcome: nothing if the operation succeeded. -/
def diagnostic {α : Type} : Outcome α → List Item
  | .ok _ => []
  | .error failure => failure.diagnostic

/-- An operation that goes on with what another one came to succeeds exactly when that did. -/
theorem map_eq_ok_iff {α β : Type} {f : α → β} {outcome : Outcome α} {y : β} :
    outcome.map f = .ok y ↔ ∃ x, outcome = .ok x ∧ f x = y := by
  cases outcome with
  | error failure => simp [Except.map]
  | ok x => simp [Except.map]

end Outcome

end HidLink
