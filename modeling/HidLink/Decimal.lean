/-
Reading a decimal number of at most 64 bits.

The text must open with a digit, so neither sign nor blank is taken in front.  The
digits are the longest run of them at the start, and behind the run the text has to
end; a zero byte ends it as well, whatever stands behind that byte.  The number is
built up digit by digit in a 64-bit word, and a digit that would not fit refuses the
text instead of wrapping the word around.
-/
import HidLink.Text

namespace HidLink.Decimal

/-- What a decimal digit stands for. -/
def value (c : UInt8) : Nat := c.toNat - 48

/-- `10 * n + d`, if the word can hold it. -/
def shiftIn? (n : UInt64) (d : Nat) : Option UInt64 :=
  let next := 10 * n.toNat + d
  if next < UInt64.size then some (UInt64.ofNat next) else none

/-- Reads digits behind the number `n` that was read so far. -/
def accumulate? (n : UInt64) : Text → Option UInt64
  | [] => some n
  | c :: rest =>
      match shiftIn? n (value c) with
      | none => none
      | some next => accumulate? next rest

theorem accumulate?_cons (n : UInt64) (c : UInt8) (rest : Text) :
    accumulate? n (c :: rest) =
      (shiftIn? n (value c)).bind fun next => accumulate? next rest := by
  show (match shiftIn? n (value c) with
    | none => none
    | some next => accumulate? next rest) = _
  cases shiftIn? n (value c) with
  | none => rfl
  | some next => rfl

/-- Whether a text is over: it has no more bytes, or a zero byte ends it here. -/
def isOver : Text → Bool
  | [] => true
  | c :: _ => c == 0

/-- The number a text denotes, if the text is a number and that is at most `max`. -/
def parse? (text : Text) (max : UInt64) : Option UInt64 :=
  let digits := text.takeWhile Text.isDigit
  if digits = [] then none
  else
    match accumulate? 0 digits with
    | none => none
    | some n => if isOver (text.dropWhile Text.isDigit) ∧ n ≤ max then some n else none

end HidLink.Decimal
