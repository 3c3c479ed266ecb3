/-
Sessions: many operations in a row, over one store and one console.

A session remembers two things from one operation to the next, the packets that were
put into slots and the formatting that the two streams were left with.  What an
operation writes is collected for it alone, so an answer shows the reply and the two
texts of this operation, and anything of an earlier one that shows through is visible.
-/
import HidLink.Dump
import HidLink.ErrorCode
import HidLink.Store

namespace HidLink

/-- Changes to the bytes of a report before they are handed over as data, in this order. -/
structure Edit where
  /-- How many bytes to leave out in front; leaving out the report id gives the frame. -/
  skip : Nat := 1
  /-- Bytes to put behind. -/
  append : List UInt8 := []
  /-- How many bytes to keep, if not all. -/
  keep : Option Nat := none
  /-- Bytes to put in place of others. -/
  overwrite : List (Nat × UInt8) := []
  deriving DecidableEq, Repr

def Edit.apply (e : Edit) (bytes : List UInt8) : List UInt8 :=
  let extended := bytes.drop e.skip ++ e.append
  let kept := match e.keep with
    | none => extended
    | some n => extended.take n
  e.overwrite.foldl (fun bytes change => bytes.set change.1 change.2) kept

/-- Where the data of an operation comes from. -/
inductive Supply where
  /-- There is no data, though a length is announced. -/
  | absent (length : Nat)
  /-- These bytes, announced with another length than theirs if one is given. -/
  | given (bytes : List UInt8) (length : Option Nat)
  /-- The report of a stored packet, edited, announced likewise. -/
  | stored (slot : Int) (edit : Edit) (length : Option Nat)
  deriving DecidableEq, Repr

namespace Supply

/-- Bytes with the length they are announced with; behind them there is room that is zero. -/
def announce (bytes : List UInt8) : Option Nat → Buffer
  | none => .ofBytes bytes
  | some length => .window bytes length

/-- The data, unless it is to come from a slot that holds no packet. -/
def buffer? (store : Store) : Supply → Option Buffer
  | absent length => some (.absent length)
  | given bytes length => some (announce bytes length)
  | stored slot edit length =>
      (store.packet? slot).map fun p => announce (edit.apply p.report.toList) length

end Supply

/-- An attempt to make a packet, in one of the four ways there are. -/
inductive Attempt where
  | buildInit (cid : ChannelId) (code : UInt8) (size : UInt16) (payload : Supply)
  | buildCont (cid : ChannelId) (sequence : UInt8) (payload : Supply)
  | decodeInit (data : Supply)
  | decodeCont (data : Supply)
  deriving DecidableEq, Repr

/-- What becomes of an attempt, unless its data was to come from a slot that holds no packet. -/
def Attempt.outcome? (store : Store) : Attempt → Option (Outcome Packet)
  | buildInit cid code size payload =>
      (payload.buffer? store).map fun b => (InitPacket.build cid code size b).map .init
  | buildCont cid sequence payload =>
      (payload.buffer? store).map fun b => (ContPacket.build cid sequence b).map .cont
  | decodeInit data => (data.buffer? store).map fun b => (InitPacket.decode b).map .init
  | decodeCont data => (data.buffer? store).map fun b => (ContPacket.decode b).map .cont

/-- One operation of a session. -/
inductive Request where
  /-- Makes a packet and puts what becomes of it into a slot, if one is named. -/
  | make (attempt : Attempt) (into : Option Int)
  /-- Shows what a slot holds. -/
  | look (slot : Int)
  /-- Puts what a slot holds into another one as well. -/
  | copy (slot into : Int)
  | frameKind (data : Supply)
  | decodeErrorCode (b : UInt8)
  | renderHex (data : Supply)
  | parseHex (text : Text)
  | parseDecimal (text : Text) (max : UInt64)
  /-- A whole run of the frame dump. -/
  | dump (arguments : List Text)
  deriving DecidableEq, Repr

/-- What an operation gives back. -/
inductive Value where
  | packet (p : Packet)
  | kind (k : FrameKind)
  | errorCode (code : ErrorCode)
  | text (t : Text)
  /-- The bytes a text stands for, if it was not refused. -/
  | bytesRead (bytes : Option (List UInt8))
  /-- The number a text denotes, if it was not refused. -/
  | numberRead (n : Option UInt64)
  | exit (status : Dump.ExitStatus)
  deriving DecidableEq, Repr

/-- The state between two operations. -/
structure Session where
  store : Store := .empty
  console : Console := {}

/-- What an operation came to: its reply, and what it wrote to either stream. -/
structure Answer where
  /-- Missing if the operation wants from a slot what the slot does not hold. -/
  reply : Option (Outcome Value)
  out : Text
  err : Text

namespace Session

/--
Carries out one operation: what it gives back and says, and the store it leaves behind.
Telling the kind of a frame is the one operation that says nothing when it is refused.
-/
def perform (store : Store) : Request → Spoken (Option (Outcome Value)) × Store
  | .make attempt into =>
      match attempt.outcome? store with
      | none => ({ result := none }, store)
      | some outcome =>
          ({ result := some (outcome.map .packet), err := outcome.diagnostic },
            store.keep outcome into)
  | .look slot => ({ result := (store.get? slot).map (·.map .packet) }, store)
  | .copy slot into =>
      match store.get? slot with
      | none => ({ result := none }, store)
      | some outcome => ({ result := some (outcome.map .packet) }, store.put into outcome)
  | .frameKind data =>
      ({ result := (data.buffer? store).map (·.frameKind.map .kind) }, store)
  | .decodeErrorCode b =>
      let outcome := ErrorCode.decode b
      ({ result := some (outcome.map .errorCode), err := outcome.diagnostic }, store)
  | .renderHex data =>
      ({ result := (data.buffer? store).map fun b => b.hex.map .text }, store)
  | .parseHex text => ({ result := some (.ok (.bytesRead (Hex.parse? text))) }, store)
  | .parseDecimal text max =>
      ({ result := some (.ok (.numberRead (Decimal.parse? text max))) }, store)
  | .dump arguments =>
      let spoken := Dump.run arguments
      ({ result := some (.ok (.exit spoken.result)), out := spoken.out, err := spoken.err }, store)

/-- Carries out one operation on the session's streams and collects what it writes. -/
def answer (s : Session) (request : Request) : Answer × Session :=
  let (spoken, store) := perform s.store request
  let console := s.console.rewound.hear spoken
  ({ reply := spoken.result, out := console.out.written, err := console.err.written },
    { store, console })

/-- Carries out operations in their order. -/
def answers (s : Session) : List Request → List Answer × Session
  | [] => ([], s)
  | request :: rest =>
      let (first, s) := s.answer request
      let (later, s) := s.answers rest
      (first :: later, s)

end Session

end HidLink
