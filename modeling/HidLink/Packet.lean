/-
Packets of either kind.
-/
import HidLink.Packet.Cont
import HidLink.Packet.Init

namespace HidLink

/-- A packet that opens a message or continues one. -/
inductive Packet where
  | init (p : InitPacket)
  | cont (p : ContPacket)
  deriving DecidableEq, Repr

namespace Packet

def cid : Packet → ChannelId
  | init p => p.cid
  | cont p => p.cid

def frame : Packet → Frame
  | init p => p.frame
  | cont p => p.frame

def report : Packet → Report
  | init p => p.report
  | cont p => p.report

theorem report_eq (p : Packet) : p.report = p.frame.report := by
  cases p <;> rfl

end Packet

end HidLink
