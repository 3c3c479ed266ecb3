/-
Numbered slots that hold what became of attempts to make a packet.

A slot holds the outcome as a whole, so also the failure of an attempt that came to
nothing.  Filling a slot replaces what it held and leaves every other slot alone.
-/
import HidLink.Packet

namespace HidLink

/-- What each slot holds, if it was ever filled. -/
structure Store where
  held : Int → Option (Outcome Packet)

namespace Store

def empty : Store := ⟨fun _ => none⟩

def get? (s : Store) (slot : Int) : Option (Outcome Packet) := s.held slot

def put (s : Store) (slot : Int) (outcome : Outcome Packet) : Store :=
  ⟨fun other => if other = slot then some outcome else s.held other⟩

/-- Puts an outcome into a slot, if one is named. -/
def keep (s : Store) (outcome : Outcome Packet) : Option Int → Store
  | none => s
  | some slot => s.put slot outcome

/-- The packet in a slot, if the slot holds one. -/
def packet? (s : Store) (slot : Int) : Option Packet :=
  match s.get? slot with
  | some (.ok p) => some p
  | _ => none

@[simp] theorem get?_empty (slot : Int) : empty.get? slot = none := rfl

theorem get?_put (s : Store) (slot other : Int) (outcome : Outcome Packet) :
    (s.put slot outcome).get? other = if other = slot then some outcome else s.get? other := rfl

end Store

end HidLink
