/-
A text stream with formatting that lasts.

A stream remembers how numbers are written: their base, the case of letter digits, a
field width and the character that fills a field.  Base, case and fill hold until
they are set again, over any number of messages.  The width holds for one insertion
only, be it a number or a text, which is padded on the left when it is shorter.  So
what an insertion writes can depend on anything that was inserted before it, and that
a message does not suffer from an earlier one has to be shown.

A message is a list of items, each one insertion or one change of the format.
-/
import HidLink.Numeral

namespace HidLink

/-- How a stream formats what is inserted next. -/
structure Format where
  radix : Radix := .decimal
  width : Nat := 0
  fill : UInt8 := 32
  upperCase : Bool := false
  deriving DecidableEq, Repr

/-- One step of a message. -/
inductive Item where
  /-- Inserts a text. -/
  | text (t : Text)
  /-- Inserts a number, written in the current base. -/
  | number (n : Nat)
  | radix (r : Radix)
  | width (w : Nat)
  | fill (c : UInt8)
  | upperCase (on : Bool)
  deriving DecidableEq, Repr

/-- Inserts a text that is written in ASCII. -/
def Item.ascii (s : String) : Item := .text (HidLink.ascii s)

/-- A stream: its format and everything written to it. -/
structure Stream where
  format : Format := {}
  written : Text := []
  deriving DecidableEq, Repr

namespace Stream

/-- Inserts a text into a field of the current width, which is used up by it. -/
def insert (s : Stream) (t : Text) : Stream where
  format := { s.format with width := 0 }
  written := s.written ++ List.replicate (s.format.width - t.length) s.format.fill ++ t

/-- One item of a message. -/
def put (s : Stream) : Item → Stream
  | .text t => s.insert t
  | .number n => s.insert (numeral s.format.radix s.format.upperCase n)
  | .radix r => { s with format := { s.format with radix := r } }
  | .width w => { s with format := { s.format with width := w } }
  | .fill c => { s with format := { s.format with fill := c } }
  | .upperCase on => { s with format := { s.format with upperCase := on } }

/-- A whole message. -/
def emit (s : Stream) (message : List Item) : Stream :=
  message.foldl put s

/-- The same stream with nothing written yet; the format stays as it was left. -/
def rewound (s : Stream) : Stream := { s with written := [] }

@[simp] theorem emit_nil (s : Stream) : s.emit [] = s := rfl

@[simp] theorem emit_cons (s : Stream) (item : Item) (rest : List Item) :
    s.emit (item :: rest) = (s.put item).emit rest := rfl

theorem emit_append (s : Stream) (a b : List Item) :
    s.emit (a ++ b) = (s.emit a).emit b := List.foldl_append ..

end Stream

end HidLink
