/-
The two kinds of frame, told apart by one bit.

A receiver looks at the byte behind the channel id: with the top bit set the frame
opens a message, without it the frame continues one.  An init frame keeps its command
in the other seven bits of that byte, so marking a command and stripping the mark undo
each other for every byte that has its top bit clear.
-/
import HidLink.Layout
import HidLink.Text

namespace HidLink

/-- Whether a frame opens a message or continues one. -/
inductive FrameKind where
  | init
  | continuation
  deriving DecidableEq, Repr

namespace FrameKind

def name : FrameKind → Text
  | init => ascii "INIT"
  | continuation => ascii "CONT"

/-- How a diagnostic opens a sentence about a frame of this kind. -/
def title : FrameKind → Text
  | init => ascii "Init frame"
  | continuation => ascii "Continuation frame"

/-- The kinds in the order they are numbered in. -/
def all : List FrameKind := [init, continuation]

/-- The name to show for a kind that is given by number, which need not exist. -/
def nameOfIndex : Int → Text
  | .ofNat i =>
      match all[i]? with
      | some kind => kind.name
      | none => ascii "UNKNOWN"
  | .negSucc _ => ascii "UNKNOWN"

/-! ### The marker byte -/

/-- The kind that the byte behind the channel id marks. -/
def ofMarker (b : UInt8) : FrameKind :=
  if b &&& Layout.initMark = 0 then continuation else init

/-- A command byte with the mark of the init frame. -/
def mark (b : UInt8) : UInt8 := Layout.initMark ||| b

/-- A marker byte with the mark of the init frame taken off. -/
def unmark (b : UInt8) : UInt8 := b &&& ~~~Layout.initMark

private theorem forall_byte {P : UInt8 → Prop} (h : ∀ i : Fin 256, P (UInt8.ofFin i))
    (b : UInt8) : P b := h b.toFin

section
-- Each of these is a check of all 256 bytes.
set_option maxRecDepth 4096

/-- A frame opens a message exactly when the top bit of its marker is set. -/
theorem ofMarker_eq_init_iff : ∀ b : UInt8, ofMarker b = init ↔ 0x80 ≤ b :=
  forall_byte (by decide)

theorem ofMarker_eq_continuation_iff : ∀ b : UInt8, ofMarker b = continuation ↔ b ≤ 0x7F :=
  forall_byte (by decide)

theorem ofMarker_mark : ∀ b : UInt8, ofMarker (mark b) = init :=
  forall_byte (by decide)

theorem unmark_le : ∀ b : UInt8, unmark b ≤ 0x7F :=
  forall_byte (by decide)

/-- Stripping undoes marking for a byte that was not marked before. -/
theorem unmark_mark : ∀ b : UInt8, b ≤ 0x7F → unmark (mark b) = b :=
  forall_byte (by decide)

/-- A byte that was marked already stays as it is. -/
theorem mark_of_init : ∀ b : UInt8, ofMarker b = init → mark b = b :=
  forall_byte (by decide)

/-- Stripping leaves everything there is to a byte besides the mark. -/
theorem mark_unmark : ∀ b : UInt8, mark (unmark b) = mark b :=
  forall_byte (by decide)

theorem toNat_mark : ∀ b : UInt8, b ≤ 0x7F → (mark b).toNat = 0x80 + b.toNat :=
  forall_byte (by decide)

theorem toNat_unmark : ∀ b : UInt8, (unmark b).toNat = b.toNat % 0x80 :=
  forall_byte (by decide)

end

end FrameKind

end HidLink
