/-
What a message writes.

A stream is calm when numbers come out in base ten, in lower case and without padding;
the fill does not matter then, since nothing is filled.  The messages of this library
take a calm stream and leave a calm one, whatever they do to the format on the way, so
what one of them writes can be said once and for all, and messages put together write
what their parts write.
-/
import HidLink.Console

namespace HidLink

/-- A format that writes texts as they are, and numbers in base ten. -/
structure Format.Calm (f : Format) : Prop where
  radix_eq : f.radix = .decimal
  width_eq : f.width = 0
  upperCase_eq : f.upperCase = false

theorem Format.calm_default : Format.Calm {} := ⟨rfl, rfl, rfl⟩

theorem Stream.insert_of_calm {s : Stream} (h : s.format.Calm) (t : Text) :
    s.insert t = { s with written := s.written ++ t } := by
  obtain ⟨f, written⟩ := s
  obtain ⟨radix, width, fill, upperCase⟩ := f
  obtain rfl : width = 0 := h.width_eq
  simp [insert]

/-- On any calm stream the message writes this text, and it leaves the stream calm. -/
def Writes (message : List Item) (t : Text) : Prop :=
  ∀ s : Stream, s.format.Calm →
    (s.emit message).written = s.written ++ t ∧ (s.emit message).format.Calm

namespace Writes

variable {message : List Item} {t : Text}

theorem nil : Writes [] [] := by
  intro s h
  exact ⟨by simp, h⟩

theorem append {a b : List Item} {x y : Text} (ha : Writes a x) (hb : Writes b y) :
    Writes (a ++ b) (x ++ y) := by
  intro s h
  obtain ⟨hwritten, hcalm⟩ := ha s h
  obtain ⟨hwritten', hcalm'⟩ := hb _ hcalm
  rw [Stream.emit_append]
  exact ⟨by rw [hwritten', hwritten, List.append_assoc], hcalm'⟩

theorem text (a : Text) (hrest : Writes message t) : Writes (.text a :: message) (a ++ t) := by
  intro s h
  rw [Stream.emit_cons, Stream.put, Stream.insert_of_calm h]
  obtain ⟨hwritten, hcalm⟩ := hrest { s with written := s.written ++ a } h
  exact ⟨by rw [hwritten, List.append_assoc], hcalm⟩

theorem ascii (a : String) (hrest : Writes message t) :
    Writes (.ascii a :: message) (HidLink.ascii a ++ t) :=
  text (HidLink.ascii a) hrest

theorem number (n : Nat) (hrest : Writes message t) :
    Writes (.number n :: message) (numeral .decimal false n ++ t) := by
  intro s h
  rw [Stream.emit_cons, Stream.put, h.radix_eq, h.upperCase_eq]
  exact text _ hrest s h

/-- The base is set for one number and set back behind it. -/
theorem hexadecimal (n : Nat) (hrest : Writes message t) :
    Writes (.radix .hexadecimal :: .number n :: .radix .decimal :: message)
      (numeral .hexadecimal false n ++ t) := by
  intro s h
  have hput : ((s.put (.radix .hexadecimal)).put (.number n)).put (.radix .decimal)
      = s.insert (numeral .hexadecimal false n) := by
    obtain ⟨⟨radix, width, fill, upperCase⟩, written⟩ := s
    obtain rfl : radix = .decimal := h.radix_eq
    obtain rfl : upperCase = false := h.upperCase_eq
    rfl
  rw [Stream.emit_cons, Stream.emit_cons, Stream.emit_cons, hput]
  exact text _ hrest s h

/-- A field is as wide as asked for one number only, but its fill stays as it was set. -/
theorem hexadecimalField (n width : Nat) (fill : UInt8) (hrest : Writes message t) :
    Writes (.radix .hexadecimal :: .width width :: .fill fill :: .number n :: .radix .decimal
        :: message)
      (List.replicate (width - (numeral .hexadecimal false n).length) fill
        ++ numeral .hexadecimal false n ++ t) := by
  intro s h
  obtain ⟨⟨radix, oldWidth, oldFill, upperCase⟩, written⟩ := s
  obtain rfl : radix = .decimal := h.radix_eq
  obtain rfl : upperCase = false := h.upperCase_eq
  let behind : Stream :=
    { format := { fill := fill }
      written := written ++ List.replicate (width - (numeral .hexadecimal false n).length) fill
        ++ numeral .hexadecimal false n }
  obtain ⟨hwritten, hcalm⟩ := hrest behind ⟨rfl, rfl, rfl⟩
  refine ⟨?_, hcalm⟩
  show (behind.emit message).written = _
  rw [hwritten]
  simp only [behind, List.append_assoc]

end Writes

end HidLink
