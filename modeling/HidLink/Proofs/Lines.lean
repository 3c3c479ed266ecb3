/-
The lines of a dump, and reading them again.

A dump is a line for each field, and a line is a label with a value behind it.  When no
value holds a line feed, the values can be told from the text: each of them ends where the
line does.  This needs to be known of one side only.  A text that is put together from
values in which there are line feeds has too many of them to be the same.

The command's line shows a name and a byte, and of these it is again the byte's digits
that the text tells, since neither a name nor a number has the letter of the mark in front
of it.
-/
import Mathlib.Data.List.Basic
import HidLink.Command
import HidLink.Proofs.Hex

namespace HidLink.Dump

/-! ### Lines -/

abbrev newline : UInt8 := 10

/-- A label, what it labels, and a line feed. -/
def line (label : String) (value : Text) : Text := ascii label ++ value ++ ascii "\n"

/-- A line for each value. -/
def lines (labels : List String) (values : List Text) : Text :=
  (List.zipWith line labels values).flatten

/-- The first place of a byte cuts a text in two. -/
theorem cut_inj {c : UInt8} {s t : Text} :
    ∀ {x y : Text}, c ∉ x → c ∉ y → x ++ c :: s = y ++ c :: t → x = y ∧ s = t := by
  intro x
  induction x with
  | nil =>
      intro y _ hy h
      cases y with
      | nil => exact ⟨rfl, (List.cons.inj h).2⟩
      | cons d y =>
          obtain ⟨rfl, -⟩ := List.cons.inj h
          exact absurd List.mem_cons_self hy
  | cons d x ih =>
      intro y hx hy h
      cases y with
      | nil =>
          obtain ⟨rfl, -⟩ := List.cons.inj h
          exact absurd List.mem_cons_self hx
      | cons e y =>
          obtain ⟨rfl, htail⟩ := List.cons.inj h
          obtain ⟨rfl, hst⟩ := ih (List.not_mem_of_not_mem_cons hx)
            (List.not_mem_of_not_mem_cons hy) htail
          exact ⟨rfl, hst⟩

theorem line_append_inj {label : String} {x y s t : Text} (hx : newline ∉ x) (hy : newline ∉ y)
    (h : line label x ++ s = line label y ++ t) : x = y ∧ s = t := by
  simp only [line, List.append_assoc] at h
  exact cut_inj hx hy (List.append_cancel_left h)

theorem count_line (label : String) (value : Text) :
    (line label value).count newline = (ascii label).count newline + value.count newline + 1 := by
  rw [line, List.count_append, List.count_append]
  rfl

theorem count_lines {labels : List String} :
    ∀ {values : List Text}, labels.length = values.length →
      (lines labels values).count newline =
        (labels.map ascii).flatten.count newline + labels.length
          + values.flatten.count newline := by
  induction labels with
  | nil =>
      intro values h
      obtain rfl : values = [] := List.length_eq_zero_iff.1 h.symm
      rfl
  | cons label labels ih =>
      intro values h
      cases values with
      | nil => cases h
      | cons value values =>
          have hrest := ih (Nat.succ.inj h)
          rw [lines] at hrest
          simp only [lines, List.zipWith_cons_cons, List.flatten_cons, List.count_append,
            count_line, hrest, List.map_cons, List.length_cons]
          omega

theorem count_flatten_eq_zero_iff {values : List Text} :
    values.flatten.count newline = 0 ↔ ∀ x ∈ values, newline ∉ x := by
  rw [List.count_eq_zero, List.mem_flatten]
  exact ⟨fun h x hx hmem => h ⟨x, hx, hmem⟩, fun h ⟨x, hx, hmem⟩ => h x hx hmem⟩

theorem lines_inj_of_free {labels : List String} :
    ∀ {xs ys : List Text}, labels.length = xs.length → labels.length = ys.length →
      (∀ x ∈ xs, newline ∉ x) → (∀ y ∈ ys, newline ∉ y) → lines labels xs = lines labels ys →
        xs = ys := by
  induction labels with
  | nil =>
      intro xs ys hxs hys _ _ _
      rw [List.length_eq_zero_iff.1 hxs.symm, List.length_eq_zero_iff.1 hys.symm]
  | cons label labels ih =>
      intro xs ys hxs hys hx hy h
      cases xs with
      | nil => cases hxs
      | cons x xs =>
          cases ys with
          | nil => cases hys
          | cons y ys =>
              rw [List.forall_mem_cons] at hx hy
              obtain ⟨rfl, hrest⟩ := line_append_inj hx.1 hy.1 h
              rw [ih (Nat.succ.inj hxs) (Nat.succ.inj hys) hx.2 hy.2 hrest]

/-- **Values without line feeds can be told from their lines, whatever else they might be.** -/
theorem lines_inj {labels : List String} {xs ys : List Text} (hxs : labels.length = xs.length)
    (hys : labels.length = ys.length) (hx : ∀ x ∈ xs, newline ∉ x)
    (h : lines labels xs = lines labels ys) : xs = ys := by
  have hcount := congrArg (List.count newline) h
  rw [count_lines hxs, count_lines hys, count_flatten_eq_zero_iff.2 hx] at hcount
  have hy : ∀ y ∈ ys, newline ∉ y := count_flatten_eq_zero_iff.1 (by omega)
  exact lines_inj_of_free hxs hys hx hy h

/-! ### The two layouts -/

/-- The dump of an init frame, whose byte is shown behind the name of the command. -/
def initLines (cid name byte size payload : Text) : Text :=
  lines ["Kind:    ", "CID:     ", "Command: ", "BCNT:    ", "Payload: "]
    [ascii "INIT", cid, name ++ ascii " (0x" ++ byte ++ ascii ")", size, payload]

/-- The dump of a continuation. -/
def contLines (cid sequence payload : Text) : Text :=
  lines ["Kind:    ", "CID:     ", "SEQ:     ", "Payload: "] [ascii "CONT", cid, sequence, payload]

theorem initLines_ne_contLines {cid name byte size payload cid' sequence payload' : Text} :
    initLines cid name byte size payload ≠ contLines cid' sequence payload' := by
  intro h
  have hkind := (line_append_inj (by decide) (by decide) h).1
  exact absurd hkind (by decide)

theorem contLines_inj {cid sequence payload cid' sequence' payload' : Text}
    (hcid : newline ∉ cid) (hsequence : newline ∉ sequence) (hpayload : newline ∉ payload)
    (h : contLines cid sequence payload = contLines cid' sequence' payload') :
    cid = cid' ∧ sequence = sequence' ∧ payload = payload' := by
  have hfree : ∀ x ∈ [ascii "CONT", cid, sequence, payload], newline ∉ x := by
    simp only [List.forall_mem_cons]
    exact ⟨by decide, hcid, hsequence, hpayload, by simp⟩
  simpa using lines_inj rfl rfl hfree h

/-- The letter that stands in front of a command's byte. -/
abbrev hexMark : UInt8 := 120

theorem command_inj {name byte name' byte' : Text} (hname : hexMark ∉ name)
    (hbyte : hexMark ∉ byte)
    (h : name ++ ascii " (0x" ++ byte ++ ascii ")"
      = name' ++ ascii " (0x" ++ byte' ++ ascii ")") : name = name' ∧ byte = byte' := by
  have hmark : ∀ a b : Text, a ++ ascii " (0x" ++ b ++ ascii ")"
      = (a ++ ascii " (0") ++ hexMark :: (b ++ ascii ")") := by
    intro a b
    have hsplit : ascii " (0x" = ascii " (0" ++ [hexMark] := by decide
    rw [hsplit]
    simp only [List.append_assoc, List.cons_append, List.nil_append]
  rw [hmark, hmark] at h
  have hfront : hexMark ∉ name ++ ascii " (0" :=
    fun hmem => (List.mem_append.1 hmem).elim hname (by decide)
  have hback : hexMark ∉ byte ++ ascii ")" :=
    fun hmem => (List.mem_append.1 hmem).elim hbyte (by decide)
  obtain ⟨hleft, -, hright⟩ := (List.append_cons_inj_of_notMem hfront hback).1 h
  exact ⟨List.append_cancel_right hleft, List.append_cancel_right hright⟩

/-- A text that can stand on a line by itself, and as a name or a byte beside the other. -/
structure Plain (t : Text) : Prop where
  newline_notMem : newline ∉ t
  hexMark_notMem : hexMark ∉ t

theorem initLines_inj {cid name byte size payload cid' name' byte' size' payload' : Text}
    (hcid : newline ∉ cid) (hname : Plain name) (hbyte : Plain byte) (hsize : newline ∉ size)
    (hpayload : newline ∉ payload)
    (h : initLines cid name byte size payload = initLines cid' name' byte' size' payload') :
    cid = cid' ∧ name = name' ∧ byte = byte' ∧ size = size' ∧ payload = payload' := by
  have hcommand : newline ∉ name ++ ascii " (0x" ++ byte ++ ascii ")" := by
    simp only [List.mem_append, not_or]
    exact ⟨⟨⟨hname.newline_notMem, by decide⟩, hbyte.newline_notMem⟩, by decide⟩
  have hfree : ∀ x ∈ [ascii "INIT", cid, name ++ ascii " (0x" ++ byte ++ ascii ")", size, payload],
      newline ∉ x := by
    simp only [List.forall_mem_cons]
    exact ⟨by decide, hcid, hcommand, hsize, hpayload, by simp⟩
  have hvalues := lines_inj rfl rfl hfree h
  simp only [List.cons.injEq, and_true, true_and] at hvalues
  obtain ⟨hcid, hline, hsize, hpayload⟩ := hvalues
  obtain ⟨hname, hbyte⟩ := command_inj hname.hexMark_notMem hbyte.hexMark_notMem hline
  exact ⟨hcid, hname, hbyte, hsize, hpayload⟩

/-! ### What stands on the lines -/

theorem plain_numeral (radix : Radix) (n : Nat) : Plain (numeral radix false n) := by
  have hdigits : ∀ c ∈ numeral radix false n, c ≠ newline ∧ c ≠ hexMark :=
    forall_mem_numeral (by cases radix <;> decide) n
  exact ⟨fun h => (hdigits _ h).1 rfl, fun h => (hdigits _ h).2 rfl⟩

theorem plain_name (command : Command) : Plain command.name := by
  cases command <;> exact ⟨by decide, by decide⟩

theorem newline_notMem_render (bytes : List UInt8) : newline ∉ Hex.render bytes := by
  intro h
  exact absurd (Hex.isCapital_of_mem_render _ h) (by decide)

end HidLink.Dump
