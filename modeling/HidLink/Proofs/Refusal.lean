/-
What is written about a refusal.

Every refusal is reported with one sentence on a line of its own.  The sentence shows the
value that gave offence, and it is the same whatever was written to the stream before,
since the messages that set a base or a field for this value leave nothing of it behind
that a later number would show.

A fault of the library, in contrast to a refusal, is not reported at all.
-/
import HidLink.Proofs.Lines
import HidLink.Proofs.Stream
import HidLink.Refusal

namespace HidLink

namespace Refusal

/-- What is said about a refusal.  A byte that is no error code's is shown with two digits. -/
def sentence : Refusal → Text
  | unknownCommand code =>
      ascii "Refusing init frame with unknown command 0x" ++ numeral .hexadecimal false code.toNat
  | sequenceOutOfRange sequence =>
      ascii "Continuation sequence " ++ numeral .decimal false sequence.toNat
        ++ ascii " out of range 0-127"
  | missingPayload kind length =>
      kind.title ++ ascii " payload of " ++ numeral .decimal false length
        ++ ascii " bytes has no data"
  | payloadTooLong kind length capacity =>
      kind.title ++ ascii " payload of " ++ numeral .decimal false length
        ++ ascii " bytes exceeds " ++ numeral .decimal false capacity
  | malformedFrame length =>
      ascii "Malformed CTAPHID frame: expected 64 bytes, got " ++ numeral .decimal false length
  | unknownErrorCode code =>
      ascii "Unknown CTAPHID error code 0x"
        ++ (List.replicate (2 - (numeral .hexadecimal false code.toNat).length) 48
          ++ numeral .hexadecimal false code.toNat)

/-- **A refusal is reported with its sentence on a line of its own.** -/
theorem writes_diagnostic (refusal : Refusal) :
    Writes refusal.diagnostic (refusal.sentence ++ ascii "\n") := by
  cases refusal with
  | unknownCommand code =>
      have h := ((Writes.nil.ascii "\n").hexadecimal code.toNat).ascii
        "Refusing init frame with unknown command 0x"
      simpa only [diagnostic, sentence, List.append_assoc, List.append_nil] using h
  | sequenceOutOfRange sequence =>
      have h := ((((Writes.nil.ascii "\n").number Layout.maxSequence.toNat).ascii
        " out of range 0-").number sequence.toNat).ascii "Continuation sequence "
      have hbound : ascii " out of range 0-127"
          = ascii " out of range 0-" ++ numeral .decimal false Layout.maxSequence.toNat := by decide
      simpa only [diagnostic, sentence, hbound, List.append_assoc, List.append_nil] using h
  | missingPayload kind length =>
      have h := ((Writes.nil.ascii " bytes has no data\n").number length).text
        (kind.title ++ ascii " payload of ")
      have hend : ascii " bytes has no data\n" = ascii " bytes has no data" ++ ascii "\n" := rfl
      simpa only [diagnostic, sentence, hend, List.append_assoc, List.append_nil] using h
  | payloadTooLong kind length capacity =>
      have h := ((((Writes.nil.ascii "\n").number capacity).ascii " bytes exceeds ").number
        length).text (kind.title ++ ascii " payload of ")
      simpa only [diagnostic, sentence, List.append_assoc, List.append_nil] using h
  | malformedFrame length =>
      have h := ((((Writes.nil.ascii "\n").number length).ascii " bytes, got ").number
        Layout.frameSize).ascii "Malformed CTAPHID frame: expected "
      have hstart : ascii "Malformed CTAPHID frame: expected 64 bytes, got "
          = ascii "Malformed CTAPHID frame: expected " ++ numeral .decimal false Layout.frameSize
            ++ ascii " bytes, got " := by decide
      simpa only [diagnostic, sentence, hstart, List.append_assoc, List.append_nil] using h
  | unknownErrorCode code =>
      have h := ((Writes.nil.ascii "\n").hexadecimalField code.toNat 2 48).ascii
        "Unknown CTAPHID error code 0x"
      simpa only [diagnostic, sentence, List.append_assoc, List.append_nil] using h

theorem newline_notMem_title (kind : FrameKind) : Dump.newline ∉ kind.title := by
  cases kind <;> decide

/-- The line is one line: no line feed stands in the sentence. -/
theorem newline_notMem_sentence (refusal : Refusal) : Dump.newline ∉ refusal.sentence := by
  have hnumeral : ∀ (radix : Radix) (n : Nat), Dump.newline ∉ numeral radix false n :=
    fun radix n => (Dump.plain_numeral radix n).newline_notMem
  cases refusal with
  | unknownCommand code =>
      simp only [sentence, List.mem_append, not_or]
      exact ⟨by decide, hnumeral _ _⟩
  | sequenceOutOfRange sequence =>
      simp only [sentence, List.mem_append, not_or]
      exact ⟨⟨by decide, hnumeral _ _⟩, by decide⟩
  | missingPayload kind length =>
      simp only [sentence, List.mem_append, not_or]
      exact ⟨⟨⟨newline_notMem_title kind, by decide⟩, hnumeral _ _⟩, by decide⟩
  | payloadTooLong kind length capacity =>
      simp only [sentence, List.mem_append, not_or]
      exact ⟨⟨⟨⟨newline_notMem_title kind, by decide⟩, hnumeral _ _⟩, by decide⟩, hnumeral _ _⟩
  | malformedFrame length =>
      simp only [sentence, List.mem_append, not_or]
      exact ⟨by decide, hnumeral _ _⟩
  | unknownErrorCode code =>
      simp only [sentence, List.mem_append, not_or]
      refine ⟨by decide, fun hfill => ?_, hnumeral _ _⟩
      exact absurd (List.eq_of_mem_replicate hfill) (by decide)

end Refusal

/-- What is written about a failure. -/
def Failure.report : Failure → Text
  | refused refusal => refusal.sentence ++ ascii "\n"
  | unreadable _ => []

theorem Failure.writes_diagnostic (failure : Failure) :
    Writes failure.diagnostic failure.report := by
  cases failure with
  | refused refusal => exact refusal.writes_diagnostic
  | unreadable index => exact Writes.nil

namespace Outcome

variable {α : Type}

/-- What is written about an outcome. -/
def report : Outcome α → Text
  | .ok _ => []
  | .error failure => failure.report

theorem writes_diagnostic (outcome : Outcome α) : Writes outcome.diagnostic outcome.report := by
  cases outcome with
  | ok x => exact Writes.nil
  | error failure => exact failure.writes_diagnostic

end Outcome

end HidLink
