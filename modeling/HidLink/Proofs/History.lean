/-
What an operation writes does not depend on what was done before it.

The two streams outlive the operations, and some of these set a base, a field width or a
fill.  A refused error code even leaves its fill behind for good.  What keeps later texts
as they should be is that no message relies on the format it finds beyond calm, and that
each leaves calm behind.  So calm is all the induction over a session carries, and a text
that a message writes on one calm stream it writes on every other one, a fresh one
included.

The store is not part of this.  An operation that is carried out alone is given the packets
that were stored until then, and only its streams are new.
-/
import HidLink.Proofs.Dump
import HidLink.Session

namespace HidLink

/-! ### Messages that write the same on all calm streams -/

/-- The messages write texts of their own on calm streams, and leave these calm. -/
structure Spoken.Settled {α : Type} (s : Spoken α) : Prop where
  out : ∃ t, Writes s.out t
  err : ∃ t, Writes s.err t

namespace Spoken

variable {α : Type}

theorem settled_of_silent (result : α) : Settled { result } :=
  ⟨⟨_, Writes.nil⟩, ⟨_, Writes.nil⟩⟩

theorem settled_of_err (result : α) {message : List Item} {t : Text} (h : Writes message t) :
    Settled { result, err := message } :=
  ⟨⟨_, Writes.nil⟩, ⟨_, h⟩⟩

theorem settled_of_out (result : α) {message : List Item} {t : Text} (h : Writes message t) :
    Settled { result, out := message } :=
  ⟨⟨_, h⟩, ⟨_, Writes.nil⟩⟩

end Spoken

namespace Dump

theorem settled_fail {message : List Item} {t : Text} (h : Writes message t) :
    (fail message).Settled :=
  Spoken.settled_of_err ExitStatus.failure h

theorem settled_present {α : Type} (outcome : Outcome α) {failed : Failure → List Item}
    {fields : α → List Item} (hfailed : ∀ failure, ∃ t, Writes (failed failure) t)
    (hfields : ∀ x, ∃ t, Writes (fields x) t) : (present outcome failed fields).Settled := by
  cases outcome with
  | error failure =>
      obtain ⟨t, ht⟩ := hfailed failure
      exact settled_fail (failure.writes_diagnostic.append ht)
  | ok x =>
      obtain ⟨t, ht⟩ := hfields x
      exact Spoken.settled_of_out ExitStatus.success ht

theorem exists_writes_decodeFailed (failure : Failure) :
    ∃ t, Writes (decodeFailed failure) t :=
  ⟨_, writes_field "Decode failed: " (writes_text failure.message)⟩

theorem exists_writes_encodeFailed (failure : Failure) :
    ∃ t, Writes (encodeFailed failure) t :=
  ⟨_, writes_field "Encode failed: " (writes_text failure.message)⟩

theorem settled_decode (data : Buffer) : (decode data).Settled := by
  rw [decode]
  cases data.frameKind with
  | error failure =>
      obtain ⟨t, ht⟩ := exists_writes_decodeFailed failure
      exact settled_fail ht
  | ok kind =>
      have hkind := writes_field "Kind:    " (writes_text kind.name)
      cases kind with
      | init =>
          obtain ⟨⟨out, hout⟩, herr⟩ := settled_present (InitPacket.decode data)
            exists_writes_decodeFailed fun p => ⟨_, writes_initFields p⟩
          exact ⟨⟨_, hkind.append hout⟩, herr⟩
      | continuation =>
          obtain ⟨⟨out, hout⟩, herr⟩ := settled_present (ContPacket.decode data)
            exists_writes_decodeFailed fun p => ⟨_, writes_contFields p⟩
          exact ⟨⟨_, hkind.append hout⟩, herr⟩

theorem settled_run (arguments : List Text) : (run arguments).Settled := by
  rw [run]
  cases readArguments arguments with
  | error complaint => exact settled_fail complaint.writes_diagnostic
  | ok job =>
      cases job with
      | decode bytes => exact settled_decode _
      | buildInit cid code size payload =>
          exact settled_present _ exists_writes_encodeFailed fun p => ⟨_, writes_reportField _⟩
      | buildCont cid sequence payload =>
          exact settled_present _ exists_writes_encodeFailed fun p => ⟨_, writes_reportField _⟩

end Dump

/-! ### One operation -/

/-- Both streams are calm. -/
structure Console.Calm (c : Console) : Prop where
  out : c.out.format.Calm
  err : c.err.format.Calm

theorem Console.calm_default : Console.Calm {} :=
  ⟨Format.calm_default, Format.calm_default⟩

namespace Session

theorem settled_perform (store : Store) (request : Request) :
    (perform store request).1.Settled := by
  cases request with
  | make attempt into =>
      cases hmade : attempt.outcome? store with
      | none =>
          simp only [perform, hmade]
          exact Spoken.settled_of_silent _
      | some outcome =>
          simp only [perform, hmade]
          exact Spoken.settled_of_err _ outcome.writes_diagnostic
  | copy slot into =>
      cases hheld : store.get? slot with
      | none =>
          simp only [perform, hheld]
          exact Spoken.settled_of_silent _
      | some outcome =>
          simp only [perform, hheld]
          exact Spoken.settled_of_silent _
  | decodeErrorCode b => exact Spoken.settled_of_err _ (ErrorCode.decode b).writes_diagnostic
  | dump arguments => exact ⟨(Dump.settled_run arguments).out, (Dump.settled_run arguments).err⟩
  | look slot => exact Spoken.settled_of_silent _
  | frameKind data => exact Spoken.settled_of_silent _
  | renderHex data => exact Spoken.settled_of_silent _
  | parseHex text => exact Spoken.settled_of_silent _
  | parseDecimal text max => exact Spoken.settled_of_silent _

/-- On calm streams an operation adds to its reply what its messages write there. -/
theorem answer_eq_of_writes {s : Session} (h : s.console.Calm) {request : Request} {out err : Text}
    (hout : Writes (perform s.store request).1.out out)
    (herr : Writes (perform s.store request).1.err err) :
    (s.answer request).1 = { reply := (perform s.store request).1.result, out, err } :=
  congrArg₂ (Answer.mk (perform s.store request).1.result)
    (hout s.console.rewound.out h.out).1 (herr s.console.rewound.err h.err).1

/-- On calm streams an operation answers as on fresh ones, and it leaves them calm. -/
theorem answer_of_calm {s : Session} (h : s.console.Calm) (request : Request) :
    (s.answer request).1 = (answer { store := s.store } request).1 ∧
      (s.answer request).2.console.Calm := by
  obtain ⟨⟨out, hout⟩, ⟨err, herr⟩⟩ := settled_perform s.store request
  refine ⟨?_, (hout s.console.rewound.out h.out).2, (herr s.console.rewound.err h.err).2⟩
  -- The reply comes from the store alone; the texts meet in the one that is written when calm.
  have hfresh : (answer { store := s.store } request).1
      = { reply := (perform s.store request).1.result, out, err } :=
    answer_eq_of_writes Console.calm_default hout herr
  rw [answer_eq_of_writes h hout herr, hfresh]

/-- A run of the frame dump in a session writes what it writes as a program of its own. -/
theorem answer_dump_of_calm {s : Session} (h : s.console.Calm) (arguments : List Text) :
    (s.answer (.dump arguments)).1.out = (Dump.transcript arguments).out ∧
      (s.answer (.dump arguments)).1.err = (Dump.transcript arguments).err := by
  rw [(answer_of_calm h (.dump arguments)).1]
  exact ⟨rfl, rfl⟩

/-- A refused error code leaves its fill on the stream, whatever the stream was like. -/
theorem fill_answer_unknownErrorCode {b : UInt8} (h : ¬∃ code : ErrorCode, code.byte = b)
    (s : Session) : (s.answer (.decodeErrorCode b)).2.console.err.format.fill = 48 := by
  have hrefused : ErrorCode.decode b = .refuse (.unknownErrorCode b) := by
    rw [ErrorCode.decode, ErrorCode.ofByte?_eq_none_iff.2 h]
  simp only [answer, perform, hrefused]
  rfl

/-! ### A whole session -/

/-- The answers to operations of which each is carried out on fresh streams. -/
def answersAlone (store : Store) : List Request → List Answer
  | [] => []
  | request :: rest =>
      (answer { store } request).1 :: answersAlone (perform store request).2 rest

theorem answers_of_calm (requests : List Request) :
    ∀ s : Session, s.console.Calm →
      (s.answers requests).1 = answersAlone s.store requests ∧
        (s.answers requests).2.console.Calm := by
  induction requests with
  | nil => intro s h; exact ⟨rfl, h⟩
  | cons request rest ih =>
      intro s h
      obtain ⟨hanswer, hcalm⟩ := answer_of_calm h request
      obtain ⟨hrest, hend⟩ := ih (s.answer request).2 hcalm
      exact ⟨congrArg₂ List.cons hanswer hrest, hend⟩

theorem answers_append (before after : List Request) :
    ∀ s : Session, (s.answers (before ++ after)).2 = ((s.answers before).2.answers after).2 := by
  induction before with
  | nil => intro s; rfl
  | cons request rest ih => intro s; exact ih (s.answer request).2

/--
**Every operation of a session answers as if nothing had been done before it but to fill
the store.**

The streams are calm behind each operation.  They need not be as they were at first, for
an unknown error code changes the fill, but then there is no field that would show it.
-/
theorem answers_independent_of_history (requests : List Request) :
    (answers {} requests).1 = answersAlone .empty requests ∧
    (∀ n, (answers {} (requests.take n)).2.console.Calm) ∧
    ∀ b, (¬∃ code : ErrorCode, code.byte = b) →
      (answers {} (requests ++ [.decodeErrorCode b])).2.console.err.format.fill = 48 := by
  refine ⟨(answers_of_calm requests {} Console.calm_default).1, ?_, ?_⟩
  · intro n
    exact (answers_of_calm (requests.take n) {} Console.calm_default).2
  · intro b hb
    rw [answers_append]
    exact fill_answer_unknownErrorCode hb (answers {} requests).2

/--
Refusals of every number that is shown, in base sixteen and in base ten, on a stream whose
fill the first of them has changed.
-/
theorem answers_independent_of_history_refusals :
    let refusals : List Request :=
      [.decodeErrorCode 0xC0, .make (.buildCont Layout.broadcastChannel 200 (.absent 3)) none,
        .dump [ascii "init", ascii "ffffffff", ascii "02", ascii "0"],
        .make (.decodeInit (.absent 3)) none]
    let requests := refusals ++ [.decodeErrorCode 0x0C]
    (answers {} requests).1 = answersAlone .empty requests ∧
      (answers {} requests).1.map (·.err) =
        [ascii "Unknown CTAPHID error code 0xc0\n",
          ascii "Continuation sequence 200 out of range 0-127\n",
          ascii "Refusing init frame with unknown command 0x2\nEncode failed: invalid command\n",
          ascii "Malformed CTAPHID frame: expected 64 bytes, got 0\n",
          ascii "Unknown CTAPHID error code 0x0c\n"] ∧
      (answers {} requests).2.console.Calm ∧
      (answers {} requests).2.console.err.format.fill = 48 := by
  intro refusals requests
  obtain ⟨hanswers, hcalm, -⟩ := answers_independent_of_history requests
  have hundeclared : ¬∃ code : ErrorCode, code.byte = 0x0C := by
    rintro ⟨code, hbyte⟩
    cases code <;> cases hbyte
  refine ⟨hanswers, by decide +kernel, hcalm 5, ?_⟩
  exact (answers_independent_of_history refusals).2.2 0x0C hundeclared

end Session

end HidLink
