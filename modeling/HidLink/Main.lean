/-
The frame dump as a program: arguments in, two streams and an exit code out.
-/
import HidLink.Dump

/-- Runs the frame dump and passes on what is left of the run. -/
def main (args : List String) : IO UInt32 := do
  let transcript := HidLink.Dump.transcript (args.map (·.toUTF8.data.toList))
  (← IO.getStdout).write ⟨transcript.out.toArray⟩
  (← IO.getStderr).write ⟨transcript.err.toArray⟩
  return transcript.code
