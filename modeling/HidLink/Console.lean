/-
The two streams a program writes to: results to one, diagnostics to the other.

Both outlive every single operation, so their formatting is what one operation leaves
to the next.  No operation looks at a stream, though: it hands over its messages along
with its result, and what they look like is settled only when the streams take them in.
-/
import HidLink.Stream

namespace HidLink

/-- A result, and the messages for either stream that come with it. -/
structure Spoken (α : Type) where
  result : α
  out : List Item := []
  err : List Item := []
  deriving DecidableEq, Repr

/-- The result stream and the diagnostic stream. -/
structure Console where
  out : Stream := {}
  err : Stream := {}
  deriving DecidableEq, Repr

namespace Console

/-- The streams after taking in the messages of one operation. -/
def hear {α : Type} (c : Console) (s : Spoken α) : Console where
  out := c.out.emit s.out
  err := c.err.emit s.err

/-- The console an operation starts from: nothing written yet, formats as they were left. -/
def rewound (c : Console) : Console where
  out := c.out.rewound
  err := c.err.rewound

end Console

end HidLink
