/-! # Cancellation — giving up a batch

    A batch can be cancelled between its items.  A cancelled batch has no
    result. -/

namespace StructuredLog

/-- The batch was cancelled; what it had produced is not handed out. -/
inductive Cancelled where
  | beforeEnd
  deriving DecidableEq, Repr

/-- The text of a cancellation. -/
def Cancelled.message : Cancelled → String
  | .beforeEnd => "batch cancelled before it finished"

end StructuredLog
