import StructuredLog.Diagnostic.Basic

/-! # The diagnostic queue — collecting the problems of a batch

    The queue drops exact repeats, stops taking errors at a limit, and hands
    everything back in the order of the source.  Warnings are never limited.
    An error that arrives at the limit is dropped, and one summary reports
    that this happened. -/

namespace StructuredLog

/-- What a queue keeps. -/
structure QueueConfig where
  /-- The number of errors after which further errors are dropped; 0 for no
      limit. -/
  errorLimit : Nat := 50
  /-- Whether a diagnostic equal to a queued one is dropped. -/
  deduplicate : Bool := true
  deriving DecidableEq, Repr

/-- Keep everything. -/
def QueueConfig.unlimited : QueueConfig := ⟨0, false⟩

/-- The diagnostics collected since the last flush. -/
structure ReportQueue where
  config : QueueConfig
  /-- In order of arrival. -/
  queued : List Diagnostic := []
  /-- What counts as a repeat; kept only when repeats are dropped. -/
  seen : List Diagnostic := []
  /-- The number of queued errors. -/
  errors : Nat := 0
  /-- Whether an error was dropped at the limit. -/
  overflowed : Bool := false
  deriving Repr

/-- The text of the proof that an error was reported. -/
def errorsReportedText : String := "error(s) emitted"

/-- The summary that stands for the errors dropped at the limit. -/
def Diagnostic.errorLimitSummary (limit : Nat) (span : Span) : Diagnostic where
  code := .errorLimit
  message := "stopped reporting errors after " ++ toString limit
  labels := [⟨span, "limit reached here", true⟩]
  notes := ["raise `error_limit` in `DiagnosticConfig` to see the rest"]

namespace ReportQueue

/-- The queue that nothing has been pushed to. -/
def empty (config : QueueConfig) : ReportQueue := { config }

/-- Whether no further error is taken. -/
def limitReached (q : ReportQueue) : Bool :=
  q.config.errorLimit != 0 && q.config.errorLimit ≤ q.errors

/-- Whether an error is queued. -/
def hasErrors (q : ReportQueue) : Bool :=
  0 < q.errors

/-- Queue a diagnostic, or drop it; the answer is whether it was queued. -/
def push (q : ReportQueue) (d : Diagnostic) : Bool × ReportQueue :=
  if d.isError && q.limitReached then (false, { q with overflowed := true })
  else if q.config.deduplicate && q.seen.contains d then (false, q)
  else
    (true, { q with
      queued := q.queued ++ [d]
      seen := if q.config.deduplicate then d :: q.seen else q.seen
      errors := if d.isError then q.errors + 1 else q.errors })

/-- Queue diagnostics one after another. -/
def extend (q : ReportQueue) (ds : List Diagnostic) : ReportQueue :=
  ds.foldl (fun q d => (q.push d).2) q

/-- Whether a diagnostic may stand before another: no span before any span, and
    spans in their order. -/
def inOrder (a b : Diagnostic) : Bool :=
  match a.primarySpan?, b.primarySpan? with
  | none, _ => true
  | some _, none => false
  | some s, some t => s.atMost t

/-- The greatest primary span of the diagnostics. -/
def lastSpan? (ds : List Diagnostic) : Option Span :=
  match ds.filterMap Diagnostic.primarySpan? with
  | [] => none
  | s :: spans => some (spans.foldl Span.later s)

/-- What a flush hands back: the queued diagnostics in source order, equal
    places in order of arrival, and the summary if errors were dropped. -/
def flushed (q : ReportQueue) : List Diagnostic :=
  let sorted := q.queued.mergeSort inOrder
  if q.overflowed then
    sorted ++ [.errorLimitSummary q.config.errorLimit ((lastSpan? sorted).getD .nowhere)]
  else sorted

/-- Take everything out of the queue. -/
def flush (q : ReportQueue) : List Diagnostic × ReportQueue :=
  (q.flushed, empty q.config)

end ReportQueue

end StructuredLog
