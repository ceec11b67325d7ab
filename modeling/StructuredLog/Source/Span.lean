/-! # Spans — places in a source file

    A span is a half-open range of byte offsets, each in 32 bits.  Spans come
    from the front end; they are carried along, narrowed to a part of a
    message literal, and compared. -/

namespace StructuredLog

/-- The bytes from `start` up to, not including, `stop`. -/
structure Span where
  start : UInt32
  stop : UInt32
  deriving DecidableEq, Repr, Inhabited

namespace Span

/-- The span of what has no place in a source file. -/
def nowhere : Span := ⟨0, 0⟩

/-- The offset of a byte of the spanned text, kept within the span. -/
def offset (s : Span) (n : Nat) : UInt32 :=
  UInt32.ofNat (min (s.start.toNat + n) s.stop.toNat)

/-- The part of the span that covers the bytes `first` up to `last` of its text. -/
def sub (s : Span) (first last : Nat) : Span :=
  ⟨s.offset first, s.offset last⟩

/-- The span as `start..stop`. -/
def text (s : Span) : String :=
  toString s.start.toNat ++ ".." ++ toString s.stop.toNat

/-- Spans are ordered by their start, then by their end. -/
def compare (a b : Span) : Ordering :=
  (Ord.compare a.start b.start).then (Ord.compare a.stop b.stop)

/-- Whether `a` comes before `b` or is equal to it. -/
def atMost (a b : Span) : Bool :=
  (compare a b).isLE

/-- The later of two spans. -/
def later (a b : Span) : Span :=
  if a.atMost b then b else a

/-- The addition never wraps: the offset is the sum, or the end of the span. -/
theorem toNat_offset (s : Span) (n : Nat) :
    (s.offset n).toNat = min (s.start.toNat + n) s.stop.toNat := by
  have h : s.stop.toNat < 2 ^ 32 := s.stop.toNat_lt
  have hle : min (s.start.toNat + n) s.stop.toNat ≤ s.stop.toNat := Nat.min_le_right _ _
  rw [offset, UInt32.toNat_ofNat_of_lt']
  exact Nat.lt_of_le_of_lt hle h

end Span

end StructuredLog
