import StructuredLog.Source.Span

/-! # Offsets — parts of a span, and how words compute them

    A part of a span is given by two offsets, and each of them is kept within
    the span.  So parts lie in the span and come in the order of what they
    cover (`isWithin_sub`, `offset_mono`), and while a byte is one of the span
    its offset is exact (`toNat_offset_of_le_length`).

    Offsets are 32-bit words.  A machine computes them by an addition that
    saturates, and then takes the smaller of the sum and the end of the span;
    that is the offset, whatever the byte (`wordOffset_eq`).  Of a byte of the
    span the sum fits, and the plain addition does not wrap
    (`toNat_start_add`). -/

namespace StructuredLog.Span

variable {s : Span} {m n first last : Nat}

/-! ## Parts -/

/-- One span lies in another. -/
structure IsWithin (part whole : Span) : Prop where
  start_le_start : whole.start ≤ part.start
  start_le_stop : part.start ≤ part.stop
  stop_le_stop : part.stop ≤ whole.stop

/-- The number of bytes that a span covers. -/
def length (s : Span) : Nat :=
  s.stop.toNat - s.start.toNat

theorem offset_mono (s : Span) (h : m ≤ n) : s.offset m ≤ s.offset n := by
  rw [UInt32.le_iff_toNat_le, toNat_offset, toNat_offset]
  omega

theorem offset_le_stop (s : Span) (n : Nat) : s.offset n ≤ s.stop := by
  rw [UInt32.le_iff_toNat_le, toNat_offset]
  exact Nat.min_le_right _ _

theorem start_le_offset (hs : s.start ≤ s.stop) (n : Nat) : s.start ≤ s.offset n := by
  rw [UInt32.le_iff_toNat_le] at hs ⊢
  rw [toNat_offset]
  omega

/-- A part of a span lies in it. -/
theorem isWithin_sub (hs : s.start ≤ s.stop) (h : first ≤ last) :
    (s.sub first last).IsWithin s where
  start_le_start := start_le_offset hs first
  start_le_stop := s.offset_mono h
  stop_le_stop := s.offset_le_stop last

theorem toNat_offset_of_le_length (hs : s.start ≤ s.stop) (h : n ≤ s.length) :
    (s.offset n).toNat = s.start.toNat + n := by
  rw [UInt32.le_iff_toNat_le] at hs
  rw [length] at h
  rw [toNat_offset]
  omega

/-! ## Words -/

/-- The largest word. -/
def largestWord : UInt32 := 0xFFFFFFFF

theorem toNat_largestWord : largestWord.toNat = UInt32.size - 1 := rfl

/-- A number as a word; the largest word stands for all larger numbers. -/
def saturatedWord (n : Nat) : UInt32 :=
  if n < UInt32.size then UInt32.ofNat n else largestWord

/-- The sum of two words; the largest word stands for a sum that would wrap. -/
def saturatedSum (a b : UInt32) : UInt32 :=
  if a + b < a then largestWord else a + b

/-- The offset of a byte, computed in words. -/
def wordOffset (s : Span) (n : Nat) : UInt32 :=
  min (saturatedSum s.start (saturatedWord n)) s.stop

/-- An offset that does not fit in a word becomes the largest word. -/
theorem toNat_saturatedWord (n : Nat) :
    (saturatedWord n).toNat = min n (UInt32.size - 1) := by
  rw [saturatedWord]
  split
  · next h =>
      rw [UInt32.toNat_ofNat_of_lt' h]
      omega
  · next h =>
      rw [toNat_largestWord]
      omega

/-- Adding words is adding numbers up to the largest word. -/
theorem toNat_saturatedSum (a b : UInt32) :
    (saturatedSum a b).toNat = min (a.toNat + b.toNat) (UInt32.size - 1) := by
  have ha : a.toNat < 4294967296 := a.toNat_lt
  have hb : b.toNat < 4294967296 := b.toNat_lt
  have hsum : (a + b).toNat = (a.toNat + b.toNat) % 4294967296 := UInt32.toNat_add a b
  have hsize : UInt32.size = 4294967296 := rfl
  rw [saturatedSum, hsize]
  -- a sum wraps exactly if it is smaller than one of its summands
  split
  · next h =>
      rw [UInt32.lt_iff_toNat_lt, hsum] at h
      rw [toNat_largestWord, hsize]
      omega
  · next h =>
      rw [UInt32.lt_iff_toNat_lt, hsum] at h
      rw [hsum]
      omega

theorem toNat_min (a b : UInt32) : (min a b).toNat = min a.toNat b.toNat := by
  show (if a ≤ b then a else b).toNat = _
  split
  · next h =>
      rw [UInt32.le_iff_toNat_le] at h
      omega
  · next h =>
      rw [UInt32.le_iff_toNat_le] at h
      omega

/-- **The saturating addition computes the offset.**  Where it saturates, the end of the
    span is the smaller one. -/
theorem wordOffset_eq (s : Span) (n : Nat) : s.wordOffset n = s.offset n := by
  have hstop : s.stop.toNat < UInt32.size := s.stop.toNat_lt_size
  rw [← UInt32.toNat_inj, toNat_offset, wordOffset, toNat_min, toNat_saturatedSum,
    toNat_saturatedWord]
  omega

/-- The offset of a byte of the span needs no saturation. -/
theorem toNat_start_add (hs : s.start ≤ s.stop) (h : n ≤ s.length) :
    n < UInt32.size ∧ (s.start + UInt32.ofNat n).toNat = s.start.toNat + n := by
  have hstop : s.stop.toNat < UInt32.size := s.stop.toNat_lt_size
  rw [UInt32.le_iff_toNat_le] at hs
  rw [length] at h
  have hsum : s.start.toNat + n < UInt32.size := by omega
  have hfits : n < UInt32.size := Nat.lt_of_le_of_lt (Nat.le_add_left n _) hsum
  refine ⟨hfits, ?_⟩
  rw [UInt32.toNat_add, UInt32.toNat_ofNat_of_lt' hfits]
  exact Nat.mod_eq_of_lt hsum

end StructuredLog.Span
