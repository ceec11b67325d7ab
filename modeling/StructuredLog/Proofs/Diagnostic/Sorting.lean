import StructuredLog.Diagnostic.Queue

/-! # Sorting — diagnostics in the order of the source

    A diagnostic without a place of its own comes before all others; places are
    ordered by their start, then by their end.  This order is total
    (`Diagnostic.notAfter_total`), so the queued diagnostics can be sorted by it;
    that the sort is stable is said place by place: those of one place keep the
    order in which they arrived (`StablySorted`).

    The summary stands at the last place of all, and so after everything else
    (`Diagnostic.notAfter_errorLimitSummary`). -/

namespace StructuredLog

/-! ## Places -/

namespace Span

variable {a b c : Span}

/-- The one span starts earlier, or they start together and it does not end later. -/
def NotAfter (a b : Span) : Prop :=
  a.start < b.start ∨ a.start = b.start ∧ a.stop ≤ b.stop

theorem atMost_iff : a.atMost b = true ↔ a.NotAfter b := by
  rw [atMost, compare, Ordering.isLE_then_iff_or, Std.compare_eq_lt, Std.compare_eq_iff_eq,
    Std.isLE_compare]
  rfl

/-- The order of spans in numbers. -/
theorem notAfter_iff : a.NotAfter b ↔ a.start.toNat < b.start.toNat ∨
    a.start.toNat = b.start.toNat ∧ a.stop.toNat ≤ b.stop.toNat := by
  rw [NotAfter, UInt32.lt_iff_toNat_lt, UInt32.le_iff_toNat_le, UInt32.toNat_inj]

theorem NotAfter.refl (a : Span) : a.NotAfter a :=
  .inr ⟨rfl, UInt32.le_refl _⟩

theorem NotAfter.trans (h : a.NotAfter b) (h' : b.NotAfter c) : a.NotAfter c := by
  rw [notAfter_iff] at *
  omega

theorem notAfter_total (a b : Span) : a.NotAfter b ∨ b.NotAfter a := by
  rw [notAfter_iff, notAfter_iff]
  omega

theorem later_eq_or (a b : Span) : a.later b = a ∨ a.later b = b := by
  rw [later]
  split
  · exact .inr rfl
  · exact .inl rfl

theorem notAfter_later (a b : Span) : a.NotAfter (a.later b) ∧ b.NotAfter (a.later b) := by
  rw [later]
  by_cases h : a.atMost b = true
  · rw [if_pos h]
    exact ⟨atMost_iff.mp h, .refl b⟩
  · rw [if_neg h]
    exact ⟨.refl a, (notAfter_total a b).resolve_left (mt atMost_iff.mpr h)⟩

/-- The latest of some spans is one of them, and none comes after it. -/
theorem foldl_later (s : Span) (spans : List Span) :
    spans.foldl later s ∈ s :: spans ∧
      ∀ t ∈ s :: spans, t.NotAfter (spans.foldl later s) := by
  induction spans generalizing s with
  | nil =>
      refine ⟨List.mem_singleton.mpr rfl, ?_⟩
      intro t ht
      rw [List.mem_singleton.mp ht]
      exact .refl s
  | cons u spans ih =>
      obtain ⟨hmem, hlast⟩ := ih (s.later u)
      have hlater := hlast _ List.mem_cons_self
      constructor
      · rw [List.foldl_cons]
        rcases List.mem_cons.mp hmem with heq | hmem
        · rw [heq]
          rcases s.later_eq_or u with hs | hu
          · exact List.mem_cons.mpr (.inl hs)
          · exact List.mem_cons_of_mem s (List.mem_cons.mpr (.inl hu))
        · exact List.mem_cons_of_mem s (List.mem_cons_of_mem u hmem)
      · intro t ht
        rw [List.foldl_cons]
        rcases List.mem_cons.mp ht with rfl | ht
        · exact (notAfter_later t u).1.trans hlater
        · rcases List.mem_cons.mp ht with rfl | ht
          · exact (notAfter_later s t).2.trans hlater
          · exact hlast t (List.mem_cons_of_mem _ ht)

end Span

namespace Diagnostic

variable {d e f : Diagnostic}

/-- The one diagnostic has no place, or its place is not after that of the other. -/
def NotAfter (d e : Diagnostic) : Prop :=
  ∀ s, d.primarySpan? = some s → ∃ t, e.primarySpan? = some t ∧ s.NotAfter t

theorem NotAfter.trans (h : d.NotAfter e) (h' : e.NotAfter f) : d.NotAfter f := by
  intro s hs
  obtain ⟨t, ht, hst⟩ := h s hs
  obtain ⟨u, hu, htu⟩ := h' t ht
  exact ⟨u, hu, hst.trans htu⟩

theorem notAfter_of_unplaced (h : d.primarySpan? = none) (e : Diagnostic) : d.NotAfter e := by
  intro s hs
  exact nomatch h.symm.trans hs

/-- Diagnostics of one place may stand in either order. -/
theorem notAfter_of_eq (h : d.primarySpan? = e.primarySpan?) : d.NotAfter e := by
  intro s hs
  exact ⟨s, h ▸ hs, .refl s⟩

theorem notAfter_total (d e : Diagnostic) : d.NotAfter e ∨ e.NotAfter d := by
  cases hd : d.primarySpan? with
  | none => exact .inl (notAfter_of_unplaced hd e)
  | some s =>
      cases he : e.primarySpan? with
      | none => exact .inr (notAfter_of_unplaced he d)
      | some t =>
          refine (s.notAfter_total t).imp ?_ ?_
          · intro hst s' hs'
            exact ⟨t, he, Option.some.inj (hd.symm.trans hs') ▸ hst⟩
          · intro hts t' ht'
            exact ⟨s, hd, Option.some.inj (he.symm.trans ht') ▸ hts⟩

end Diagnostic

namespace ReportQueue

variable {d e : Diagnostic} {ds : List Diagnostic}

/-- The sort compares by the places that diagnostics point to. -/
theorem inOrder_iff : inOrder d e = true ↔ d.NotAfter e := by
  rw [inOrder, Diagnostic.NotAfter]
  cases d.primarySpan? with
  | none => exact iff_of_true rfl fun s hs => nomatch hs
  | some s =>
      cases e.primarySpan? with
      | none => exact iff_of_false Bool.false_ne_true fun h => nomatch (h s rfl).choose_spec.1
      | some t =>
          constructor
          · intro h s' hs'
            exact ⟨t, rfl, Option.some.inj hs' ▸ Span.atMost_iff.mp h⟩
          · intro h
            obtain ⟨t', ht', hst⟩ := h s rfl
            exact Span.atMost_iff.mpr (Option.some.inj ht' ▸ hst)

/-! ## Sorting -/

/-- The one list is the other in the order of the source, and diagnostics of one place
    keep their order. -/
structure StablySorted (sorted ds : List Diagnostic) : Prop where
  perm : sorted.Perm ds
  pairwise : sorted.Pairwise Diagnostic.NotAfter
  filter_eq : ∀ place : Option Span,
    sorted.filter (·.primarySpan? = place) = ds.filter (·.primarySpan? = place)

theorem inOrder_trans (d e f : Diagnostic) (h : inOrder d e = true) (h' : inOrder e f = true) :
    inOrder d f = true :=
  inOrder_iff.mpr ((inOrder_iff.mp h).trans (inOrder_iff.mp h'))

theorem inOrder_total (d e : Diagnostic) : (inOrder d e || inOrder e d) = true := by
  rw [Bool.or_eq_true, inOrder_iff, inOrder_iff]
  exact d.notAfter_total e

/-- **The queue sorts stably.** -/
theorem stablySorted_mergeSort (ds : List Diagnostic) :
    StablySorted (ds.mergeSort inOrder) ds where
  perm := List.mergeSort_perm ds inOrder
  pairwise := (List.pairwise_mergeSort inOrder_trans inOrder_total ds).imp inOrder_iff.mp
  filter_eq place := by
    -- those of one place are in order already, so they are still there as they were
    have hinOrder : (ds.filter (·.primarySpan? = place)).Pairwise fun d e =>
        inOrder d e = true := by
      refine List.pairwise_of_forall_mem_list ?_
      intro d hd e he
      have hdplace : d.primarySpan? = place := of_decide_eq_true (List.mem_filter.mp hd).2
      have heplace : e.primarySpan? = place := of_decide_eq_true (List.mem_filter.mp he).2
      exact inOrder_iff.mpr (Diagnostic.notAfter_of_eq (hdplace.trans heplace.symm))
    have hsub : (ds.filter (·.primarySpan? = place)).Sublist
        ((ds.mergeSort inOrder).filter (·.primarySpan? = place)) := by
      have hsorted := (List.sublist_mergeSort inOrder_trans inOrder_total hinOrder
        List.filter_sublist).filter (·.primarySpan? = place)
      rwa [List.filter_filter, funext fun d => Bool.and_self _] at hsorted
    exact (hsub.eq_of_length ((List.mergeSort_perm ds inOrder).filter _).length_eq.symm).symm

/-! ## The summary -/

/-- There is no last place of diagnostics without any; otherwise one of them has it, and
    none stands after it. -/
theorem lastSpan?_cases (ds : List Diagnostic) :
    (lastSpan? ds = none ∧ ∀ d ∈ ds, d.primarySpan? = none) ∨
      ∃ last, lastSpan? ds = some last ∧ (∃ d ∈ ds, d.primarySpan? = some last) ∧
        ∀ d ∈ ds, ∀ s, d.primarySpan? = some s → s.NotAfter last := by
  rw [lastSpan?]
  cases hspans : ds.filterMap Diagnostic.primarySpan? with
  | nil => exact .inl ⟨rfl, fun d hd => List.filterMap_eq_nil_iff.mp hspans d hd⟩
  | cons s spans =>
      obtain ⟨hmem, hlast⟩ := s.foldl_later spans
      rw [← hspans] at hmem hlast
      refine .inr ⟨_, rfl, List.mem_filterMap.mp hmem, ?_⟩
      intro d hd t ht
      exact hlast t (List.mem_filterMap.mpr ⟨d, hd, ht⟩)

/-- The place of the summary: the last one of the diagnostics, if they have any. -/
def IsLastPlace (place : Span) (ds : List Diagnostic) : Prop :=
  (∃ d ∈ ds, d.primarySpan? = some place) ∨
    place = .nowhere ∧ ∀ d ∈ ds, d.primarySpan? = none

/-- **The summary stands after everything else**, also where nothing has a place. -/
theorem notAfter_errorLimitSummary (limit : Nat) (ds : List Diagnostic) :
    IsLastPlace ((lastSpan? ds).getD .nowhere) ds ∧
      ∀ d ∈ ds, d.NotAfter (.errorLimitSummary limit ((lastSpan? ds).getD .nowhere)) := by
  rcases lastSpan?_cases ds with ⟨hnone, hunplaced⟩ | ⟨last, hlast, hplaced, hle⟩
  · rw [hnone]
    exact ⟨.inr ⟨rfl, hunplaced⟩, fun d hd => Diagnostic.notAfter_of_unplaced (hunplaced d hd) _⟩
  · rw [hlast]
    exact ⟨.inl hplaced, fun d hd s hs => ⟨last, rfl, hle d hd s hs⟩⟩

end ReportQueue

end StructuredLog
