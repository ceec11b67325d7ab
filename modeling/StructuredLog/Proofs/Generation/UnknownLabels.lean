import StructuredLog.Proofs.Generation.MentionWarnings
import StructuredLog.Proofs.Source.Offsets
import StructuredLog.Proofs.Template.Scanning

/-! # Unknown labels — where warnings about placeholders point

    A placeholder that names no argument is reported at its place in the message
    literal.  Its bytes are counted from the start of the template, and the label
    is the part of the literal's span that they make up.  A span need not be as
    long as the template, since a literal may be written in other bytes than it
    means; what is beyond its end is cut off.

    The reported placeholders are some of those of the template, in order, so
    their labels stand in the literal one after another.  Where the span is long
    enough no label is cut, and each covers its placeholder
    (`unknown_labels_point_into_message`). -/

namespace StructuredLog

open Template

variable {system : TypeSystem} {options : GeneratorOptions} {d : Declaration}
  {found : List Diagnostic} {known : List String}

/-! ## The warnings among all diagnostics -/

/-- The warnings about placeholders that name no argument. -/
def unknownWarnings (found : List Diagnostic) : List Diagnostic :=
  found.filter (·.code = .unknownPlaceholder)

theorem unknownWarnings_eq_nil (h : ∀ e ∈ found, e.code ≠ .unknownPlaceholder) :
    unknownWarnings found = [] := by
  refine List.filter_eq_nil_iff.mpr ?_
  intro e he hcode
  exact h e he (of_decide_eq_true hcode)

theorem unknownWarnings_append (found more : List Diagnostic) :
    unknownWarnings (found ++ more) = unknownWarnings found ++ unknownWarnings more :=
  List.filter_append ..

/-- They are among the warnings about mentions. -/
theorem unknownWarnings_filter_isMention (found : List Diagnostic) :
    unknownWarnings (found.filter Diagnostic.isMention) = unknownWarnings found := by
  rw [unknownWarnings, unknownWarnings, List.filter_filter]
  refine List.filter_congr ?_
  intro e _
  by_cases hcode : e.code = .unknownPlaceholder
  · rw [Diagnostic.isMention, hcode]
    rfl
  · rw [decide_eq_false hcode, Bool.false_and]

theorem unknownWarnings_map_strangerWarning (span : Span) (ps : List Placeholder) :
    unknownWarnings (ps.map (strangerWarning span)) = ps.map (strangerWarning span) := by
  refine List.filter_eq_self.mpr ?_
  intro e he
  obtain ⟨p, -, rfl⟩ := List.mem_map.mp he
  rfl

/-- The checks report the placeholders that name none of the given arguments. -/
theorem unknownWarnings_problems (system : TypeSystem) (options : GeneratorOptions)
    (d : Declaration) (as : List Argument) :
    unknownWarnings (problems system options d as)
      = (strangers (as.map Argument.name) (placeholders d.marking.message)).map
          (strangerWarning d.marking.messageSpan) := by
  have hodds : ∀ e ∈ (as.filter (IsAtOdds (names d.marking.message) ·)).map oddsWarning,
      e.code ≠ .unknownPlaceholder := by
    intro e he
    obtain ⟨a, -, rfl⟩ := List.mem_map.mp he
    rw [code_oddsWarning]
    exact a.role.mentionCode_ne_unknownPlaceholder
  rw [← unknownWarnings_filter_isMention, filter_isMention_problems, unknownWarnings_append,
    unknownWarnings_eq_nil hodds, unknownWarnings_map_strangerWarning, List.nil_append]

/-- Generation adds no warning about a stranger to those of the checks. -/
theorem unknownWarnings_generate (system : TypeSystem) (options : GeneratorOptions)
    (d : Declaration) :
    unknownWarnings (d.generate system options).diagnostics
      = unknownWarnings (problems system options d (d.arguments system)) := by
  have htimestamp : ∀ e ∈ timestampWarnings system (d.arguments system),
      e.code ≠ .unknownPlaceholder := by
    intro e he
    obtain ⟨a, -, rfl⟩ := List.mem_map.mp he
    exact Code.noConfusion
  rw [Declaration.diagnostics_generate, unknownWarnings_append, unknownWarnings_eq_nil htimestamp,
    List.nil_append]

/-! ## Their places -/

/-- The reported placeholders stand in the order of the template. -/
theorem strangers_sublist (known : List String) (ps : List Placeholder) :
    (strangers known ps).Sublist ps := by
  induction ps generalizing known with
  | nil => exact .slnil
  | cons p ps ih =>
      rw [strangers]
      split
      · exact (ih known).cons p
      · exact (ih _).cons_cons p

theorem pairwise_strangers (known : List String) (template : String) :
    (strangers known (placeholders template)).Pairwise (fun p q => p.stop ≤ q.first) :=
  (pairwise_placeholdersFrom _ _ _).sublist (strangers_sublist known _)

/-- A placeholder is a part of its template that is not empty. -/
theorem bounds_of_mem_placeholders {template : String} {p : Placeholder}
    (hp : p ∈ placeholders template) : p.first < p.stop ∧ p.stop ≤ template.utf8ByteSize := by
  obtain ⟨i, hi⟩ := List.mem_iff_getElem?.mp hp
  obtain ⟨h, -, rfl, -, htakes⟩ := exists_hole_of_getElem?_placeholders hi
  exact ⟨first_lt_stop_placeholder h _ _, htakes.stop_le_size⟩

/-! ## Labels -/

/-- The diagnostic reports the name of a placeholder, the first one of that name in the
    template, and its only label covers the given part of the source. -/
structure Diagnostic.Reports (e : Diagnostic) (template : String) (p : Placeholder) (part : Span) :
    Prop where
  first_of_name : (placeholders template).find? (·.name == p.name) = some p
  message_eq : e.message = "template references no such argument `" ++ p.name ++ "`"
  spans_eq : e.labels.map Label.span = [part]

/-- The warnings about unknown placeholders point into the message literal: at parts of
    it that come one after another, and at the very bytes of the placeholders if the
    literal has that many. -/
structure Declaration.PointsIntoMessage (d : Declaration) (found : List Diagnostic) : Prop where
  labeled : ∀ e ∈ unknownWarnings found, ∃ p part, e.Reports d.marking.message p part ∧
    part.IsWithin d.marking.messageSpan ∧
    part.start = d.marking.messageSpan.wordOffset p.first ∧
    part.stop = d.marking.messageSpan.wordOffset p.stop ∧
    (d.marking.message.utf8ByteSize ≤ d.marking.messageSpan.length →
      part.start < part.stop ∧
      part.start.toNat = d.marking.messageSpan.start.toNat + p.first ∧
      part.stop.toNat = d.marking.messageSpan.start.toNat + p.stop)
  apart : (unknownWarnings found).Pairwise fun e later =>
    ∀ l ∈ e.labels, ∀ l' ∈ later.labels, l.span.start ≤ l'.span.start ∧ l.span.stop ≤ l'.span.start
  unwrapped : d.marking.message.utf8ByteSize ≤ d.marking.messageSpan.length →
    ∀ n ≤ d.marking.message.utf8ByteSize, n < UInt32.size ∧
      (d.marking.messageSpan.start + UInt32.ofNat n).toNat = d.marking.messageSpan.start.toNat + n

/-- The label of a reported placeholder. -/
theorem reports_strangerWarning {template : String} {span : Span} {p : Placeholder}
    (hp : p ∈ strangers known (placeholders template)) :
    (strangerWarning span p).Reports template p (span.sub p.first p.stop) where
  first_of_name := (find?_of_mem_strangers hp).1
  message_eq := (tellsUnknown_strangerWarning span p).message
  spans_eq := rfl

/-- Warnings about the strangers of a template point into the message literal, in the order of
    the placeholders and without an overlap. -/
theorem pointsIntoMessage_of_strangers
    (hspan : d.marking.messageSpan.start ≤ d.marking.messageSpan.stop)
    (h : unknownWarnings found = (strangers known (placeholders d.marking.message)).map
      (strangerWarning d.marking.messageSpan)) : d.PointsIntoMessage found where
  labeled := by
    intro e he
    rw [h] at he
    obtain ⟨p, hp, rfl⟩ := List.mem_map.mp he
    obtain ⟨hfirst, hstop⟩ := bounds_of_mem_placeholders ((strangers_sublist _ _).subset hp)
    refine ⟨p, _, reports_strangerWarning hp, Span.isWithin_sub hspan (Nat.le_of_lt hfirst),
      (Span.wordOffset_eq _ _).symm, (Span.wordOffset_eq _ _).symm, ?_⟩
    intro hlength
    have hstart : (d.marking.messageSpan.offset p.first).toNat
        = d.marking.messageSpan.start.toNat + p.first :=
      Span.toNat_offset_of_le_length hspan (by omega)
    have hend : (d.marking.messageSpan.offset p.stop).toNat
        = d.marking.messageSpan.start.toNat + p.stop :=
      Span.toNat_offset_of_le_length hspan (by omega)
    refine ⟨?_, hstart, hend⟩
    rw [UInt32.lt_iff_toNat_lt]
    show (d.marking.messageSpan.offset p.first).toNat
      < (d.marking.messageSpan.offset p.stop).toNat
    omega
  apart := by
    rw [h, List.pairwise_map]
    have hpairwise := pairwise_strangers known d.marking.message
    refine hpairwise.imp_of_mem ?_
    intro p q hp hq hpq l hl l' hl'
    obtain rfl := List.mem_singleton.mp hl
    obtain rfl := List.mem_singleton.mp hl'
    obtain ⟨hfirst, -⟩ := bounds_of_mem_placeholders ((strangers_sublist _ _).subset hp)
    exact ⟨Span.offset_mono _ (by omega), Span.offset_mono _ hpq⟩
  unwrapped := by
    intro hlength n hn
    exact Span.toNat_start_add hspan (hn.trans hlength)

/-- **Warnings about unknown placeholders point into the message literal**, whatever its
    span and its template are.  Their labels come one after another, and none overlaps
    another; and if the span has at least the bytes of the template, each label covers
    exactly those of the first placeholder of the reported name. -/
theorem unknown_labels_point_into_message (system : TypeSystem) (options : GeneratorOptions)
    (d : Declaration) (hspan : d.marking.messageSpan.start ≤ d.marking.messageSpan.stop) :
    d.PointsIntoMessage (d.generate system options).diagnostics ∧
      ∀ as, d.PointsIntoMessage (problems system options d as) := by
  constructor
  · have hreported := unknownWarnings_problems system options d (d.arguments system)
    rw [← unknownWarnings_generate] at hreported
    exact pointsIntoMessage_of_strangers hspan hreported
  · intro as
    exact pointsIntoMessage_of_strangers hspan (unknownWarnings_problems system options d as)

/-- A method without arguments, whose message takes up the last bytes that have an
    offset. -/
def lastMethod : Declaration where
  name := "Last"
  parameters := [{ name := "logger", type := "ILogger" }]
  marking :=
    { eventId := 1, level? := some .debug, message := "é {a} {b} {a}",
      messageSpan := ⟨4294967281, 4294967295⟩ }

/-- A name is reported once, and no offset wraps. -/
theorem unknown_labels_point_into_message_last :
    lastMethod.marking.messageSpan.start ≤ lastMethod.marking.messageSpan.stop ∧
      lastMethod.marking.message.utf8ByteSize ≤ lastMethod.marking.messageSpan.length ∧
      (unknownWarnings (lastMethod.generate TypeFacts.conventional.system {}).diagnostics).map
          (fun e => e.labels.map Label.span)
        = [[⟨4294967284, 4294967287⟩], [⟨4294967288, 4294967291⟩]] ∧
      lastMethod.PointsIntoMessage
        (lastMethod.generate TypeFacts.conventional.system {}).diagnostics := by
  have hspan : lastMethod.marking.messageSpan.start ≤ lastMethod.marking.messageSpan.stop := by
    decide
  exact ⟨hspan, by decide +kernel, by decide +kernel,
    (unknown_labels_point_into_message TypeFacts.conventional.system {} lastMethod hspan).1⟩

end StructuredLog
