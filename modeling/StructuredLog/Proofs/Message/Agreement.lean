import Mathlib.Data.List.Forall2
import StructuredLog.HostType.Facts
import StructuredLog.Proofs.Message.Filling

/-! # Agreement — the two payloads say the same

    A method that is passed by position could just as well build the field list
    of its statement.  As long as its arguments differ by more than ASCII case,
    each placeholder finds the argument at its own position either way, and
    showing a sequence lazily changes no text; so the messages are equal
    (`formatter_message_eq_fields_message`). -/

namespace StructuredLog

open Template

/-- The fields of a statement show admitted values by their own texts. -/
theorem render_zipWith_adapt {system : TypeSystem} (s : Statement) {values : List Value}
    (hvalues : List.Forall₂ (fun (a : Argument) v => system.Admits a.type v) s.regular values)
    (i : Nat) :
    (((s.layout system).parameterFields.zipWith (fun field v => field.rendering.adapt v)
      values)[i]?).map Value.render = values[i]?.map Value.render := by
  rw [show (s.layout system).parameterFields = s.regular.map (s.field system) from rfl]
  generalize s.regular = arguments at hvalues
  induction hvalues generalizing i with
  | nil => rfl
  | cons hv _ ih =>
      cases i with
      | zero =>
          refine congrArg some ?_
          show ((s.field system _).rendering.adapt _).render = _
          rw [adapt_field]
          exact PayloadPlan.render_shown (.fields (s.layout system)) hv
      | succ i => exact ih i

/-- **The payloads agree**: a method passed by position, whose arguments differ
    by more than ASCII case, has the message of its field list. -/
theorem formatter_message_eq_fields_message {system : TypeSystem} {options : GeneratorOptions}
    {d : Declaration} {plan : MethodPlan} {types : List TypeName} {values : List Value}
    (hmax : options.maxPositional ≤ maxFormatterArity)
    (hplan : (d.generate system options).plan? = some plan)
    (hpayload : plan.payload = .positional types)
    (hdistinct : (plan.statement.regular.map fun a => Text.folded a.name).Nodup)
    (hvalues : List.Forall₂ (fun (a : Argument) v => system.Admits a.type v)
      plan.statement.regular values) :
    ∃ message : Rendering,
      (Formatter.ofTemplate plan.statement.template types.length).bind (·.format values)
          = .ok message
        ∧ (FieldList.ofLayout (plan.statement.layout system) values).map FieldList.message
          = .ok message := by
  obtain ⟨hcount, hlines, rfl⟩ := Declaration.positional_of_plan? hplan hpayload
  have hplaceholders := length_placeholders_of_positional hplan hpayload
  have hlength : values.length = plan.statement.regular.length := hvalues.length_eq.symm
  have htemplate := Declaration.template_of_plan? hplan
  refine ⟨renderSegments (fun p => values[p.position]?.map Value.render)
    (segments d.marking.message), ?_, ?_⟩
  · rw [htemplate, List.length_map]
    exact format_ofTemplate (Nat.le_trans hcount hmax) hplaceholders hlength
  · rw [message_ofLayout (hlength.trans (List.length_map _).symm)]
    show Except.ok (renderSegments _ (segments plan.statement.template)) = _
    rw [htemplate]
    refine congrArg Except.ok (renderSegments_congr ?_)
    intro p hp
    -- the fields of the placeholder's name begin with that of the argument at its position
    have hname : plan.statement.placeholders[p.position]? = some p.name := by
      rw [Declaration.placeholders_of_plan? hplan]
      exact getElem?_names_position hp
    rw [Statement.findIdx?_fields_name_of_linesUp system hdistinct hlines hname,
      Option.bind_some]
    exact render_zipWith_adapt plan.statement hvalues p.position

/-- A method whose template spells its arguments in another case, next to
    escapes, and pads a sequence. -/
def listing : Declaration where
  name := "Listing"
  parameters :=
    [{ name := "logger", type := "ILogger" }, { name := "items", type := "IEnumerable" },
      { name := "total", type := "int" }]
  marking :=
    { eventId := 1
      level? := some .debug
      message := "\x7b\x7ball\x7d\x7d \x7bItems,12\x7d of \x7bTOTAL:d\x7d" }

/-- The plan of the listing. -/
def listingPlan : MethodPlan :=
  ⟨listing.statement TypeFacts.conventional.system (.constant .debug),
    .positional ["IEnumerable", "int"]⟩

/-- The sequence of the listing has one text in both messages. -/
theorem formatter_message_eq_fields_message_listing :
    (listing.generate TypeFacts.conventional.system {}).plan? = some listingPlan ∧
      ∃ message : Rendering,
        (Formatter.ofTemplate listingPlan.statement.template 2).bind
            (·.format [.sequence false [.int 1, .null], .int 2]) = .ok message
          ∧ (FieldList.ofLayout (listingPlan.statement.layout TypeFacts.conventional.system)
              [.sequence false [.int 1, .null], .int 2]).map FieldList.message = .ok message := by
  have hplan : (listing.generate TypeFacts.conventional.system {}).plan? = some listingPlan := by
    decide +kernel
  refine ⟨hplan, ?_⟩
  refine formatter_message_eq_fields_message (Nat.le_refl 6) hplan rfl (by decide +kernel) ?_
  rw [show listingPlan.statement.regular
    = [⟨"items", "IEnumerable", .regular, .nowhere⟩, ⟨"total", "int", .regular, .nowhere⟩]
    by decide +kernel]
  exact .cons (fun _ => .inr rfl) (.cons (fun hsequence => absurd hsequence (by decide)) .nil)

end StructuredLog
