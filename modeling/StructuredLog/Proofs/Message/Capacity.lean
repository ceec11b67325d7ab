import StructuredLog.HostType.Facts
import StructuredLog.Proofs.Message.Filling

/-! # Capacity — the payloads that the runtime takes

    The generator bounds the arguments that go by position by an option of its
    own, the runtime bounds them by what its formatters take.  So a payload is
    refused exactly when it is by position and wider than the widest formatter,
    and only for that: the template has one placeholder for each argument, and a
    layout has one field for each (`payload_taken_unless_too_wide`).

    Nothing holds the option down to the runtime's bound, and with a greater one
    there are methods that are never logged (`seven_arguments_are_refused`). -/

namespace StructuredLog

open Template

variable {system : TypeSystem} {options : GeneratorOptions} {d : Declaration}
  {plan : MethodPlan} {values : List Value}

/-- A formatter for too many arguments is refused, whatever the template. -/
theorem ofTemplate_of_lt (template : String) {arity : Nat} (h : maxFormatterArity < arity) :
    Formatter.ofTemplate template arity = .error (.arityTooLarge arity maxFormatterArity) := by
  rw [Formatter.ofTemplate, dif_neg (Nat.not_le_of_lt h)]

theorem length_types_of_positional (h : (d.generate system options).plan? = some plan)
    {types : List TypeName} (hpayload : plan.payload = .positional types) :
    types.length = plan.statement.regular.length := by
  obtain ⟨-, -, rfl⟩ := Declaration.positional_of_plan? h hpayload
  exact List.length_map _

theorem length_placeholders_eq_length_types
    (h : (d.generate system options).plan? = some plan) {types : List TypeName}
    (hpayload : plan.payload = .positional types) :
    (placeholders plan.statement.template).length = types.length := by
  rw [Declaration.template_of_plan? h, length_placeholders_of_positional h hpayload,
    length_types_of_positional h hpayload]

/-- Payloads by position are as wide as the options allow. -/
theorem length_types_le_maxPositional (h : (d.generate system options).plan? = some plan)
    {types : List TypeName} (hpayload : plan.payload = .positional types) :
    types.length ≤ options.maxPositional := by
  rw [length_types_of_positional h hpayload]
  exact (Declaration.positional_of_plan? h hpayload).1

/-- **The runtime takes every payload that is not too wide**, with one value for
    each regular argument.  A payload by position has a formatter that takes the
    values if there are no more of them than a formatter can take, and is
    refused for their number if there are; no payload is too wide if the option
    keeps to the runtime's bound.  A payload of fields is always taken. -/
theorem payload_taken_unless_too_wide (h : (d.generate system options).plan? = some plan)
    (hvalues : values.length = plan.statement.regular.length) :
    (∀ types, plan.payload = .positional types →
      (types.length ≤ maxFormatterArity → ∃ f message,
        Formatter.ofTemplate plan.statement.template types.length = .ok f ∧
          f.format values = .ok message) ∧
      (maxFormatterArity < types.length →
        Formatter.ofTemplate plan.statement.template types.length
          = .error (.arityTooLarge types.length maxFormatterArity)) ∧
      (options.maxPositional ≤ maxFormatterArity → types.length ≤ maxFormatterArity)) ∧
    ∀ layout, plan.payload = .fields layout →
      ∃ list, FieldList.ofLayout layout values = .ok list := by
  constructor
  · intro types hpayload
    have hcount := length_placeholders_eq_length_types h hpayload
    have hfit : values.length = types.length :=
      hvalues.trans (length_types_of_positional h hpayload).symm
    refine ⟨?_, ofTemplate_of_lt _, ?_⟩
    · intro harity
      exact ⟨_, _, ofTemplate_eq_ok harity hcount, format_eq_ok (hfit.trans hcount.symm)⟩
    · intro hmax
      exact Nat.le_trans (length_types_le_maxPositional h hpayload) hmax
  · intro layout hpayload
    exact ⟨_, ofLayout_eq_ok
      (hvalues.trans (length_parameterFields_of_fields h hpayload).symm)⟩

/-- A method that logs readings of the given names, in order. -/
def readings (names : List String) : Declaration where
  name := "LogReadings"
  parameters :=
    { name := "logger", type := "ILogger" } :: names.map fun name => { name, type := "int" }
  marking :=
    { eventId := 1, level? := some .debug
      message := String.join (names.map fun name => "\x7b" ++ name ++ "\x7d ") }

/-- What is generated for the method when up to seven arguments may go by position. -/
def readingsPlan (names : List String) : MethodPlan where
  statement := (readings names).statement TypeFacts.conventional.system (.constant .debug)
  payload := .positional (names.map fun _ => "int")

theorem payload_taken_unless_too_wide_readings :
    ((readings ["a", "b"]).generate TypeFacts.conventional.system { maxPositional := 7 }).plan?
        = some (readingsPlan ["a", "b"]) ∧
      ∃ f message, Formatter.ofTemplate (readings ["a", "b"]).marking.message 2 = .ok f ∧
        f.format [.int 1, .int 2] = .ok message := by
  have hplan :
      ((readings ["a", "b"]).generate TypeFacts.conventional.system { maxPositional := 7 }).plan?
        = some (readingsPlan ["a", "b"]) := by
    decide +kernel
  exact ⟨hplan, ((payload_taken_unless_too_wide hplan rfl).1 ["int", "int"] rfl).1 (by decide)⟩

/-- Seven arguments that the options let go by position have no formatter, so the
    method never logs anything. -/
theorem seven_arguments_are_refused :
    ∃ plan, ((readings ["a", "b", "c", "d", "e", "f", "g"]).generate TypeFacts.conventional.system
        { maxPositional := 7 }).plan? = some plan ∧
      plan.payload = .positional (List.replicate 7 "int") ∧
      Formatter.ofTemplate plan.statement.template 7 = .error (.arityTooLarge 7 6) ∧
      ∀ values, plan.render values = .error (.arityTooLarge 7 6) := by
  have hrefused := ofTemplate_of_lt
    (readingsPlan ["a", "b", "c", "d", "e", "f", "g"]).statement.template
    (show maxFormatterArity < 7 by decide)
  refine ⟨readingsPlan ["a", "b", "c", "d", "e", "f", "g"], by decide +kernel, rfl, hrefused, ?_⟩
  intro values
  rw [MethodPlan.render]
  exact congrArg (Except.bind · _) hrefused

end StructuredLog
