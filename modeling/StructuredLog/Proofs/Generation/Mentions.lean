import StructuredLog.Proofs.Generation.Diagnosis
import StructuredLog.Proofs.Template.Holes

/-! # Mentions — when a template and its method agree

    Five warnings compare the placeholders of a template with the arguments of
    its method, by two rules: a regular argument needs a placeholder of its
    name in any ASCII case, while a placeholder needs an argument of exactly
    its name, which has to be a regular one.  A regular argument that breaks
    the rule is always reported (`exists_mention_of_not_warned`).  A method
    that keeps both rules draws none of the five warnings, for all other checks
    of a sound declaration report nothing, or something else
    (`code_not_mem_mentionCodes`). -/

namespace StructuredLog

open Template Text

/-- The codes of the warnings about what a template mentions. -/
def mentionCodes : List Code :=
  [.unusedArgument, .unknownPlaceholder, .exceptionInTemplate, .levelInTemplate, .loggerInTemplate]

variable {system : TypeSystem} {options : GeneratorOptions} {d : Declaration}

/-! ## Unused arguments -/

/-- The warning that no placeholder equals an argument. -/
def unusedWarning (a : Argument) : Diagnostic :=
  .labeled .unusedArgument
    ("argument " ++ ticked a.name ++ " has no corresponding template placeholder")
    a.span "not referenced by the template" []

theorem mentionProblems_of_regular {qs : List String} {a : Argument} (h : a.role = .regular) :
    mentionProblems qs a = reportIf (!qs.any (sameFolded · a.name)) (unusedWarning a) := by
  rw [mentionProblems, h]
  rfl

/-- A regular argument that no warning calls unused has a placeholder. -/
theorem exists_mention_of_not_warned {a : Argument}
    (ha : a ∈ regularArguments (d.arguments system))
    (hnot : unusedWarning a ∉ (d.generate system options).diagnostics) :
    ∃ q ∈ names d.marking.message, sameFolded q a.name = true := by
  obtain ⟨hmem, hregular⟩ := List.mem_filter.mp ha
  cases hused : (names d.marking.message).any (sameFolded · a.name) with
  | true => exact List.any_eq_true.mp hused
  | false =>
      refine absurd ?_ hnot
      have hwarned : unusedWarning a ∈ mentionProblems (names d.marking.message) a := by
        rw [mentionProblems_of_regular (of_decide_eq_true hregular), hused]
        exact List.mem_singleton_self _
      rw [Declaration.diagnostics_generate, problems, templateProblems]
      exact List.mem_append_right _ (List.mem_append_right _ (List.mem_append_left _
        (List.mem_append_right _ (List.mem_flatMap.mpr ⟨a, hmem, hwarned⟩))))

/-! ## Sound declarations -/

namespace Declaration.IsSound

variable (h : d.IsSound system options)
include h

theorem declarationProblems_eq_nil : declarationProblems options d = [] := by
  rw [declarationProblems, h.name_free, h.returns_void, h.static, h.stub, h.bodiless,
    h.not_generic]
  rfl

/-- The checks of its parameters report nothing on a sound declaration. -/
theorem parameterProblems_eq_nil :
    parameterProblems system options d (d.arguments system) = [] := by
  have hlogger : loggerProblems system d (d.arguments system) = [] := by
    obtain ⟨p, hp, hlogger⟩ := h.logger
    obtain ⟨ps, hps⟩ := List.head?_eq_some_iff.mp hp
    rw [arguments, hps]
    show reportIf (!system.assignable p.type .logger) _ = []
    rw [hlogger]
    rfl
  rw [parameterProblems, hlogger, List.nil_append, List.flatMap_eq_nil_iff]
  rintro ⟨a, p⟩ hmem
  obtain ⟨role, rfl⟩ := (List.forall₂_iff_zip.mp (d.forall₂_arguments system)).2 hmem
  obtain ⟨hfree, hmode⟩ := h.parameters p (List.of_mem_zip hmem).2
  show reportIf (options.isReserved p.name) _ ++ reportIf (p.mode ≠ .value) _ = []
  rw [hfree, hmode]
  rfl

theorem levelProblems_eq_nil : levelProblems d (d.arguments system) = [] := by
  rw [levelProblems]
  rcases h.level with hconstant | ⟨a, ha, hrole⟩
  · rw [← Option.not_isNone, Bool.not_eq_true'] at hconstant
    rw [hconstant]
    rfl
  · rw [List.any_eq_true.mpr ⟨a, ha, decide_eq_true hrole⟩, Bool.not_true, Bool.and_false]
    rfl

/-- Only the template of a sound declaration gives something to report. -/
theorem diagnostics_eq : (d.generate system options).diagnostics
    = timestampWarnings system (d.arguments system)
      ++ templateProblems d (d.arguments system) := by
  rw [diagnostics_generate, problems, h.declarationProblems_eq_nil, h.parameterProblems_eq_nil,
    h.levelProblems_eq_nil]
  rfl

end Declaration.IsSound

/-! ## Agreement -/

/-- The template mentions the regular arguments of its method, and nothing else. -/
structure Declaration.MentionsRegular (system : TypeSystem) (d : Declaration) : Prop where
  regular : ∀ a ∈ d.arguments system, a.role = .regular →
    ∃ q ∈ names d.marking.message, sameFolded q a.name = true
  special : ∀ a ∈ d.arguments system, a.role ≠ .regular → a.name ∉ names d.marking.message
  known : ∀ q ∈ names d.marking.message, q ∈ (d.arguments system).map Argument.name

/-- No argument is at odds with a template that mentions the regular ones only. -/
theorem Declaration.MentionsRegular.mentionProblems_eq_nil (h : d.MentionsRegular system)
    {a : Argument} (ha : a ∈ d.arguments system) :
    mentionProblems (names d.marking.message) a = [] := by
  by_cases hrole : a.role = .regular
  · rw [mentionProblems_of_regular hrole, List.any_eq_true.mpr (h.regular a ha hrole)]
    rfl
  · have hnot : (names d.marking.message).contains a.name = false :=
      Bool.eq_false_iff.mpr fun hmem => h.special a ha hrole (List.contains_iff_mem.mp hmem)
    rw [mentionProblems, hnot]
    cases hspecial : a.role with
    | regular => exact absurd hspecial hrole
    | exception => rfl
    | level => rfl
    | loggerHandle => rfl

theorem strangers_eq_nil {known : List String} {ps : List Placeholder}
    (h : ∀ p ∈ ps, p.name ∈ known) : strangers known ps = [] := by
  induction ps with
  | nil => rfl
  | cons p ps ih =>
      rw [strangers, if_pos (List.contains_iff_mem.mpr (h p List.mem_cons_self))]
      exact ih fun q hq => h q (List.mem_cons_of_mem _ hq)

/-- **A template that mentions the regular arguments and nothing else** draws none of
    the warnings about mentions. -/
theorem code_not_mem_mentionCodes (hsound : d.IsSound system options)
    (h : d.MentionsRegular system) :
    ∀ e ∈ (d.generate system options).diagnostics, e.code ∉ mentionCodes := by
  have hmentions : (d.arguments system).flatMap (mentionProblems (names d.marking.message)) = [] :=
    List.flatMap_eq_nil_iff.mpr fun a ha => h.mentionProblems_eq_nil ha
  have hstrangers :
      strangers ((d.arguments system).map Argument.name) (placeholders d.marking.message) = [] :=
    strangers_eq_nil fun p hp => h.known p.name (mem_names_of_mem hp)
  rw [hsound.diagnostics_eq, templateProblems, hmentions, hstrangers, List.map_nil,
    List.append_nil, List.append_nil]
  intro e he
  rcases List.mem_append.mp he with htimestamp | htemplate
  · obtain ⟨a, -, rfl⟩ := List.mem_map.mp htimestamp
    show Code.timestampArgument ∉ mentionCodes
    decide
  rcases List.mem_append.mp htemplate with hmalformed | hword
  · rw [reportIf] at hmalformed
    split at hmalformed
    · rw [List.mem_singleton.mp hmalformed]
      show Code.unterminatedPlaceholder ∉ mentionCodes
      decide
    · exact absurd hmalformed List.not_mem_nil
  · cases hleading : leadingLevelWord? d.marking.message with
    | none =>
        rw [hleading] at hword
        exact absurd hword List.not_mem_nil
    | some word =>
        rw [hleading] at hword
        rw [List.mem_singleton.mp hword]
        show Code.levelWordInTemplate ∉ mentionCodes
        decide

end StructuredLog
