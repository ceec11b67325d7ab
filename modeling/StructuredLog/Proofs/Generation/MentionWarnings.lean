import StructuredLog.Proofs.Generation.Mentions

/-! # Mention warnings — what the checks say about the names in a template

    Of all that is reported on a declaration, the warnings about mentions come
    from the arguments, one by one, and then from the placeholders, a name at a
    time (`filter_isMention_problems`).  An argument draws one exactly if it is
    at odds with the placeholders (`mentionProblems_eq_reportIf`), and a name
    that no argument has draws one at its first placeholder
    (`map_name_strangers`).

    The choice of a payload compares the same names by rules of its own.  They
    agree with the warnings: an unused argument keeps its name as a field, and
    where the arguments are passed by position none is unused, and a placeholder
    that names none of them differs from the one at its position in case alone
    (`mention_warnings_are_exact`). -/

namespace StructuredLog

open Template Text

variable {system : TypeSystem} {options : GeneratorOptions} {d : Declaration} {s : Statement}
  {as : List Argument} {a : Argument} {e : Diagnostic} {qs known : List String}
  {ps : List Placeholder} {p q : Placeholder}

/-! ## Arguments at odds with the placeholders -/

/-- A regular argument that no placeholder names in any ASCII case, or another one that
    some placeholder names exactly. -/
def IsAtOdds (qs : List String) (a : Argument) : Prop :=
  if a.role = .regular then ∀ q ∈ qs, sameFolded q a.name = false else a.name ∈ qs

instance (qs : List String) (a : Argument) : Decidable (IsAtOdds qs a) :=
  inferInstanceAs (Decidable (ite _ _ _))

/-- The warning about an argument that is at odds with the placeholders. -/
def oddsWarning (a : Argument) : Diagnostic :=
  match a.role with
  | .regular => unusedWarning a
  | .exception => mentionWarning .exceptionInTemplate "exception" a
  | .level => mentionWarning .levelInTemplate "level" a
  | .loggerHandle => mentionWarning .loggerInTemplate "logger" a

/-- The code of the warning about an argument in a role. -/
def Role.mentionCode : Role → Code
  | .regular => .unusedArgument
  | .exception => .exceptionInTemplate
  | .level => .levelInTemplate
  | .loggerHandle => .loggerInTemplate

/-- The message of the warning about an argument in a role. -/
def Role.mentionMessage (role : Role) (name : String) : String :=
  match role with
  | .regular => "argument `" ++ name ++ "` has no corresponding template placeholder"
  | .exception => "exception parameter `" ++ name ++ "` should not be mentioned in the template"
  | .level => "level parameter `" ++ name ++ "` should not be mentioned in the template"
  | .loggerHandle => "logger parameter `" ++ name ++ "` should not be mentioned in the template"

/-- The diagnostic says how the argument is at odds with the placeholders, and points at
    the argument. -/
structure TellsOdds (a : Argument) (e : Diagnostic) : Prop where
  code : e.code = a.role.mentionCode
  message : e.message = a.role.mentionMessage a.name
  primarySpan : e.primarySpan? = some a.span

/-- The warning about an argument at odds tells what its role asks for. -/
theorem tellsOdds_oddsWarning (a : Argument) : TellsOdds a (oddsWarning a) where
  code := by
    rw [oddsWarning]
    cases a.role <;> rfl
  message := by
    rw [oddsWarning]
    cases a.role with
    | regular => exact append_ticked "argument " ..
    | exception => exact append_ticked "exception parameter " ..
    | level => exact append_ticked "level parameter " ..
    | loggerHandle => exact append_ticked "logger parameter " ..
  primarySpan := by
    rw [oddsWarning]
    cases a.role <;> rfl

theorem code_oddsWarning (a : Argument) : (oddsWarning a).code = a.role.mentionCode :=
  (tellsOdds_oddsWarning a).code

theorem Role.mentionCode_mem (role : Role) : role.mentionCode ∈ mentionCodes := by
  cases role <;> decide

theorem Role.mentionCode_ne_unknownPlaceholder (role : Role) :
    role.mentionCode ≠ .unknownPlaceholder := by
  cases role <;> decide

theorem Role.mentionCode_eq_unusedArgument {role : Role} (h : role.mentionCode = .unusedArgument) :
    role = .regular := by
  cases role with
  | regular => rfl
  | exception => exact nomatch h
  | level => exact nomatch h
  | loggerHandle => exact nomatch h

theorem isAtOdds_of_regular (h : a.role = .regular) :
    IsAtOdds qs a ↔ ∀ q ∈ qs, sameFolded q a.name = false := by
  rw [IsAtOdds, if_pos h]

theorem isAtOdds_of_ne_regular (h : a.role ≠ .regular) : IsAtOdds qs a ↔ a.name ∈ qs := by
  rw [IsAtOdds, if_neg h]

/-- **An argument draws a warning exactly if it is at odds** with the placeholders. -/
theorem mentionProblems_eq_reportIf (qs : List String) (a : Argument) :
    mentionProblems qs a = reportIf (IsAtOdds qs a) (oddsWarning a) := by
  by_cases hrole : a.role = .regular
  · have hodds : (!qs.any (sameFolded · a.name)) = decide (IsAtOdds qs a) := by
      rw [Bool.eq_iff_iff, decide_eq_true_iff, isAtOdds_of_regular hrole, Bool.not_eq_true',
        List.any_eq_false]
      exact forall₂_congr fun q _ => Bool.not_eq_true _ ▸ Iff.rfl
    rw [mentionProblems_of_regular hrole, hodds, oddsWarning, hrole]
  · have hodds : qs.contains a.name = decide (IsAtOdds qs a) := by
      rw [Bool.eq_iff_iff, decide_eq_true_iff, isAtOdds_of_ne_regular hrole, List.contains_iff_mem]
    rw [mentionProblems, hodds, oddsWarning]
    cases hspecial : a.role with
    | regular => exact absurd hspecial hrole
    | exception => rfl
    | level => rfl
    | loggerHandle => rfl

theorem flatMap_reportIf {α : Type} (failed : α → Bool) (report : α → Diagnostic) (as : List α) :
    as.flatMap (fun a => reportIf (failed a) (report a)) = (as.filter failed).map report := by
  induction as with
  | nil => rfl
  | cons a as ih =>
      rw [List.flatMap_cons, ih]
      by_cases ha : failed a = true
      · rw [ha, List.filter_cons_of_pos ha]
        rfl
      · rw [Bool.eq_false_iff.mpr ha, List.filter_cons_of_neg ha]
        rfl

theorem flatMap_mentionProblems (qs : List String) (as : List Argument) :
    as.flatMap (mentionProblems qs) = (as.filter (IsAtOdds qs ·)).map oddsWarning := by
  rw [funext (mentionProblems_eq_reportIf qs)]
  exact flatMap_reportIf (IsAtOdds qs ·) oddsWarning as

/-! ## Names that no argument has -/

/-- The diagnostic says that no argument has the name of the placeholder, and points at the
    placeholder in the message literal. -/
structure TellsUnknown (messageSpan : Span) (p : Placeholder) (e : Diagnostic) : Prop where
  code : e.code = .unknownPlaceholder
  message : e.message = "template references no such argument `" ++ p.name ++ "`"
  primarySpan : e.primarySpan? = some (messageSpan.sub p.first p.stop)

theorem tellsUnknown_strangerWarning (messageSpan : Span) (p : Placeholder) :
    TellsUnknown messageSpan p (strangerWarning messageSpan p) where
  code := rfl
  message := by
    have hno : "template references no such argument `"
        = "template references no such argument " ++ "`" := rfl
    rw [hno, String.append_assoc, String.append_assoc]
    rfl
  primarySpan := rfl

/-- The names of the strangers are those that are not known, each at its first place. -/
theorem map_name_strangers (known : List String) (ps : List Placeholder) :
    (strangers known ps).map Placeholder.name
      = ((ps.map Placeholder.name).filter (!known.contains ·)).eraseDups := by
  induction ps generalizing known with
  | nil => rfl
  | cons p ps ih =>
      rw [strangers, List.map_cons]
      cases hknown : known.contains p.name with
      | true =>
          rw [if_pos rfl, ih, List.filter_cons_of_neg (by rw [hknown]; exact Bool.false_ne_true)]
      | false =>
          -- a name that is reported is as good as known from there on
          have hrest : (fun name => !(p.name :: known).contains name)
              = fun name => !(name == p.name) && !known.contains name := by
            funext name
            rw [List.contains_cons, Bool.not_or]
          rw [if_neg Bool.false_ne_true, List.map_cons, ih, hrest,
            List.filter_cons_of_pos (by rw [hknown]; rfl), List.eraseDups_cons, List.filter_filter]

/-- A stranger is the first placeholder of its name, which is not known. -/
theorem find?_of_mem_strangers (h : p ∈ strangers known ps) :
    ps.find? (·.name == p.name) = some p ∧ p.name ∉ known := by
  induction ps generalizing known with
  | nil => exact nomatch h
  | cons q ps ih =>
      have hlater : q.name ≠ p.name → ps.find? (·.name == p.name) = some p →
          (q :: ps).find? (·.name == p.name) = some p := by
        intro hne hfound
        rw [List.find?_cons, beq_false_of_ne hne, hfound]
      rw [strangers] at h
      by_cases hknown : known.contains q.name = true
      · rw [if_pos hknown] at h
        obtain ⟨hfound, hp⟩ := ih h
        refine ⟨hlater ?_ hfound, hp⟩
        rintro heq
        exact hp (heq ▸ List.contains_iff_mem.mp hknown)
      · rw [if_neg hknown] at h
        rcases List.mem_cons.mp h with rfl | h
        · exact ⟨List.find?_cons_of_pos (beq_self_eq_true p.name),
            fun hp => hknown (List.contains_iff_mem.mpr hp)⟩
        · obtain ⟨hfound, hp⟩ := ih h
          obtain ⟨hne, hp⟩ := not_or.mp (mt List.mem_cons.mpr hp)
          exact ⟨hlater (Ne.symm hne) hfound, hp⟩

/-! ## The warnings among all diagnostics -/

/-- The diagnostic is one of the warnings about mentions. -/
def Diagnostic.isMention (e : Diagnostic) : Bool :=
  mentionCodes.contains e.code

theorem isMention_oddsWarning (a : Argument) : (oddsWarning a).isMention = true := by
  rw [Diagnostic.isMention, code_oddsWarning]
  exact List.contains_iff_mem.mpr a.role.mentionCode_mem

theorem filter_isMention_reportIf (failed : Bool) (h : e.isMention = false) :
    (reportIf failed e).filter Diagnostic.isMention = [] := by
  cases failed with
  | false => rfl
  | true => exact List.filter_cons_of_neg (by rw [h]; exact Bool.false_ne_true)

theorem filter_isMention_declarationProblems (options : GeneratorOptions) (d : Declaration) :
    (declarationProblems options d).filter Diagnostic.isMention = [] := by
  rw [declarationProblems]
  simp only [List.filter_append]
  rw [filter_isMention_reportIf _ rfl, filter_isMention_reportIf _ rfl,
    filter_isMention_reportIf _ rfl, filter_isMention_reportIf _ rfl,
    filter_isMention_reportIf _ rfl]
  cases d.returns with
  | void => rfl
  | value type => rfl

theorem filter_isMention_argumentProblems (options : GeneratorOptions) (a : Argument)
    (mode : PassingMode) :
    (argumentProblems options a mode).filter Diagnostic.isMention = [] := by
  rw [argumentProblems]
  rw [List.filter_append, filter_isMention_reportIf _ rfl, filter_isMention_reportIf _ rfl,
    List.append_nil]

theorem filter_isMention_parameterProblems (system : TypeSystem) (options : GeneratorOptions)
    (d : Declaration) (as : List Argument) :
    (parameterProblems system options d as).filter Diagnostic.isMention = [] := by
  have hlogger : (loggerProblems system d as).filter Diagnostic.isMention = [] := by
    cases as with
    | nil => rfl
    | cons a as => exact filter_isMention_reportIf _ rfl
  rw [parameterProblems, List.filter_append, hlogger, List.nil_append, List.filter_flatMap,
    List.flatMap_eq_nil_iff]
  rintro ⟨a, p⟩ -
  exact filter_isMention_argumentProblems options a p.mode

/-- The checks of the template warn about the arguments at odds, then about the strangers. -/
theorem filter_isMention_templateProblems (d : Declaration) (as : List Argument) :
    (templateProblems d as).filter Diagnostic.isMention
      = (as.filter (IsAtOdds (names d.marking.message) ·)).map oddsWarning
        ++ (strangers (as.map Argument.name) (placeholders d.marking.message)).map
          (strangerWarning d.marking.messageSpan) := by
  rw [templateProblems, flatMap_mentionProblems]
  simp only [List.filter_append]
  rw [filter_isMention_reportIf _ rfl,
    List.filter_eq_self.mpr (List.forall_mem_map.mpr fun a _ => isMention_oddsWarning a),
    List.filter_eq_self.mpr (List.forall_mem_map.mpr fun p _ => rfl)]
  cases leadingLevelWord? d.marking.message with
  | none => rfl
  | some word => rfl

/-- **The warnings about mentions** come from the arguments that are at odds with the
    placeholders, and then from the names that no argument has. -/
theorem filter_isMention_problems (system : TypeSystem) (options : GeneratorOptions)
    (d : Declaration) (as : List Argument) :
    (problems system options d as).filter Diagnostic.isMention
      = (as.filter (IsAtOdds (names d.marking.message) ·)).map oddsWarning
        ++ (strangers (as.map Argument.name) (placeholders d.marking.message)).map
          (strangerWarning d.marking.messageSpan) := by
  rw [problems]
  simp only [List.filter_append]
  rw [filter_isMention_declarationProblems, filter_isMention_parameterProblems, levelProblems,
    filter_isMention_reportIf _ rfl, filter_isMention_templateProblems]
  rfl

theorem ticked_inj {text text' : String} (h : ticked text = ticked text') : text = text' :=
  (String.append_right_inj _).mp ((String.append_left_inj _).mp h)

/-- Warnings about unknown placeholders are told apart by the names. -/
theorem name_eq_of_strangerWarning_eq {span : Span}
    (h : strangerWarning span p = strangerWarning span q) : p.name = q.name :=
  ticked_inj ((String.append_right_inj _).mp (congrArg Diagnostic.message h))

/-- An argument is called unused only if it is a regular one that no placeholder names. -/
theorem of_unusedArgument_mem_problems (he : e ∈ problems system options d as)
    (hcode : e.code = .unusedArgument) :
    ∃ a ∈ as, a.role = .regular ∧ ∀ q ∈ names d.marking.message, sameFolded q a.name = false := by
  have hmention : e ∈ (problems system options d as).filter Diagnostic.isMention :=
    List.mem_filter.mpr ⟨he, by rw [Diagnostic.isMention, hcode]; rfl⟩
  rw [filter_isMention_problems] at hmention
  rcases List.mem_append.mp hmention with hodds | hstranger
  · obtain ⟨a, ha, rfl⟩ := List.mem_map.mp hodds
    obtain ⟨hmem, hatOdds⟩ := List.mem_filter.mp ha
    have hrole := Role.mentionCode_eq_unusedArgument (code_oddsWarning a ▸ hcode)
    exact ⟨a, hmem, hrole, (isAtOdds_of_regular hrole).mp (of_decide_eq_true hatOdds)⟩
  · obtain ⟨p, -, rfl⟩ := List.mem_map.mp hstranger
    exact nomatch hcode

/-- A placeholder is called unknown only if no argument has its name. -/
theorem of_strangerWarning_mem_problems
    (h : strangerWarning d.marking.messageSpan p ∈ problems system options d as) :
    p.name ∉ as.map Argument.name := by
  have hmention := List.mem_filter.mpr ⟨h, (rfl : Diagnostic.isMention _ = true)⟩
  rw [filter_isMention_problems] at hmention
  rcases List.mem_append.mp hmention with hodds | hstranger
  · obtain ⟨a, -, ha⟩ := List.mem_map.mp hodds
    have hcode : (oddsWarning a).code = .unknownPlaceholder := congrArg Diagnostic.code ha
    exact absurd (code_oddsWarning a ▸ hcode) a.role.mentionCode_ne_unknownPlaceholder
  · obtain ⟨q, hq, heq⟩ := List.mem_map.mp hstranger
    rw [← name_eq_of_strangerWarning_eq heq]
    exact (find?_of_mem_strangers hq).2

/-! ## The choice of a payload -/

namespace Statement

theorem fieldName_of_unnamed (h : ∀ q ∈ s.placeholders, sameFolded q a.name = false) :
    s.fieldName a.name = a.name := by
  have hnone : s.placeholders.find? (sameFolded · a.name) = none :=
    List.find?_eq_none.mpr fun q hq => Bool.eq_false_iff.mp (h q hq)
  rw [fieldName, hnone]
  rfl

/-- **An unused argument keeps its name as a field**, which no placeholder matches. -/
theorem isAtOdds_iff_field (h : a.role = .regular) :
    IsAtOdds s.placeholders a ↔ (s.field system a).name = a.name ∧
      ∀ q ∈ s.placeholders, sameFolded q (s.field system a).name = false := by
  rw [isAtOdds_of_regular h]
  constructor
  · intro hunnamed
    have hname : (s.field system a).name = a.name := fieldName_of_unnamed hunnamed
    exact ⟨hname, fun q hq => hname ▸ hunnamed q hq⟩
  · rintro ⟨hname, hunnamed⟩ q hq
    exact hname ▸ hunnamed q hq

theorem mem_arguments_of_getElem?_regular {i : Nat} (h : s.regular[i]? = some a) :
    a ∈ s.arguments ∧ a.role = .regular := by
  obtain ⟨hmem, hrole⟩ := List.mem_filter.mp (List.mem_of_getElem? h)
  exact ⟨hmem, of_decide_eq_true hrole⟩

/-- Where the arguments line up, every regular one has a placeholder. -/
theorem exists_placeholder_of_linesUp (hlines : s.linesUp = true) (ha : a ∈ s.arguments)
    (hrole : a.role = .regular) : ∃ q ∈ s.placeholders, sameFolded q a.name = true := by
  obtain ⟨hcount, hsame⟩ := linesUp_iff.mp hlines
  have hregular : a ∈ s.regular := List.mem_filter.mpr ⟨ha, decide_eq_true hrole⟩
  obtain ⟨i, hi⟩ := List.mem_iff_getElem?.mp hregular
  have hlt : i < s.placeholders.length := hcount ▸ (List.getElem?_eq_some_iff.mp hi).1
  have hget := List.getElem?_eq_getElem hlt
  exact ⟨_, List.mem_of_getElem? hget, sameFolded_comm .. ▸ hsame i a _ hi hget⟩

/-- Where the arguments line up, every placeholder has an argument at its position. -/
theorem exists_regular_of_linesUp {i : Nat} {name : String} (hlines : s.linesUp = true)
    (hname : s.placeholders[i]? = some name) :
    ∃ a, s.regular[i]? = some a ∧ sameFolded a.name name = true := by
  obtain ⟨hcount, hsame⟩ := linesUp_iff.mp hlines
  have hlt : i < s.regular.length := hcount ▸ (List.getElem?_eq_some_iff.mp hname).1
  have hget := List.getElem?_eq_getElem hlt
  exact ⟨_, hget, hsame i _ _ hget hname⟩

end Statement

/-- The names of the placeholders that no argument has, in the order of their first
    places. -/
def unknownNames (d : Declaration) (as : List Argument) : List String :=
  ((names d.marking.message).filter (!(as.map Argument.name).contains ·)).eraseDups

/-- **The warnings about mentions are exact.**  There is one for each argument that is at
    odds with the placeholders, in order, with the code of its role, and then one for each
    name of a placeholder that no argument has, about the first placeholder of that name.

    The choice of a payload agrees with them.  A regular argument is at odds exactly if
    its field keeps its name and no placeholder matches the field.  Where the arguments
    are passed by position none of them is unused, and a placeholder that is called
    unknown differs from the argument at its position in case alone. -/
theorem mention_warnings_are_exact (system : TypeSystem) (options : GeneratorOptions)
    (d : Declaration) (s : Statement) (hplaceholders : s.placeholders = names d.marking.message) :
    (∃ unknown,
      (problems system options d s.arguments).filter Diagnostic.isMention
        = (s.arguments.filter (IsAtOdds s.placeholders ·)).map oddsWarning ++ unknown ∧
      (∀ a, TellsOdds a (oddsWarning a)) ∧
      List.Forall₂
        (fun name e => ∃ p, (placeholders d.marking.message).find? (·.name == name) = some p ∧
          e = strangerWarning d.marking.messageSpan p ∧ TellsUnknown d.marking.messageSpan p e)
        (unknownNames d s.arguments) unknown) ∧
    -- named fields
    (∀ (i : Nat) (a : Argument), s.regular[i]? = some a →
      ∃ field, (s.layout system).parameterFields[i]? = some field ∧
        (IsAtOdds s.placeholders a ↔ field.name = a.name ∧
          ∀ q ∈ s.placeholders, sameFolded q field.name = false)) ∧
    -- arguments by position
    (∀ types, s.payload system options = .positional types →
      (∀ e ∈ problems system options d s.arguments, e.code ≠ .unusedArgument) ∧
      ∀ p ∈ placeholders d.marking.message,
        strangerWarning d.marking.messageSpan p ∈ problems system options d s.arguments →
        ∃ a, s.regular[p.position]? = some a ∧ sameFolded a.name p.name = true ∧
          a.name ≠ p.name) := by
  refine ⟨⟨_, hplaceholders ▸ filter_isMention_problems system options d s.arguments,
    tellsOdds_oddsWarning, ?_⟩, ?_, ?_⟩
  · rw [unknownNames, names, ← map_name_strangers, List.forall₂_map_left_iff,
      List.forall₂_map_right_iff, List.forall₂_same]
    intro p hp
    exact ⟨p, (find?_of_mem_strangers hp).1, rfl, tellsUnknown_strangerWarning _ p⟩
  · intro i a ha
    refine ⟨s.field system a, ?_, ?_⟩
    · rw [Statement.layout, List.getElem?_map, ha]
      rfl
    · exact Statement.isAtOdds_iff_field (Statement.mem_arguments_of_getElem?_regular ha).2
  · intro types hpayload
    have hlines : s.linesUp = true := (Statement.positionalTypes?_eq_some_iff.mp
      (Statement.payload_eq_positional_iff.mp hpayload)).2.2.1
    refine ⟨?_, ?_⟩
    · intro e he hcode
      obtain ⟨a, ha, hrole, hunnamed⟩ := of_unusedArgument_mem_problems he hcode
      obtain ⟨q, hq, hsame⟩ := Statement.exists_placeholder_of_linesUp hlines ha hrole
      rw [hunnamed q (hplaceholders ▸ hq)] at hsame
      exact Bool.false_ne_true hsame
    · intro p hp hwarned
      have hname : s.placeholders[p.position]? = some p.name :=
        hplaceholders ▸ getElem?_names_position hp
      obtain ⟨a, ha, hsame⟩ := Statement.exists_regular_of_linesUp hlines hname
      refine ⟨a, ha, hsame, ?_⟩
      intro heq
      refine of_strangerWarning_mem_problems hwarned ?_
      exact heq ▸ List.mem_map_of_mem (Statement.mem_arguments_of_getElem?_regular ha).1

/-- A method whose template capitalizes the first of its two arguments. -/
def capitalizedMethod : Declaration where
  name := "Count"
  parameters :=
    [{ name := "logger", type := "ILogger" }, { name := "first", type := "int" },
      { name := "second", type := "int" }]
  marking := { eventId := 1, level? := some .debug, message := "\x7bFirst\x7d \x7bsecond\x7d" }

/-- The capitalized placeholder is called unknown, and nothing else is said about mentions,
    though the argument is passed at its position. -/
theorem mention_warnings_are_exact_capitalized :
    let s := capitalizedMethod.statement TypeFacts.conventional.system (.constant .debug)
    let reported := problems TypeFacts.conventional.system {} capitalizedMethod s.arguments
    s.placeholders = names capitalizedMethod.marking.message ∧
      s.payload TypeFacts.conventional.system {} = .positional ["int", "int"] ∧
      (⟨"First", 0, 0, 7, none⟩ : Placeholder) ∈ placeholders capitalizedMethod.marking.message ∧
      strangerWarning .nowhere ⟨"First", 0, 0, 7, none⟩ ∈ reported ∧
      (∃ a, s.regular[0]? = some a ∧ sameFolded a.name "First" = true ∧ a.name ≠ "First") ∧
      ∃ e, reported.filter Diagnostic.isMention = [e] ∧ e.code = .unknownPlaceholder ∧
        e.message = "template references no such argument `First`" := by
  intro s reported
  have hpayload : s.payload TypeFacts.conventional.system {} = .positional ["int", "int"] := by
    decide +kernel
  have hmem : (⟨"First", 0, 0, 7, none⟩ : Placeholder)
      ∈ placeholders capitalizedMethod.marking.message := by
    decide +kernel
  have hwarned : strangerWarning .nowhere ⟨"First", 0, 0, 7, none⟩ ∈ reported := by
    decide +kernel
  have hodds : s.arguments.filter (IsAtOdds s.placeholders ·) = [] := by
    decide +kernel
  have hunknownNames : unknownNames capitalizedMethod s.arguments = ["First"] := by
    decide +kernel
  obtain ⟨⟨unknown, hreported, -, hunknown⟩, -, hpositional⟩ :=
    mention_warnings_are_exact TypeFacts.conventional.system {} capitalizedMethod s rfl
  refine ⟨rfl, hpayload, hmem, hwarned, (hpositional _ hpayload).2 _ hmem hwarned, ?_⟩
  rw [hunknownNames] at hunknown
  obtain ⟨e, _, ⟨p, hp, -, htells⟩, hnone, rfl⟩ := List.forall₂_cons_left_iff.mp hunknown
  obtain rfl := List.forall₂_nil_left_iff.mp hnone
  have hname := List.find?_some hp
  refine ⟨e, ?_, htells.code, ?_⟩
  · rw [hreported, hodds]
    rfl
  · rw [htells.message, beq_iff_eq.mp hname]
    rfl

end StructuredLog
