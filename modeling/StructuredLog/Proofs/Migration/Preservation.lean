import StructuredLog.Proofs.Identifier.Derivation
import StructuredLog.Proofs.Message.Positions
import StructuredLog.Proofs.Migration.Declaring
import StructuredLog.Proofs.Migration.Replay

/-! # Preservation — a minted method says what its call said

    On an empty store, a call that wants a method has it minted under the name
    derived from its template (`exists_wish_of_migrate_empty`).  The method can be
    generated, with the arguments of the template as its regular ones, exactly
    when the types of the call's parameters keep their roles apart
    (`exists_plan_declare_iff`).

    The message of the method is then the template with each placeholder filled
    by the template's argument at its position, exactly when the placeholders
    lend their names to the arguments (`minted_method_keeps_message`).  A number
    lends no name, and is left as written
    (`numbered_placeholder_is_left_as_written`). -/

namespace StructuredLog

open Template Text

/-! ## Minting on an empty store -/

/-- A migration on an empty store mints the method that the call wants. -/
theorem exists_wish_of_migrate_empty {table : TypeFacts} {options : MigrationOptions}
    {call : AdHocCall} {fix : MigratedCall} (hbudget : 2 ≤ options.retryBudget)
    (h : ((call.migrate (.ofTable table) options).run Store.host .empty).1 = .ok fix) :
    ∃ wish, call.wish (.ofTable table) options = .ok wish ∧ fix.isReused = false ∧
      fix.declaration
        = wish.declare (Identifier.derive wish.roles.template) options.firstEventId := by
  let m : Migrator := ⟨table, options, call⟩
  have hempty : Store.empty.Consistent := Store.Reachable.empty.consistent
  have hresult : (m.decide Store.empty.declarations).1 = .ok fix :=
    (m.run_session hempty hbudget).2.1.symm.trans h
  cases hwish : m.wish with
  | error e =>
      rw [Migrator.decide_of_error hwish] at hresult
      exact nomatch hresult
  | ok wish =>
      rw [Migrator.decide_of_ok hwish] at hresult
      -- an empty container has no method of any name, so the first name is free
      obtain rfl := Except.ok.inj hresult
      exact ⟨wish, hwish, rfl, rfl⟩

/-! ## The minted declaration -/

/-- The types of a call's parameters keep their roles apart.  A level type that is
    also an exception type has to be made up for by an exception whose type is
    also a level type; and unless there is an exception, no argument of the
    template has an exception type. -/
structure AdHocCall.KeepsRoles (call : AdHocCall) (table : TypeFacts) (roles : CallRoles) :
    Prop where
  level : roles.levelIndex?.isSome = true → ∀ type, table.canonical? .level = some type →
    table.isAssignable type .exception = true →
      roles.exception?.isSome = true ∧
        ∀ other, table.canonical? .exception = some other → table.isAssignable other .level = true
  template : roles.exception?.isSome = false →
    ∀ a ∈ call.templateArguments roles, ∀ type, a.type? = some type →
      table.isAssignable type .exception = false

section Minted

variable {table : TypeFacts} {options : MigrationOptions} {generator : GeneratorOptions}
  {call : AdHocCall} {roles : CallRoles} {s : SortedParameters}

/-- The roles of a call are kept apart when those of its parameters are. -/
theorem keepsRoles_iff_tellsApart (hs : s.Serves (.ofTable table) options call roles) :
    call.KeepsRoles table roles ↔ s.TellsApart table.system := by
  constructor
  · intro h
    constructor
    · intro l hl hswapped
      obtain ⟨hsought, type, htype, rfl⟩ := hs.of_mem_level hl
      obtain ⟨hthere, hother⟩ := h.level hsought type htype hswapped
      rcases hs.exception with ⟨habsent, -⟩ | ⟨-, other, htype', hsome'⟩
      · rw [hthere] at habsent
        exact nomatch habsent
      · refine ⟨{ name := Identifier.exceptionParameter, type := other }, ?_, hother other htype'⟩
        rw [hsome']
        exact List.mem_singleton_self _
    · intro hnone p hp
      rcases hs.exception with ⟨habsent, -⟩ | ⟨-, other, -, hsome⟩
      · obtain ⟨a, ha, htype⟩ := hs.exists_argument hp
        exact h.template habsent a ha p.type htype
      · rw [hnone] at hsome
        exact nomatch hsome
  · intro h
    constructor
    · intro hsought type htype hswapped
      rcases hs.level with ⟨hconstant, -⟩ | ⟨-, type', htype', hsome⟩
      · rw [hsought] at hconstant
        exact nomatch hconstant
      obtain rfl := Option.some.inj (htype.symm.trans htype')
      have hl : { name := Identifier.levelParameter, type } ∈ s.level := by
        rw [hsome]
        exact List.mem_singleton_self _
      obtain ⟨e, he, hlevel⟩ := h.level _ hl hswapped
      obtain ⟨hthere, other, hother, rfl⟩ := hs.of_mem_exception he
      refine ⟨hthere, ?_⟩
      intro other' hother'
      obtain rfl := Option.some.inj (hother.symm.trans hother')
      exact hlevel
    · intro habsent a ha type htype
      rcases hs.exception with ⟨-, hnone⟩ | ⟨hthere, -⟩
      · obtain ⟨p, hp, htype'⟩ := hs.exists_parameter ha
        obtain rfl := Option.some.inj (htype.symm.trans htype')
        exact h.regular hnone p hp
      · rw [habsent] at hthere
        exact nomatch hthere

variable {name : String}

theorem regular_of_plan?_declare (htable : table.Reachable)
    (hs : s.Serves (.ofTable table) options call roles) (hapart : s.TellsApart table.system)
    {eventId : Int32} {plan : MethodPlan}
    (hplan : (((MethodWish.mk roles s.all).declare name eventId).generate table.system
      generator).plan? = some plan) :
    plan.statement.regular = s.regular.map (·.inRole .regular) := by
  rw [Statement.regular, Declaration.arguments_of_plan? hplan]
  exact (hapart.regularArguments_all (hasRoleTypes_of_serves htable hs)).1

/-- **A minted declaration keeps its arguments**: it has a plan whose regular
    arguments are named as those of the template are, exactly when the roles are
    kept apart. -/
theorem exists_plan_declare_iff (htable : table.Reachable)
    (hs : s.Serves (.ofTable table) {} call roles)
    (hname : Identifier.startsReserved '_' name = false) (eventId : Int32) :
    (∃ plan, (((MethodWish.mk roles s.all).declare name eventId).generate table.system {}).plan?
          = some plan ∧
        plan.statement.regular.map Argument.name = s.regular.map Parameter.name) ↔
      s.TellsApart table.system := by
  have htypes := hasRoleTypes_of_serves htable hs
  constructor
  · rintro ⟨plan, hplan, hregular⟩
    rw [Statement.regular, Declaration.arguments_of_plan? hplan] at hregular
    refine SortedParameters.tellsApart_of_regularArguments htypes ?_ hregular ?_
    · intro e he hmem
      obtain ⟨-, type, -, rfl⟩ := hs.of_mem_exception he
      rw [hs.names] at hmem
      exact Identifier.not_mem_specialNames_of_mem_parameterNames hmem
        (show Identifier.exceptionParameter ∈ Identifier.specialNames by decide)
    · intro hsought
      rcases (exists_plan_iff_isSound.mp ⟨plan, hplan⟩).level with hsome | hfound
      · exact absurd (Option.isNone_iff_eq_none.mp hsought) (Option.isSome_iff_ne_none.mp hsome)
      · exact hfound
  · intro hapart
    have hfound := (hapart.regularArguments_all (hasRoleTypes_of_serves htable hs)).2
    have hsound : ((MethodWish.mk roles s.all).declare name eventId).IsSound table.system {} :=
      isSound_declare htable hs rfl rfl hfound hname eventId
    obtain ⟨plan, hplan⟩ := exists_plan_iff_isSound.mpr hsound
    refine ⟨plan, hplan, ?_⟩
    rw [regular_of_plan?_declare htable hs hapart hplan, List.map_map]
    rfl

end Minted

/-! ## The message -/

/-- The placeholders lend their names: each argument of the template is named like
    its placeholder, and either no two placeholders are equal up to ASCII case, or
    the arguments go by position, since the level is constant and they are at
    most six. -/
def AdHocCall.LendsNames (call : AdHocCall) (roles : CallRoles) : Prop :=
  List.Forall₂ (fun name q => sameFolded name q = true) (call.templateNames {} roles)
      (names roles.template) ∧
    (roles.constantLevel?.isSome = true ∧ (names roles.template).length ≤ 6 ∨
      ((names roles.template).map folded).Nodup)

/-- Placeholders that are different good names in any case lend them. -/
theorem AdHocCall.lendsNames_of_canName {call : AdHocCall} {roles : CallRoles}
    (hcount : (call.templateArguments roles).length = (names roles.template).length)
    (hgood : ∀ q ∈ names roles.template, Identifier.CanName '_' q)
    (hdistinct : ((names roles.template).map folded).Nodup) : call.LendsNames roles := by
  have hnames : call.templateNames {} roles = names roles.template := by
    rw [templateNames, hcount]
    exact Identifier.parameterNames_eq_self hgood hdistinct.of_map
  refine ⟨?_, .inr hdistinct⟩
  rw [hnames]
  exact List.forall₂_same.mpr fun q _ => sameFolded_self q

/-- A method of given names fills each placeholder from the argument at its position
    exactly when the placeholders lend their names. -/
theorem source?_eq_position_iff_lendsNames {system : TypeSystem} {call : AdHocCall}
    {wish : MethodWish} {name : String} {eventId : Int32} {plan : MethodPlan}
    (hplan : ((wish.declare name eventId).generate system {}).plan? = some plan)
    (hnames : plan.statement.regular.map Argument.name = call.templateNames {} wish.roles)
    (hcount : (placeholders wish.roles.template).length = plan.statement.regular.length) :
    (∀ p ∈ placeholders wish.roles.template, plan.source? p = some p.position) ↔
      call.LendsNames wish.roles := by
  have hplaceholders : plan.statement.placeholders = names wish.roles.template :=
    Declaration.placeholders_of_plan? hplan
  have hlines : plan.statement.linesUp = true ↔
      List.Forall₂ (fun name q => sameFolded name q = true) (call.templateNames {} wish.roles)
        (names wish.roles.template) := by
    rw [Statement.linesUp_iff_forall₂, hnames, hplaceholders]
  -- a payload is by position when the arguments line up, are few, and the level is constant
  have hpositional (h : plan.statement.linesUp = true) :
      (∃ types, plan.payload = .positional types) ↔
        wish.roles.constantLevel?.isSome = true ∧ (names wish.roles.template).length ≤ 6 := by
    rw [Declaration.exists_positional_iff hplan, and_iff_left h, length_names, hcount]
    exact and_comm
  rw [AdHocCall.LendsNames, ← hlines]
  refine (source?_eq_position_iff hplan hcount).trans (and_congr_right ?_)
  intro h
  rw [hpositional h, Statement.hasDistinctNames_iff_of_linesUp h, hplaceholders]

/-- What is minted on an empty store: a method with parameters that serve the call. -/
theorem exists_serves_of_minted {table : TypeFacts} {call : AdHocCall} {roles : CallRoles}
    {fix : MigratedCall} (hroles : call.roles (.ofTable table) = .ok roles)
    (hfix : ((call.migrate (.ofTable table) {}).run Store.host .empty).1 = .ok fix) :
    ∃ s : SortedParameters, s.Serves (.ofTable table) {} call roles ∧
      fix.declaration
        = (MethodWish.mk roles s.all).declare (Identifier.derive roles.template) 0 := by
  obtain ⟨wish, hwish, -, hdeclaration⟩ :=
    exists_wish_of_migrate_empty (show 2 ≤ ({} : MigrationOptions).retryBudget by decide) hfix
  obtain ⟨s, hall, hs⟩ := SortedParameters.exists_serves hwish
  obtain rfl : wish.roles = roles :=
    Except.ok.inj ((AdHocCall.wish_eq_ok_iff.mp hwish).1.symm.trans hroles)
  refine ⟨s, hs, ?_⟩
  rw [hdeclaration, ← hall]

/-- **A minted method keeps the message** exactly when its types keep the roles apart
    and the placeholders lend their names.  On an empty store, and with one
    placeholder for each argument of the template, the minted method can be
    generated with the arguments of the template as its regular ones exactly when
    the roles are kept apart.  It then renders the template, and fills each
    placeholder from the argument at its position exactly when the placeholders
    lend their names; if not, some placeholder is filled from elsewhere, or not
    at all.  The message has a text where the widths that are asked for are
    served or ignored. -/
theorem minted_method_keeps_message {table : TypeFacts} {call : AdHocCall} {roles : CallRoles}
    {fix : MigratedCall} (htable : table.Reachable)
    (hroles : call.roles (.ofTable table) = .ok roles)
    (hfix : ((call.migrate (.ofTable table) {}).run Store.host .empty).1 = .ok fix)
    (hcount : (call.templateArguments roles).length = (placeholders roles.template).length) :
    ((∃ plan, (fix.declaration.generate table.system {}).plan? = some plan ∧
        plan.statement.regular.map Argument.name = call.templateNames {} roles) ↔
      call.KeepsRoles table roles) ∧
    ∀ plan, (fix.declaration.generate table.system {}).plan? = some plan →
      plan.statement.regular.map Argument.name = call.templateNames {} roles →
        List.Forall₂ (fun (a : CallArgument) (b : Argument) => a.type? = some b.type)
          (call.templateArguments roles) plan.statement.regular ∧
        ((∀ p ∈ placeholders roles.template, plan.source? p = some p.position) ↔
          call.LendsNames roles) ∧
        ∀ values : List Value, values.length = (call.templateArguments roles).length →
          plan.render values
              = .ok (renderSegments (plan.filling? values) (segments roles.template)) ∧
            ((∀ p ∈ placeholders roles.template, (plan.filling? values p).isSome = true →
                ∀ n, p.AsksFor n → n.natAbs ≤ 65535 ∨ 1000000 ≤ n.natAbs) →
              ∃ text, plan.render values = .ok (.ok text)) ∧
            (call.LendsNames roles → ∀ p ∈ placeholders roles.template, ∃ a v,
              plan.statement.regular[p.position]? = some a ∧ values[p.position]? = some v ∧
                plan.filling? values p
                  = some (plan.payload.shown table.system a.type v).render) := by
  obtain ⟨s, hs, hdeclaration⟩ := exists_serves_of_minted hroles hfix
  have hfree := Identifier.startsReserved_derive roles.template
  have happly := exists_plan_declare_iff htable hs hfree 0
  rw [hdeclaration]
  rw [hs.names] at happly
  refine ⟨happly.trans (keepsRoles_iff_tellsApart hs).symm, ?_⟩
  intro plan hplan hnames
  have hregular := regular_of_plan?_declare htable hs (happly.mp ⟨plan, hplan, hnames⟩) hplan
  have htypes : List.Forall₂ (fun (a : CallArgument) (b : Argument) => a.type? = some b.type)
      (call.templateArguments roles) plan.statement.regular := by
    rw [hregular, List.forall₂_map_right_iff]
    exact hs.types
  have hlength := htypes.length_eq
  have hpositions : (placeholders roles.template).length = plan.statement.regular.length := by
    rw [← hcount, hlength]
  have hlends := source?_eq_position_iff_lendsNames hplan hnames hpositions
  refine ⟨htypes, hlends, ?_⟩
  intro values hvalues
  refine ⟨?_, ?_, ?_⟩
  · exact render_of_plan? (Nat.le_refl 6) hplan (hvalues.trans hlength)
  · exact exists_text_of_plan? (Nat.le_refl 6) hplan (hvalues.trans hlength)
  · intro h p hp
    exact filling?_of_source?_eq_position hplan (hvalues.trans hlength) hpositions hp
      (hlends.mpr h p hp)

/-- A call that logs its argument by number. -/
def numbered : AdHocCall where
  method := "LogInformation"
  receiver := { text := "_logger", type? := some "ILogger" }
  arguments := [.ofText "\x7b0\x7d", { text := "x", type? := some "int" }]

/-- The method that is minted for it. -/
def numberedMethod : Declaration where
  name := "LogMessage"
  parameters := [{ name := "logger", type := "ILogger" }, { name := "arg0", type := "int" }]
  marking := { eventId := 0, level? := some .information, message := "\x7b0\x7d" }

/-- A number is no name: the argument has another one, and its placeholder is left
    as written. -/
theorem numbered_placeholder_is_left_as_written :
    ((numbered.migrate (.ofTable .conventional) {}).run Store.host .empty).1.map
        (fun fix => (fix.declaration, fix.isReused)) = .ok (numberedMethod, false) ∧
      (placeholders numberedMethod.marking.message).length = 1 ∧
      (numberedMethod.generate TypeFacts.conventional.system {}).plan?.map
        (fun plan => (plan.statement.regular.map Argument.name, plan.render [.int 7]))
          = some (["arg0"], .ok (.ok "\x7b0\x7d")) := by
  decide +kernel

/-- A call with a level, an exception, and two named placeholders. -/
def greeting : AdHocCall where
  method := "Log"
  receiver := { text := "_logger", type? := some "ILogger" }
  arguments :=
    [{ text := "level", type? := some "LogLevel" }, { text := "e", type? := some "Exception" },
      .ofText "Hi \x7bUser\x7d, \x7bcount,4\x7d", { text := "user", type? := some "string" },
      { text := "n", type? := some "int" }]

/-- The roles of its arguments. -/
def greetingRoles : CallRoles :=
  ⟨.argument 0, none, some 1, "Hi \x7bUser\x7d, \x7bcount,4\x7d", 2⟩

/-- The method that is minted for it. -/
def greetingMethod : Declaration where
  name := "HiUserCount4"
  parameters :=
    [{ name := "logger", type := "ILogger" }, { name := "level", type := "LogLevel" },
      { name := "exception", type := "Exception" }, { name := "User", type := "string" },
      { name := "count", type := "int" }]
  marking :=
    { eventId := 0, level? := none, message := "Hi \x7bUser\x7d, \x7bcount,4\x7d" }

/-- The greeting's method is generated, and fills each placeholder from its own position. -/
theorem minted_method_keeps_message_greeting :
    TypeFacts.conventional.Reachable ∧
      greeting.roles (.ofTable .conventional) = .ok greetingRoles ∧
      ((greeting.migrate (.ofTable .conventional) {}).run Store.host .empty).1
        = .ok (greeting.fix {} greetingRoles .nowhere greetingMethod false) ∧
      (greeting.templateArguments greetingRoles).length
        = (placeholders greetingRoles.template).length ∧
      ∃ plan, (greetingMethod.generate TypeFacts.conventional.system {}).plan? = some plan ∧
        ∀ p ∈ placeholders greetingRoles.template, plan.source? p = some p.position := by
  have hreachable := TypeFacts.reachable_conventional
  have hroles : greeting.roles (.ofTable .conventional) = .ok greetingRoles := by
    decide +kernel
  have hfix : ((greeting.migrate (.ofTable .conventional) {}).run Store.host .empty).1
      = .ok (greeting.fix {} greetingRoles .nowhere greetingMethod false) := by
    decide +kernel
  have hcount : (greeting.templateArguments greetingRoles).length
      = (placeholders greetingRoles.template).length := by
    decide +kernel
  have hkeeps : greeting.KeepsRoles .conventional greetingRoles := by
    refine ⟨?_, fun habsent => nomatch habsent⟩
    intro _ type htype hswapped
    obtain rfl := Option.some.inj htype
    exact absurd hswapped (by decide)
  have hlends : greeting.LendsNames greetingRoles :=
    AdHocCall.lendsNames_of_canName (by rw [hcount, length_names]) (by decide +kernel)
      (by decide +kernel)
  obtain ⟨hplans, hmessages⟩ := minted_method_keeps_message hreachable hroles hfix hcount
  obtain ⟨plan, hplan, hnames⟩ := hplans.mpr hkeeps
  obtain ⟨-, hsources, -⟩ := hmessages plan hplan hnames
  exact ⟨hreachable, hroles, hfix, hcount, plan, hplan, hsources.mpr hlends⟩

end StructuredLog
