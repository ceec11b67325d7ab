import StructuredLog.Proofs.HostType.Canonical
import StructuredLog.Proofs.Identifier.Naming
import StructuredLog.Proofs.Migration.Wish
import StructuredLog.Proofs.Statement.Roles

/-! # Parameters — what a wished method is declared with

    A wish has the logger's parameter, then that of the level if the level is an
    argument, then that of the exception if there is one, and then one for each
    argument of the template, under the names that the placeholders lend
    (`SortedParameters.exists_serves`).

    The generator sorts parameters by their types alone.  It finds the regular
    ones again exactly when their types tell them from the others: a level of
    an exception type has to leave an exception that can pass for a level, and
    without an exception no argument of the template may have an exception type
    (`SortedParameters.TellsApart.regularArguments_all`,
    `SortedParameters.tellsApart_of_regularArguments`). -/

namespace StructuredLog

namespace AdHocCall

variable {model : HostModel} {options : MigrationOptions} {call : AdHocCall}

/-- A parameter of a known type can be declared exactly if the host has a canonical type for it. -/
theorem knownParameter_eq_ok_iff {name : String} {known : KnownType} {p : Parameter} :
    knownParameter model name known = .ok p ↔
      ∃ type, model.canonical? known = some type ∧ p = { name, type } := by
  rw [knownParameter]
  cases htype : model.canonical? known with
  | none =>
      constructor
      · intro h
        injection h
      · rintro ⟨type, h, -⟩
        injection h
  | some type =>
      constructor
      · intro h
        exact ⟨type, rfl, (Except.ok.inj h).symm⟩
      · rintro ⟨type', h, rfl⟩
        rw [Option.some.inj h]

/-- An optional parameter is left out where it is absent, and otherwise of the canonical type. -/
theorem optionalParameter_eq_ok {isPresent : Bool} {name : String} {known : KnownType}
    {ps : List Parameter} (h : optionalParameter model isPresent name known = .ok ps) :
    isPresent = false ∧ ps = [] ∨
      isPresent = true ∧ ∃ type, model.canonical? known = some type ∧ ps = [{ name, type }] := by
  cases isPresent with
  | false => exact .inl ⟨rfl, (Except.ok.inj h).symm⟩
  | true =>
      refine .inr ⟨rfl, ?_⟩
      rw [optionalParameter] at h
      rw [if_pos rfl] at h
      cases hp : knownParameter model name known with
      | error e =>
          rw [hp] at h
          exact nomatch h
      | ok p =>
          rw [hp] at h
          obtain ⟨type, htype, rfl⟩ := knownParameter_eq_ok_iff.mp hp
          exact ⟨type, htype, (Except.ok.inj h).symm⟩

theorem of_mem_optional {isPresent : Bool} {name : String} {known : KnownType} {ps : List Parameter}
    (h : isPresent = false ∧ ps = [] ∨
      isPresent = true ∧ ∃ type, model.canonical? known = some type ∧ ps = [{ name, type }])
    {p : Parameter} (hp : p ∈ ps) :
    isPresent = true ∧ ∃ type, model.canonical? known = some type ∧ p = { name, type } := by
  rcases h with ⟨-, rfl⟩ | ⟨hpresent, type, htype, rfl⟩
  · exact absurd hp List.not_mem_nil
  · exact ⟨hpresent, type, htype, List.mem_singleton.mp hp⟩

/-- The special parameters are the logger, then the level and the exception where the call has
    them. -/
theorem specialParameters_eq_ok {roles : CallRoles} {ps : List Parameter}
    (h : specialParameters model roles = .ok ps) :
    ∃ type level exception, model.canonical? .logger = some type ∧
      optionalParameter model roles.levelIndex?.isSome Identifier.levelParameter .level
        = .ok level ∧
      optionalParameter model roles.exception?.isSome Identifier.exceptionParameter .exception
        = .ok exception ∧
      ps = { name := Identifier.loggerParameter, type } :: (level ++ exception) := by
  obtain ⟨logger, hlogger, h⟩ := bind_eq_ok_iff.mp h
  obtain ⟨level, hlevel, h⟩ := bind_eq_ok_iff.mp h
  obtain ⟨exception, hexception, h⟩ := bind_eq_ok_iff.mp h
  obtain ⟨type, htype, rfl⟩ := knownParameter_eq_ok_iff.mp hlogger
  exact ⟨type, level, exception, htype, hlevel, hexception, (Except.ok.inj h).symm⟩

/-- The parameter of an argument has the argument's type, and is there exactly if that is known. -/
theorem templateParameter_eq_ok_iff {a : CallArgument} {name : String} {p : Parameter} :
    templateParameter model a name = .ok p ↔
      ∃ type, model.typeOf? a = some type ∧ p = { name, type } := by
  rw [templateParameter]
  cases htype : model.typeOf? a with
  | none =>
      constructor
      · intro h
        injection h
      · rintro ⟨type, h, -⟩
        injection h
  | some type =>
      constructor
      · intro h
        exact ⟨type, rfl, (Except.ok.inj h).symm⟩
      · rintro ⟨type', h, rfl⟩
        rw [Option.some.inj h]

theorem length_templateNames (call : AdHocCall) (options : MigrationOptions)
    (roles : CallRoles) :
    (call.templateNames options roles).length = (call.templateArguments roles).length :=
  Identifier.length_parameterNamesFrom _ _ _ _ _

/-- The parameters for arguments of the template have their types, and are passed
    by value under the given names. -/
theorem of_forall₂_templateParameter {as : List CallArgument} {names : List String}
    {ps : List Parameter} (hlength : names.length = as.length)
    (h : List.Forall₂ (fun (a : CallArgument × String) p => templateParameter model a.1 a.2 = .ok p)
      (as.zip names) ps) :
    ps.map Parameter.name = names ∧ (∀ p ∈ ps, p.mode = .value) ∧
      List.Forall₂ (fun a p => model.typeOf? a = some p.type) as ps := by
  induction as generalizing names ps with
  | nil =>
      obtain rfl := List.length_eq_zero_iff.mp hlength
      cases h
      exact ⟨rfl, fun _ hp => (nomatch hp), .nil⟩
  | cons a as ih =>
      cases names with
      | nil => exact nomatch hlength
      | cons name names =>
          rw [List.zip_cons_cons, List.forall₂_cons_left_iff] at h
          obtain ⟨p, ps, hp, hps, rfl⟩ := h
          obtain ⟨type, htype, rfl⟩ := templateParameter_eq_ok_iff.mp hp
          obtain ⟨hnames, hmodes, htypes⟩ := ih (Nat.succ.inj hlength) hps
          -- one parameter more, by its name, its mode and its type
          exact ⟨congrArg _ hnames, List.forall_mem_cons.mpr ⟨rfl, hmodes⟩, .cons htype htypes⟩

end AdHocCall

/-! ## Sorted parameters -/

/-- Parameters sorted by what they are for. -/
structure SortedParameters where
  logger : Parameter
  level : List Parameter
  exception : List Parameter
  regular : List Parameter

namespace SortedParameters

/-- The parameters in the order of declaration. -/
def all (s : SortedParameters) : List Parameter :=
  s.logger :: (s.level ++ s.exception ++ s.regular)

/-- The parameters serve a call whose arguments have the given roles. -/
structure Serves (s : SortedParameters) (model : HostModel) (options : MigrationOptions)
    (call : AdHocCall) (roles : CallRoles) : Prop where
  logger : ∃ type, model.canonical? .logger = some type ∧
    s.logger = { name := Identifier.loggerParameter, type }
  level : roles.levelIndex?.isSome = false ∧ s.level = [] ∨
    roles.levelIndex?.isSome = true ∧ ∃ type, model.canonical? .level = some type ∧
      s.level = [{ name := Identifier.levelParameter, type }]
  exception : roles.exception?.isSome = false ∧ s.exception = [] ∨
    roles.exception?.isSome = true ∧ ∃ type, model.canonical? .exception = some type ∧
      s.exception = [{ name := Identifier.exceptionParameter, type }]
  names : s.regular.map Parameter.name = call.templateNames options roles
  modes : ∀ p ∈ s.regular, p.mode = .value
  types : List.Forall₂ (fun a p => model.typeOf? a = some p.type) (call.templateArguments roles)
    s.regular

/-- **The parameters of a wish serve its call.** -/
theorem exists_serves {model : HostModel} {options : MigrationOptions} {call : AdHocCall}
    {wish : MethodWish} (h : call.wish model options = .ok wish) :
    ∃ s : SortedParameters, wish.parameters = s.all ∧ s.Serves model options call wish.roles := by
  obtain ⟨-, special, regular, hspecial, hregular, hparameters⟩ := AdHocCall.wish_eq_ok_iff.mp h
  obtain ⟨type, level, exception, htype, hlevel, hexception, rfl⟩ :=
    AdHocCall.specialParameters_eq_ok hspecial
  obtain ⟨hnames, hmodes, htypes⟩ := AdHocCall.of_forall₂_templateParameter
    (call.length_templateNames options wish.roles) hregular
  exact ⟨⟨_, level, exception, regular⟩, hparameters, ⟨type, htype, rfl⟩,
    AdHocCall.optionalParameter_eq_ok hlevel, AdHocCall.optionalParameter_eq_ok hexception,
    hnames, hmodes, htypes⟩

/-- The parameter of a level is there for a level argument. -/
theorem Serves.of_mem_level {s : SortedParameters} {model : HostModel}
    {options : MigrationOptions} {call : AdHocCall} {roles : CallRoles}
    (hs : s.Serves model options call roles) {p : Parameter} (hp : p ∈ s.level) :
    roles.levelIndex?.isSome = true ∧ ∃ type, model.canonical? .level = some type ∧
      p = { name := Identifier.levelParameter, type } :=
  AdHocCall.of_mem_optional hs.level hp

/-- The parameter of an exception is there for an exception. -/
theorem Serves.of_mem_exception {s : SortedParameters} {model : HostModel}
    {options : MigrationOptions} {call : AdHocCall} {roles : CallRoles}
    (hs : s.Serves model options call roles) {p : Parameter} (hp : p ∈ s.exception) :
    roles.exception?.isSome = true ∧ ∃ type, model.canonical? .exception = some type ∧
      p = { name := Identifier.exceptionParameter, type } :=
  AdHocCall.of_mem_optional hs.exception hp

/-- A regular parameter has the type of an argument of the template. -/
theorem Serves.exists_argument {s : SortedParameters} {model : HostModel}
    {options : MigrationOptions} {call : AdHocCall} {roles : CallRoles}
    (hs : s.Serves model options call roles) {p : Parameter} (hp : p ∈ s.regular) :
    ∃ a ∈ call.templateArguments roles, model.typeOf? a = some p.type := by
  obtain ⟨i, rfl⟩ := List.mem_iff_get.mp hp
  have hi : i < (call.templateArguments roles).length := by
    rw [hs.types.length_eq]
    exact i.2
  exact ⟨_, List.get_mem _ ⟨i, hi⟩, hs.types.get hi i.2⟩

/-- The type of an argument of the template is that of a regular parameter. -/
theorem Serves.exists_parameter {s : SortedParameters} {model : HostModel}
    {options : MigrationOptions} {call : AdHocCall} {roles : CallRoles}
    (hs : s.Serves model options call roles) {a : CallArgument}
    (ha : a ∈ call.templateArguments roles) :
    ∃ p ∈ s.regular, model.typeOf? a = some p.type := by
  obtain ⟨i, rfl⟩ := List.mem_iff_get.mp ha
  have hi : i < s.regular.length := by
    rw [← hs.types.length_eq]
    exact i.2
  exact ⟨_, List.get_mem _ ⟨i, hi⟩, hs.types.get i.2 hi⟩

/-! ## Roles by type -/

variable {s : SortedParameters} {system : TypeSystem} {level? : Option Level}

/-- There is a level exactly when one is looked for, and the special parameters
    have the types of their roles. -/
structure HasRoleTypes (s : SortedParameters) (system : TypeSystem) (level? : Option Level) :
    Prop where
  level : level?.isNone = false ∧ s.level = [] ∨
    level?.isNone = true ∧ ∃ l, s.level = [l] ∧ system.assignable l.type .level = true
  exception : s.exception = [] ∨
    ∃ e, s.exception = [e] ∧ system.assignable e.type .exception = true

/-- The types tell the regular parameters from the others: a level that is taken
    for the exception leaves an exception to be taken for the level, and without
    an exception no regular parameter is taken for one. -/
structure TellsApart (s : SortedParameters) (system : TypeSystem) : Prop where
  level : ∀ l ∈ s.level, system.assignable l.type .exception = true →
    ∃ e ∈ s.exception, system.assignable e.type .level = true
  regular : s.exception = [] → ∀ p ∈ s.regular, system.assignable p.type .exception = false

theorem assignRoles_all (s : SortedParameters) (system : TypeSystem) (level? : Option Level) :
    assignRoles system level? s.all = s.logger.inRole .loggerHandle
      :: assignRolesRest system true level?.isNone (s.level ++ s.exception ++ s.regular) := rfl

/-- When no level is looked for, the exception is found and all others are regular. -/
theorem TellsApart.assignRolesRest_exception (h : s.TellsApart system)
    (htypes : s.HasRoleTypes system level?) :
    assignRolesRest system true false (s.exception ++ s.regular)
      = s.exception.map (·.inRole .exception) ++ s.regular.map (·.inRole .regular) := by
  rcases htypes.exception with hexception | ⟨e, hexception, he⟩
  · rw [hexception, List.nil_append, assignRolesRest_eq_map_regular
      (fun _ => h.regular hexception) (absurd · Bool.false_ne_true)]
    rfl
  · rw [hexception, List.singleton_append, assignRolesRest_cons_exception he,
      assignRolesRest_of_found]
    rfl

/-- Past the level, the regular arguments are the parameters that are meant to be. -/
theorem TellsApart.regularArguments_exception (h : s.TellsApart system)
    (htypes : s.HasRoleTypes system level?) :
    regularArguments (assignRolesRest system true false (s.exception ++ s.regular))
      = s.regular.map (·.inRole .regular) := by
  rw [h.assignRolesRest_exception htypes]
  rcases htypes.exception with hexception | ⟨e, hexception, -⟩
  · rw [hexception]
    exact regularArguments_map_regular s.regular
  · rw [hexception]
    exact regularArguments_map_regular s.regular

/-- **Each parameter has the role it is meant for**, if a level is no exception. -/
theorem TellsApart.assignRoles_all_eq (h : s.TellsApart system)
    (htypes : s.HasRoleTypes system level?)
    (hlevel : ∀ l ∈ s.level, system.assignable l.type .exception = false) :
    assignRoles system level? s.all
      = s.logger.inRole .loggerHandle :: (s.level.map (·.inRole .level)
          ++ s.exception.map (·.inRole .exception) ++ s.regular.map (·.inRole .regular)) := by
  rw [assignRoles_all, List.append_assoc, List.append_assoc]
  rcases htypes.level with ⟨hconstant, hnone⟩ | ⟨hsought, l, hsome, hl⟩
  · rw [hconstant, hnone, List.nil_append, h.assignRolesRest_exception htypes]
    rfl
  · have hnot := hlevel l (hsome ▸ List.mem_singleton_self l)
    rw [hsought, hsome, List.singleton_append, assignRolesRest_cons_level (fun _ => hnot) hl,
      h.assignRolesRest_exception htypes]
    rfl

/-- **Parameters that are told apart are found again**: the regular ones, and a
    level if one is looked for. -/
theorem TellsApart.regularArguments_all (h : s.TellsApart system)
    (htypes : s.HasRoleTypes system level?) :
    regularArguments (assignRoles system level? s.all) = s.regular.map (·.inRole .regular) ∧
      (level?.isNone = true → ∃ a ∈ assignRoles system level? s.all, a.role = .level) := by
  have hexception := h.regularArguments_exception htypes
  rw [assignRoles_all, regularArguments_cons_of_ne (by decide), List.append_assoc]
  rcases htypes.level with ⟨hconstant, hlevel⟩ | ⟨hsought, l, hlevel, hl⟩
  · rw [hconstant, hlevel, List.nil_append]
    exact ⟨hexception, fun hfalse => nomatch hfalse⟩
  · rw [hsought, hlevel, List.singleton_append]
    cases hswapped : system.assignable l.type .exception with
    | false =>
        rw [assignRolesRest_cons_level (fun _ => hswapped) hl,
          regularArguments_cons_of_ne (by decide)]
        exact ⟨hexception, fun _ => ⟨_, List.mem_cons_of_mem _ List.mem_cons_self, rfl⟩⟩
    | true =>
        -- the level and the exception swap their roles
        obtain ⟨e, he, hother⟩ := h.level l (hlevel ▸ List.mem_singleton_self l) hswapped
        rcases htypes.exception with hnone | ⟨e', hsome, -⟩
        · rw [hnone] at he
          exact nomatch he
        · rw [hsome] at he
          obtain rfl := List.mem_singleton.mp he
          rw [hsome, List.singleton_append, assignRolesRest_cons_exception hswapped,
            regularArguments_cons_of_ne (by decide),
            assignRolesRest_cons_level (absurd · Bool.false_ne_true) hother,
            regularArguments_cons_of_ne (by decide), assignRolesRest_of_found,
            regularArguments_map_regular]
          exact ⟨rfl, fun _ =>
            ⟨_, List.mem_cons_of_mem _ (List.mem_cons_of_mem _ List.mem_cons_self), rfl⟩⟩

/-- **Parameters that are found again are told apart**, if no regular one is named
    like the exception. -/
theorem tellsApart_of_regularArguments (htypes : s.HasRoleTypes system level?)
    (hnames : ∀ e ∈ s.exception, e.name ∉ s.regular.map Parameter.name)
    (hregular : (regularArguments (assignRoles system level? s.all)).map Argument.name
      = s.regular.map Parameter.name)
    (hfound : level?.isNone = true → ∃ a ∈ assignRoles system level? s.all, a.role = .level) :
    s.TellsApart system := by
  -- as many regular arguments as there are regular parameters
  have hcount := congrArg List.length hregular
  rw [assignRoles_all, regularArguments_cons_of_ne (by decide)] at hregular hcount
  rw [List.length_map, List.length_map] at hcount
  rw [assignRoles_all] at hfound
  rcases htypes.exception with hexception | ⟨e, hexception, he⟩
  · rw [hexception, List.append_nil] at hcount hfound
    rcases htypes.level with ⟨hconstant, hlevel⟩ | ⟨hsought, l, hlevel, hl⟩
    · rw [hconstant, hlevel, List.nil_append, length_regularArguments_eq_iff] at hcount
      refine ⟨?_, fun _ => hcount.1 rfl⟩
      intro l hl
      rw [hlevel] at hl
      exact nomatch hl
    · rw [hsought, hlevel, List.singleton_append] at hcount hfound
      cases hswapped : system.assignable l.type .exception with
      | false =>
          rw [assignRolesRest_cons_level (fun _ => hswapped) hl,
            regularArguments_cons_of_ne (by decide), length_regularArguments_eq_iff] at hcount
          refine ⟨?_, fun _ => hcount.1 rfl⟩
          intro l' hl' hswapped'
          rw [hlevel] at hl'
          rw [List.mem_singleton.mp hl', hswapped] at hswapped'
          exact nomatch hswapped'
      | true =>
          -- the level is taken for the exception, and nothing else for the level
          rw [assignRolesRest_cons_exception hswapped, regularArguments_cons_of_ne (by decide),
            length_regularArguments_eq_iff] at hcount
          obtain ⟨a, ha, hrole⟩ := hfound rfl
          rw [assignRolesRest_cons_exception hswapped,
            assignRolesRest_eq_map_regular hcount.1 hcount.2] at ha
          rcases List.mem_cons.mp ha with rfl | ha
          · exact nomatch hrole
          rcases List.mem_cons.mp ha with rfl | ha
          · exact nomatch hrole
          obtain ⟨p, -, rfl⟩ := List.mem_map.mp ha
          exact nomatch hrole
  · have he' : e ∈ s.exception := hexception ▸ List.mem_singleton_self e
    constructor
    · intro l hl hswapped
      refine ⟨e, he', ?_⟩
      rcases htypes.level with ⟨-, hlevel⟩ | ⟨hsought, l', hlevel, -⟩
      · rw [hlevel] at hl
        exact nomatch hl
      rw [hlevel] at hl
      obtain rfl := List.mem_singleton.mp hl
      cases hother : system.assignable e.type .level with
      | true => rfl
      | false =>
          -- the exception would be regular, and it is not named like a regular parameter
          rw [hsought, hlevel, hexception, List.append_assoc, List.singleton_append,
            List.singleton_append, assignRolesRest_cons_exception hswapped,
            regularArguments_cons_of_ne (by decide),
            assignRolesRest_cons_regular (absurd · Bool.false_ne_true) fun _ => hother,
            regularArguments_cons_regular, List.map_cons] at hregular
          exact absurd (hregular ▸ List.mem_cons_self) (hnames e he')
    · intro hnone
      rw [hexception] at hnone
      exact nomatch hnone

end SortedParameters

end StructuredLog
