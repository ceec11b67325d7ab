import StructuredLog.Proofs.Migration.Outcome
import StructuredLog.Proofs.Migration.Parameters

/-! # Rewriting — the new call fits the method it invokes

    The arguments of a call come in a fixed order: the level, the event id, the
    exception, the message, and the arguments of the template, of which all but
    the message may be missing (`AdHocCall.range_eq_of_roles`).  The new call
    keeps the level unless it is constant, the exception, and the arguments of
    the template, so it keeps them in order and drops exactly the others.

    The parameters of the method are worked out from the roles alone, and a
    method that is reused has the types of the one that was asked for.  So they
    agree with the arguments that are kept, one by one and after the logger
    (`AdHocCall.rewritten_call_fits`).  No store and no front end can come
    between the two. -/

namespace StructuredLog

namespace AdHocCall

variable {model : HostModel} {options : MigrationOptions} {call : AdHocCall} {roles : CallRoles}

/-! ## The order of the arguments -/

/-- The index of a constant level argument; the new call drops it. -/
def constantLevelIndex? (call : AdHocCall) (roles : CallRoles) : Option Nat :=
  if call.method = levelTakingMethod ∧ roles.constantLevel?.isSome = true then some 0 else none

/-- The arguments before the first index after the level are the level. -/
theorem range_of_levelPlace {level : LevelPlace} {next : Nat}
    (h : call.levelPlace model = .ok (level, next)) (hlevel : roles.level = level) :
    List.range next = (call.constantLevelIndex? roles).toList ++ roles.levelIndex?.toList := by
  rw [levelPlace] at h
  rw [constantLevelIndex?, CallRoles.constantLevel?, CallRoles.levelIndex?, hlevel]
  by_cases hmethod : call.method = levelTakingMethod
  · rw [if_pos hmethod] at h
    cases hfirst : call.arguments.head? with
    | none =>
        rw [hfirst] at h
        cases h
    | some first =>
        rw [hfirst] at h
        cases hconstant : first.levelConstant? with
        | some l =>
            simp only [hconstant] at h
            obtain ⟨rfl, rfl⟩ := Prod.mk.inj (Except.ok.inj h)
            rw [if_pos ⟨hmethod, rfl⟩]
            rfl
        | none =>
            simp only [hconstant] at h
            obtain ⟨isLevel, -, h⟩ := bind_eq_ok_iff.mp h
            cases isLevel with
            | false => cases h
            | true =>
                obtain ⟨rfl, rfl⟩ := Prod.mk.inj (Except.ok.inj h)
                rw [if_neg fun hconstant => absurd hconstant.2 Bool.false_ne_true]
                rfl
  · rw [if_neg hmethod] at h
    cases hlevel : Level.ofAdHocMethod? call.method with
    | none =>
        rw [hlevel] at h
        cases h
    | some l =>
        rw [hlevel] at h
        obtain ⟨rfl, rfl⟩ := Prod.mk.inj (Except.ok.inj h)
        rw [if_neg fun hconstant => hmethod hconstant.1]
        rfl

/-- An optional argument takes up the index that it is looked for at, or none. -/
theorem range_of_optionalArgument {known : KnownType} {next after : Nat} {place? : Option Nat}
    (h : call.optionalArgument model known next = .ok (place?, after)) :
    List.range after = List.range next ++ place?.toList := by
  have hmissing : List.range next = List.range next ++ (none : Option Nat).toList :=
    (List.append_nil _).symm
  rw [optionalArgument] at h
  cases ha : call.arguments[next]? with
  | none =>
      rw [ha] at h
      obtain ⟨rfl, rfl⟩ := Prod.mk.inj (Except.ok.inj h)
      exact hmissing
  | some a =>
      rw [ha] at h
      obtain ⟨isKnown, -, h⟩ := bind_eq_ok_iff.mp h
      cases isKnown with
      | false =>
          obtain ⟨rfl, rfl⟩ := Prod.mk.inj (Except.ok.inj h)
          exact hmissing
      | true =>
          obtain ⟨rfl, rfl⟩ := Prod.mk.inj (Except.ok.inj h)
          exact List.range_succ

/-- **The arguments of a call come in a fixed order.** -/
theorem range_eq_of_roles (h : call.roles model = .ok roles) :
    List.range call.arguments.length
      = (call.constantLevelIndex? roles).toList ++ roles.levelIndex?.toList
        ++ roles.eventId?.toList ++ roles.exception?.toList ++ [roles.templateIndex]
        ++ roles.templateIndices call.arguments.length := by
  obtain ⟨⟨level, afterLevel⟩, hlevel, h⟩ := bind_eq_ok_iff.mp h
  obtain ⟨⟨eventId?, afterEventId⟩, heventId, h⟩ := bind_eq_ok_iff.mp h
  obtain ⟨⟨exception?, templateIndex⟩, hexception, h⟩ := bind_eq_ok_iff.mp h
  cases hmessage : call.arguments[templateIndex]? with
  | none =>
      simp only [hmessage] at h
      exact nomatch h
  | some message =>
      simp only [hmessage] at h
      cases htemplate : message.textConstant? with
      | none =>
          simp only [htemplate] at h
          exact nomatch h
      | some template =>
          simp only [htemplate] at h
          obtain rfl := Except.ok.inj h
          have hlt : templateIndex < call.arguments.length :=
            (List.getElem?_eq_some_iff.mp hmessage).1
          rw [← range_of_levelPlace hlevel rfl, ← range_of_optionalArgument heventId,
            ← range_of_optionalArgument hexception, ← List.range_succ, CallRoles.templateIndices,
            List.range_eq_range', List.range_eq_range']
          -- the arguments of the template go on where the message stands
          have hsplit := List.range'_append_1 (s := 0) (m := templateIndex + 1)
            (n := call.arguments.length - (templateIndex + 1))
          rw [Nat.add_sub_cancel' hlt, Nat.zero_add] at hsplit
          exact hsplit.symm

/-! ## The arguments that are kept -/

theorem sublist_keptIndices (h : call.roles model = .ok roles) :
    (roles.keptIndices call.arguments.length).Sublist (List.range call.arguments.length) := by
  rw [range_eq_of_roles h]
  have hlevel := (List.sublist_append_right (call.constantLevelIndex? roles).toList
    roles.levelIndex?.toList).trans (List.sublist_append_left _ roles.eventId?.toList)
  have hexception := (hlevel.append (List.Sublist.refl roles.exception?.toList)).trans
    (List.sublist_append_left _ [roles.templateIndex])
  exact hexception.append (List.Sublist.refl _)

/-- The arguments are kept in their order. -/
theorem pairwise_keptIndices (h : call.roles model = .ok roles) :
    (roles.keptIndices call.arguments.length).Pairwise (· < ·) :=
  List.pairwise_lt_range.sublist (sublist_keptIndices h)

/-- **All arguments are kept** but a constant level, the event id, and the message. -/
theorem mem_keptIndices_iff (h : call.roles model = .ok roles) {i : Nat} :
    i ∈ roles.keptIndices call.arguments.length ↔
      i < call.arguments.length ∧ call.constantLevelIndex? roles ≠ some i ∧
        roles.eventId? ≠ some i ∧ i ≠ roles.templateIndex := by
  have hnodup := List.nodup_range (n := call.arguments.length)
  rw [← List.mem_range, CallRoles.keptIndices]
  rw [range_eq_of_roles h] at hnodup ⊢
  simp only [List.nodup_append, List.mem_append, Option.mem_toList, List.mem_singleton] at hnodup ⊢
  grind

/-- The type of the parameter for an argument that is kept: the canonical type of a
    level or an exception, and otherwise the type of the argument itself. -/
def keptType? (model : HostModel) (call : AdHocCall) (roles : CallRoles) (i : Nat) :
    Option TypeName :=
  if roles.levelIndex? = some i then model.canonical? .level
  else if roles.exception? = some i then model.canonical? .exception
  else call.arguments[i]?.bind model.typeOf?

/-- What holds along the end of a list holds along its indices. -/
theorem forall₂_range'_of_drop {α β : Type} {R : α → β → Prop} {as : List α} {bs : List β} {k : Nat}
    (h : List.Forall₂ R (as.drop k) bs) :
    List.Forall₂ (fun i b => ∃ a, as[i]? = some a ∧ R a b) (List.range' k (as.length - k)) bs := by
  rw [List.forall₂_iff_get] at h ⊢
  obtain ⟨hlength, h⟩ := h
  refine ⟨by rw [List.length_range', ← hlength, List.length_drop], ?_⟩
  intro i hi hi'
  have hab := h i (hlength ▸ hi') hi'
  rw [List.get_eq_getElem, List.getElem_drop] at hab
  refine ⟨_, ?_, hab⟩
  rw [List.get_eq_getElem, List.getElem_range', Nat.one_mul]
  exact List.getElem?_eq_getElem _

/-- **The parameters after the logger have the types of the arguments that are kept**,
    one by one. -/
theorem forall₂_keptType?_of_serves (hroles : call.roles model = .ok roles)
    {s : SortedParameters} (hs : s.Serves model options call roles) :
    List.Forall₂ (fun i (p : Parameter) => call.keptType? model roles i = some p.type)
      (roles.keptIndices call.arguments.length) (s.level ++ s.exception ++ s.regular) := by
  -- no argument is kept in two roles
  have hnodup : (roles.keptIndices call.arguments.length).Nodup :=
    (pairwise_keptIndices hroles).imp Nat.ne_of_lt
  simp only [CallRoles.keptIndices, List.nodup_append, List.mem_append, Option.mem_toList]
    at hnodup
  obtain ⟨⟨-, -, hexception⟩, -, htemplate⟩ := hnodup
  refine List.rel_append (List.rel_append ?_ ?_) ?_
  · rcases hs.level with ⟨hnone, hlevel⟩ | ⟨hsome, type, htype, hlevel⟩
    · rw [Option.isSome_eq_false_iff, Option.isNone_iff_eq_none] at hnone
      rw [hnone, hlevel]
      exact .nil
    · obtain ⟨i, hi⟩ := Option.isSome_iff_exists.mp hsome
      rw [hi, hlevel]
      refine .cons ?_ .nil
      rw [keptType?, if_pos hi]
      exact htype
  · rcases hs.exception with ⟨hnone, hexception⟩ | ⟨hsome, type, htype, hlist⟩
    · rw [Option.isSome_eq_false_iff, Option.isNone_iff_eq_none] at hnone
      rw [hnone, hexception]
      exact .nil
    · obtain ⟨i, hi⟩ := Option.isSome_iff_exists.mp hsome
      rw [hi, hlist]
      refine .cons ?_ .nil
      rw [keptType?, if_neg fun hlevel => hexception i hlevel i hi rfl, if_pos hi]
      exact htype
  · have hother : ∀ i ∈ roles.templateIndices call.arguments.length,
        roles.levelIndex? ≠ some i ∧ roles.exception? ≠ some i := fun i hi =>
      ⟨fun hlevel => htemplate i (.inl hlevel) i hi rfl,
        fun hexception => htemplate i (.inr hexception) i hi rfl⟩
    have htypes := (List.forall₂_and_left _ _).mpr ⟨hother, forall₂_range'_of_drop hs.types⟩
    refine htypes.imp ?_
    rintro i p ⟨⟨hlevel, hexception⟩, a, ha, htype⟩
    rw [keptType?, if_neg hlevel, if_neg hexception, ha]
    exact htype

/-! ## The text of the new call -/

/-- The arguments that the new call keeps. -/
def keptArguments (call : AdHocCall) (roles : CallRoles) : List CallArgument :=
  (roles.keptIndices call.arguments.length).filterMap (call.arguments[·]?)

theorem map_some_keptArguments (h : call.roles model = .ok roles) :
    (call.keptArguments roles).map some
      = (roles.keptIndices call.arguments.length).map (call.arguments[·]?) := by
  rw [keptArguments, List.map_filterMap_some_eq_filter_map_isSome]
  refine List.filter_eq_self.mpr ?_
  intro a? ha
  obtain ⟨i, hi, rfl⟩ := List.mem_map.mp ha
  exact Option.isSome_iff_exists.mpr
    ⟨_, List.getElem?_eq_getElem ((mem_keptIndices_iff h).mp hi).1⟩

theorem newCallText_eq (call : AdHocCall) (roles : CallRoles) (container method : String) :
    call.newCallText roles container method
      = container ++ "." ++ method ++ "("
        ++ ", ".intercalate (call.receiver.text :: (call.keptArguments roles).map CallArgument.text)
        ++ ")" := by
  rw [newCallText, keptArguments, List.map_filterMap]

/-! ## The new call and its method -/

/-- **The rewritten call fits the method it calls**, whether it was minted or found,
    and whatever the store and the front end answered.  The arguments are kept in
    their order, and all of them but a constant level, the event id and the
    message; the new text passes the receiver and these arguments; and the
    method has the logger and one parameter for each of them, of its type. -/
theorem rewritten_call_fits {σ : Type} {host : Host σ} {state : σ} {fix : MigratedCall}
    (h : ((call.migrate model options).run host state).1 = .ok fix) :
    ∃ (roles : CallRoles) (kept : List CallArgument) (logger : TypeName) (types : List TypeName),
      call.roles model = .ok roles ∧
      (roles.keptIndices call.arguments.length).Pairwise (· < ·) ∧
      (∀ i, i ∈ roles.keptIndices call.arguments.length ↔
        i < call.arguments.length ∧ call.constantLevelIndex? roles ≠ some i ∧
          roles.eventId? ≠ some i ∧ i ≠ roles.templateIndex) ∧
      kept.map some = (roles.keptIndices call.arguments.length).map (call.arguments[·]?) ∧
      fix.container = options.containerName ∧
      fix.replacement.replacement
        = fix.container ++ "." ++ fix.declaration.name ++ "("
          ++ ", ".intercalate (call.receiver.text :: kept.map CallArgument.text) ++ ")" ∧
      fix.declaration.parameters.length = kept.length + 1 ∧
      model.canonical? .logger = some logger ∧
      fix.declaration.parameters.map Parameter.type = logger :: types ∧
      List.Forall₂ (fun i type => call.keptType? model roles i = some type)
        (roles.keptIndices call.arguments.length) types := by
  obtain ⟨wish, span, d, isReused, hwish, rfl, hshape⟩ := exists_wish_of_migrate h
  obtain ⟨s, hall, hs⟩ := SortedParameters.exists_serves hwish
  have hroles := (wish_eq_ok_iff.mp hwish).1
  obtain ⟨logger, hcanonical, hlogger⟩ := hs.logger
  -- the shape of a method holds the types of its parameters
  have htypes : d.parameters.map Parameter.type
      = logger :: (s.level ++ s.exception ++ s.regular).map Parameter.type := by
    have hsame : d.parameters.map Parameter.type = wish.parameters.map Parameter.type :=
      congrArg Shape.types hshape
    rw [hsame, hall, SortedParameters.all, List.map_cons, hlogger]
  have hkept := map_some_keptArguments hroles
  have hparameters := forall₂_keptType?_of_serves hroles hs
  refine ⟨wish.roles, call.keptArguments wish.roles, logger, _, hroles,
    pairwise_keptIndices hroles, fun i => mem_keptIndices_iff hroles, hkept, rfl,
    newCallText_eq _ _ _ _, ?_, hcanonical, htypes, List.forall₂_map_right_iff.mpr hparameters⟩
  have hcount := congrArg List.length hkept
  have hlength := congrArg List.length htypes
  rw [List.length_map, List.length_map] at hcount
  rw [List.length_map, List.length_cons, List.length_map, ← hparameters.length_eq,
    ← hcount] at hlength
  exact hlength

/-- A call with every argument that a call can have. -/
def departure : AdHocCall where
  method := "Log"
  receiver := { text := "_logger", type? := some "ILogger" }
  arguments :=
    [{ text := "level", type? := some "LogLevel" }, { text := "id", type? := some "EventId" },
      { text := "e", type? := some "Exception" }, .ofText "Bye \x7bUser\x7d",
      { text := "user", type? := some "string" }]

/-- The method that it calls in the end. -/
def departureMethod : Declaration where
  name := "ByeUser"
  parameters :=
    [{ name := "logger", type := "ILogger" }, { name := "level", type := "LogLevel" },
      { name := "exception", type := "Exception" }, { name := "User", type := "string" }]
  marking := { eventId := 0, level? := none, message := "Bye \x7bUser\x7d" }

/-- A store that has the method already. -/
def departureStore : Store :=
  Store.empty.insert "Log" [departureMethod]

/-- The departure reuses the method that is there, in the order of its parameters. -/
theorem rewritten_call_fits_departure :
    ∃ fix, ((departure.migrate (.ofTable .conventional) {}).run Store.host departureStore).1
        = .ok fix ∧ fix.isReused = true ∧ fix.declaration = departureMethod ∧
      ∃ (roles : CallRoles) (kept : List CallArgument),
        departure.roles (.ofTable .conventional) = .ok roles ∧
        kept.map some = (roles.keptIndices 5).map (departure.arguments[·]?) ∧
        fix.replacement.replacement
          = "Log.ByeUser(" ++ ", ".intercalate ("_logger" :: kept.map CallArgument.text) ++ ")" := by
  have hfix : ((departure.migrate (.ofTable .conventional) {}).run Store.host departureStore).1
      = .ok (departure.fix {} ⟨.argument 0, some 1, some 2, "Bye \x7bUser\x7d", 3⟩ .nowhere
          departureMethod true) := by
    decide +kernel
  obtain ⟨roles, kept, _, _, hroles, -, -, hkept, -, htext, -⟩ := rewritten_call_fits hfix
  exact ⟨_, hfix, rfl, rfl, roles, kept, hroles, hkept, htext⟩

end AdHocCall

end StructuredLog
