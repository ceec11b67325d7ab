import Mathlib.Data.List.Forall2
import StructuredLog.Migration.Call

/-! # Wishes — the method that a call asks for

    A wish is worked out before any request is made.  It takes its level and
    template from the roles of the call's arguments and has one parameter for
    each special role and one for each argument of the template
    (`wish_eq_ok_iff`).  If there is none, the reason lies in the call itself
    (`liesInCall_of_wish_eq_error`). -/

namespace StructuredLog

/-! ## Opening `Except` -/

section Except

variable {ε α β : Type} {e : ε}

/-- A computation in two steps succeeds exactly if both steps do. -/
theorem bind_eq_ok_iff {x : Except ε α} {f : α → Except ε β} {b : β} :
    (x >>= f) = .ok b ↔ ∃ a, x = .ok a ∧ f a = .ok b := by
  cases x with
  | error e =>
      constructor
      · intro h
        exact nomatch h
      · rintro ⟨_, ha, _⟩
        exact nomatch ha
  | ok a =>
      constructor
      · intro h
        exact ⟨a, rfl, h⟩
      · rintro ⟨a', ha, h⟩
        obtain rfl := Except.ok.inj ha
        exact h

/-- A computation in two steps fails in the first one, or in the second one after it. -/
theorem bind_eq_error_iff {x : Except ε α} {f : α → Except ε β} :
    (x >>= f) = .error e ↔ x = .error e ∨ ∃ a, x = .ok a ∧ f a = .error e := by
  cases x with
  | error e' =>
      constructor
      · intro h
        exact .inl (congrArg Except.error (Except.error.inj h))
      · rintro (h | ⟨_, ha, _⟩)
        · exact congrArg Except.error (Except.error.inj h)
        · exact nomatch ha
  | ok a =>
      constructor
      · intro h
        exact .inr ⟨a, rfl, h⟩
      · rintro (h | ⟨a', ha, h⟩)
        · exact nomatch h
        · obtain rfl := Except.ok.inj ha
          exact h

theorem map_eq_error_iff {x : Except ε α} {f : α → β} : x.map f = .error e ↔ x = .error e := by
  cases x with
  | error e' =>
      constructor
      · intro h
        exact congrArg Except.error (Except.error.inj h)
      · intro h
        exact congrArg Except.error (Except.error.inj h)
  | ok a => exact ⟨(nomatch ·), (nomatch ·)⟩

/-- A list of computations succeeds when each of them does. -/
theorem mapM_eq_ok_iff {f : α → Except ε β} {as : List α} {bs : List β} :
    as.mapM f = .ok bs ↔ List.Forall₂ (fun a b => f a = .ok b) as bs := by
  induction as generalizing bs with
  | nil =>
      rw [List.mapM_nil, List.forall₂_nil_left_iff]
      exact ⟨fun h => (Except.ok.inj h).symm, fun h => congrArg Except.ok h.symm⟩
  | cons a as ih =>
      rw [List.mapM_cons, bind_eq_ok_iff, List.forall₂_cons_left_iff]
      constructor
      · rintro ⟨b, hb, h⟩
        obtain ⟨bs', hbs, h⟩ := bind_eq_ok_iff.mp h
        exact ⟨b, bs', hb, ih.mp hbs, (Except.ok.inj h).symm⟩
      · rintro ⟨b, bs', hb, hbs, rfl⟩
        exact ⟨b, hb, bind_eq_ok_iff.mpr ⟨bs', ih.mpr hbs, rfl⟩⟩

/-- A list of computations fails with the error of one of them. -/
theorem exists_of_mapM_eq_error {f : α → Except ε β} {as : List α} (h : as.mapM f = .error e) :
    ∃ a ∈ as, f a = .error e := by
  induction as with
  | nil => exact nomatch h
  | cons a as ih =>
      rw [List.mapM_cons, bind_eq_error_iff] at h
      rcases h with h | ⟨b, -, h⟩
      · exact ⟨a, List.mem_cons_self, h⟩
      · rcases bind_eq_error_iff.mp h with h | ⟨bs, -, h⟩
        · obtain ⟨a', ha', h⟩ := ih h
          exact ⟨a', List.mem_cons_of_mem a ha', h⟩
        · exact nomatch h

end Except

/-- The reason lies in the call: it is found before any request is made. -/
def MigrationFailure.liesInCall : MigrationFailure → Bool
  | .notALoggingCall _ | .missingArgument _ | .nonConstantTemplate | .typeUnavailable _ => true
  | .syntaxLost | .nonMonotonic _ _ | .eventIdsExhausted _ | .retryBudgetExhausted _ _ | .store _ =>
    false

namespace AdHocCall

variable {model : HostModel} {options : MigrationOptions} {call : AdHocCall}
  {e : MigrationFailure}

/-! ## Failing before any request -/

/-- Asking for the type of an argument fails only for a reason that lies in the call. -/
theorem liesInCall_of_isA_eq_error {known : KnownType} {a : CallArgument}
    (h : isA model known a = .error e) : e.liesInCall = true := by
  rw [isA] at h
  by_cases htext : a.textConstant?.isSome = true
  · rw [if_pos htext] at h
    exact nomatch h
  · rw [if_neg htext] at h
    cases htype : model.typeOf? a with
    | some type =>
        rw [htype] at h
        exact nomatch h
    | none =>
        rw [htype] at h
        obtain rfl := Except.error.inj h
        rfl

theorem liesInCall_of_optionalArgument_eq_error {known : KnownType} {next : Nat}
    (h : call.optionalArgument model known next = .error e) : e.liesInCall = true := by
  rw [optionalArgument] at h
  cases ha : call.arguments[next]? with
  | none =>
      rw [ha] at h
      exact nomatch h
  | some a =>
      rw [ha] at h
      rcases bind_eq_error_iff.mp h with h | ⟨b, -, h⟩
      · exact liesInCall_of_isA_eq_error h
      · cases b <;> exact nomatch h

/-- Looking for the level of a call fails only for a reason that lies in the call. -/
theorem liesInCall_of_levelPlace_eq_error (h : call.levelPlace model = .error e) :
    e.liesInCall = true := by
  rw [levelPlace] at h
  by_cases hmethod : call.method = levelTakingMethod
  · rw [if_pos hmethod] at h
    cases hfirst : call.arguments.head? with
    | none =>
        rw [hfirst] at h
        obtain rfl := Except.error.inj h
        rfl
    | some first =>
        rw [hfirst] at h
        cases hlevel : first.levelConstant? with
        | some level =>
            simp only [hlevel] at h
            exact nomatch h
        | none =>
            simp only [hlevel] at h
            rcases bind_eq_error_iff.mp h with h | ⟨b, -, h⟩
            · exact liesInCall_of_isA_eq_error h
            · cases b with
              | true => exact nomatch h
              | false =>
                  obtain rfl := Except.error.inj h
                  rfl
  · rw [if_neg hmethod] at h
    cases hlevel : Level.ofAdHocMethod? call.method with
    | some level =>
        rw [hlevel] at h
        exact nomatch h
    | none =>
        rw [hlevel] at h
        obtain rfl := Except.error.inj h
        rfl

/-- Telling the roles of the arguments fails only for a reason that lies in the call. -/
theorem liesInCall_of_roles_eq_error (h : call.roles model = .error e) : e.liesInCall = true := by
  rcases bind_eq_error_iff.mp h with h | ⟨⟨level, afterLevel⟩, -, h⟩
  · exact liesInCall_of_levelPlace_eq_error h
  rcases bind_eq_error_iff.mp h with h | ⟨⟨eventId?, afterEventId⟩, -, h⟩
  · exact liesInCall_of_optionalArgument_eq_error h
  rcases bind_eq_error_iff.mp h with h | ⟨⟨exception?, templateIndex⟩, -, h⟩
  · exact liesInCall_of_optionalArgument_eq_error h
  cases hmessage : call.arguments[templateIndex]? with
  | none =>
      simp only [hmessage] at h
      obtain rfl := Except.error.inj h
      rfl
  | some message =>
      simp only [hmessage] at h
      cases htemplate : message.textConstant? with
      | none =>
          simp only [htemplate] at h
          obtain rfl := Except.error.inj h
          rfl
      | some template =>
          simp only [htemplate] at h
          exact nomatch h

theorem liesInCall_of_knownParameter_eq_error {name : String} {known : KnownType}
    (h : knownParameter model name known = .error e) : e.liesInCall = true := by
  rw [knownParameter] at h
  cases htype : model.canonical? known with
  | some type =>
      rw [htype] at h
      exact nomatch h
  | none =>
      rw [htype] at h
      obtain rfl := Except.error.inj h
      rfl

theorem liesInCall_of_optionalParameter_eq_error {isPresent : Bool} {name : String}
    {known : KnownType} (h : optionalParameter model isPresent name known = .error e) :
    e.liesInCall = true := by
  cases isPresent with
  | false => exact nomatch h
  | true => exact liesInCall_of_knownParameter_eq_error (map_eq_error_iff.mp h)

theorem liesInCall_of_specialParameters_eq_error {roles : CallRoles}
    (h : specialParameters model roles = .error e) : e.liesInCall = true := by
  rcases bind_eq_error_iff.mp h with h | ⟨_, -, h⟩
  · exact liesInCall_of_knownParameter_eq_error h
  rcases bind_eq_error_iff.mp h with h | ⟨_, -, h⟩
  · exact liesInCall_of_optionalParameter_eq_error h
  rcases bind_eq_error_iff.mp h with h | ⟨_, -, h⟩
  · exact liesInCall_of_optionalParameter_eq_error h
  exact nomatch h

theorem liesInCall_of_templateParameter_eq_error {a : CallArgument} {name : String}
    (h : templateParameter model a name = .error e) : e.liesInCall = true := by
  rw [templateParameter] at h
  cases htype : model.typeOf? a with
  | some type =>
      rw [htype] at h
      exact nomatch h
  | none =>
      rw [htype] at h
      obtain rfl := Except.error.inj h
      rfl

/-- **A call that asks for no method is itself the reason.** -/
theorem liesInCall_of_wish_eq_error (h : call.wish model options = .error e) :
    e.liesInCall = true := by
  rcases bind_eq_error_iff.mp h with h | ⟨roles, -, h⟩
  · exact liesInCall_of_roles_eq_error h
  rcases bind_eq_error_iff.mp h with h | ⟨special, -, h⟩
  · exact liesInCall_of_specialParameters_eq_error h
  rcases bind_eq_error_iff.mp h with h | ⟨regular, -, h⟩
  · obtain ⟨⟨a, name⟩, -, h⟩ := exists_of_mapM_eq_error h
    exact liesInCall_of_templateParameter_eq_error h
  · exact nomatch h

/-! ## Parts of a wish -/

/-- The parameters of a wish: those of special roles, then one for each argument
    of the template. -/
theorem wish_eq_ok_iff {wish : MethodWish} :
    call.wish model options = .ok wish ↔
      call.roles model = .ok wish.roles ∧
        ∃ special regular, specialParameters model wish.roles = .ok special ∧
          List.Forall₂
            (fun (a : CallArgument × String) p => templateParameter model a.1 a.2 = .ok p)
            ((call.templateArguments wish.roles).zip (call.templateNames options wish.roles))
            regular ∧
          wish.parameters = special ++ regular := by
  constructor
  · intro h
    obtain ⟨roles, hroles, h⟩ := bind_eq_ok_iff.mp h
    obtain ⟨special, hspecial, h⟩ := bind_eq_ok_iff.mp h
    obtain ⟨regular, hregular, h⟩ := bind_eq_ok_iff.mp h
    obtain rfl := Except.ok.inj h
    exact ⟨hroles, special, regular, hspecial, mapM_eq_ok_iff.mp hregular, rfl⟩
  · rintro ⟨hroles, special, regular, hspecial, hregular, hparameters⟩
    refine bind_eq_ok_iff.mpr ⟨wish.roles, hroles, bind_eq_ok_iff.mpr ⟨special, hspecial,
      bind_eq_ok_iff.mpr ⟨regular, mapM_eq_ok_iff.mpr hregular, ?_⟩⟩⟩
    rw [← hparameters]
    rfl

end AdHocCall

end StructuredLog
