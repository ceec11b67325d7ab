import StructuredLog.Migration.Roles
import StructuredLog.Identifier.ParameterNames
import StructuredLog.Migration.Resolution
import StructuredLog.Source.Edit
import StructuredLog.Store.Session
import StructuredLog.Template.Placeholder

/-! # Migrating one call

    A migration first works out the roles of the call's arguments and the
    method that the call wants; no request is made until all types are known.
    Then it makes attempts: read the generation and a snapshot, create the
    container if it is missing, find or name the method in the snapshot, and,
    unless the method exists already, append it at the snapshot's generation.
    A conflict starts a new attempt; every other refusal ends the migration,
    and so does the end of the budget. -/

namespace StructuredLog

/-- The choices of one migration. -/
structure MigrationOptions where
  /-- The container that receives the methods. -/
  containerName : String := "Log"
  /-- The event id of the first method of an empty container. -/
  firstEventId : Int32 := 0
  /-- The number of attempts. -/
  retryBudget : Nat := 16
  /-- Parameter names must not start with this character. -/
  reservedInitial : Char := '_'
  deriving DecidableEq, Repr

/-- The result of migrating one call. -/
structure MigratedCall where
  container : String
  /-- The method that the call now invokes: minted, or as it is stored. -/
  declaration : Declaration
  /-- Whether the method existed already. -/
  isReused : Bool
  /-- The replacement of the call. -/
  replacement : Edit
  deriving DecidableEq, Repr

/-- What comes of migrating one call. -/
abbrev MigrationResult := Except MigrationFailure MigratedCall

/-- The signature of the method that the call now invokes. -/
def MigratedCall.signature (fix : MigratedCall) : Signature :=
  fix.declaration.signature

/-- The method that a call wants: its roles, its parameters and its level and
    template. -/
structure MethodWish where
  roles : CallRoles
  parameters : List Parameter
  deriving DecidableEq, Repr

namespace MethodWish

/-- The method as a container is asked for it. -/
def wanted (wish : MethodWish) : WantedMethod where
  baseName := Identifier.derive wish.roles.template
  shape :=
    { types := wish.parameters.map Parameter.type
      level? := wish.roles.constantLevel?
      template := wish.roles.template }

/-- The method as declared under a name and an event id. -/
def declare (wish : MethodWish) (name : String) (eventId : Int32) : Declaration where
  name := name
  parameters := wish.parameters
  marking :=
    { eventId
      level? := wish.roles.constantLevel?
      message := wish.roles.template }

end MethodWish

namespace AdHocCall

/-- A parameter of a known type. -/
def knownParameter (model : HostModel) (name : String) (known : KnownType) :
    Except MigrationFailure Parameter :=
  match model.canonical? known with
  | some type => .ok { name, type }
  | none => .error (.typeUnavailable (.known known))

/-- The parameter of a role that some calls have, if this one has it. -/
def optionalParameter (model : HostModel) (isPresent : Bool) (name : String) (known : KnownType) :
    Except MigrationFailure (List Parameter) :=
  if isPresent then (knownParameter model name known).map ([·]) else .ok []

/-- The parameters of special roles: the logger, the level if it is not constant,
    and the exception if there is one. -/
def specialParameters (model : HostModel) (roles : CallRoles) :
    Except MigrationFailure (List Parameter) := do
  let logger ← knownParameter model Identifier.loggerParameter .logger
  let level ←
    optionalParameter model roles.levelIndex?.isSome Identifier.levelParameter .level
  let exception ←
    optionalParameter model roles.exception?.isSome Identifier.exceptionParameter .exception
  return logger :: (level ++ exception)

/-- The parameter for an argument of the template. -/
def templateParameter (model : HostModel) (a : CallArgument) (name : String) :
    Except MigrationFailure Parameter :=
  match model.typeOf? a with
  | some type => .ok { name, type }
  | none => .error (.typeUnavailable (.argument a.text))

/-- The arguments of the template. -/
def templateArguments (call : AdHocCall) (roles : CallRoles) : List CallArgument :=
  call.arguments.drop (roles.templateIndex + 1)

/-- The names of the parameters for the arguments of the template. -/
def templateNames (call : AdHocCall) (options : MigrationOptions) (roles : CallRoles) :
    List String :=
  Identifier.parameterNames options.reservedInitial (Template.names roles.template)
    (call.templateArguments roles).length

/-- The method that a call wants. -/
def wish (model : HostModel) (options : MigrationOptions) (call : AdHocCall) :
    Except MigrationFailure MethodWish := do
  let roles ← call.roles model
  let special ← specialParameters model roles
  let regular ← ((call.templateArguments roles).zip (call.templateNames options roles)).mapM
    fun (a, name) => templateParameter model a name
  return { roles, parameters := special ++ regular }

/-- The source text of the call to a generated method. -/
def newCallText (call : AdHocCall) (roles : CallRoles) (container method : String) : String :=
  let kept := (roles.keptIndices call.arguments.length).filterMap fun index =>
    call.arguments[index]?.map CallArgument.text
  container ++ "." ++ method ++ "(" ++ ", ".intercalate (call.receiver.text :: kept) ++ ")"

/-- The fix of a call that now stands at `span` and invokes a method. -/
def fix (call : AdHocCall) (options : MigrationOptions) (roles : CallRoles) (span : Span)
    (declaration : Declaration) (isReused : Bool) : MigratedCall where
  container := options.containerName
  declaration := declaration
  isReused := isReused
  replacement := ⟨span, call.newCallText roles options.containerName declaration.name⟩

/-- The refusal of a container that lists a method and does not hold its
    declaration. -/
def lostDeclaration (container name : String) : MigrationFailure :=
  .store (.unavailable ("snapshot of `" ++ container ++ "` lists `" ++ name
    ++ "` without its declaration"))

/-- What follows the creation of the container. -/
def onCreated (again : Session MigrationResult) :
    Except StoreRefusal Unit → Session MigrationResult
  | .error e => .done (.error (.store e))
  | .ok () => again

/-- What follows the append of a minted method: a conflict calls for another
    attempt. -/
def onAppended (again : Session MigrationResult) (fix : MigratedCall) :
    Except StoreRefusal Nat → Session MigrationResult
  | .ok _ => .done (.ok fix)
  | .error (.conflict _ _) => again
  | .error e => .done (.error (.store e))

/-- What an attempt does in the container that it found. -/
def settleIn (options : MigrationOptions) (call : AdHocCall) (wish : MethodWish)
    (again : Session MigrationResult) (snapshot : Snapshot) : Session MigrationResult :=
  match snapshot.container.methodFor? wish.wanted options.firstEventId with
  | none => .done (.error (.eventIdsExhausted snapshot.container.name))
  | some resolution =>
    .relocate call fun
    | none => .done (.error .syntaxLost)
    | some span =>
      if resolution.isReused then
        match snapshot.declaration? ⟨resolution.name, wish.wanted.shape, resolution.eventId⟩ with
        | none => .done (.error (lostDeclaration snapshot.container.name resolution.name))
        | some stored => .done (.ok (call.fix options wish.roles span stored true))
      else
        let minted := wish.declare resolution.name resolution.eventId
        .append options.containerName snapshot.generation minted
          (onAppended again (call.fix options wish.roles span minted false))

/-- What follows the snapshot of the container. -/
def onSnapshot (options : MigrationOptions) (call : AdHocCall) (wish : MethodWish)
    (again : Session MigrationResult) :
    Except StoreRefusal (Option Snapshot) → Session MigrationResult
  | .error e => .done (.error (.store e))
  | .ok none => .create options.containerName (onCreated again)
  | .ok (some snapshot) => call.settleIn options wish again snapshot

/-- Attempt to migrate a call, up to `attempts` times, after having seen the store
    at generation `last`. -/
def attempt (options : MigrationOptions) (call : AdHocCall) (wish : MethodWish) :
    (attempts last : Nat) → Session MigrationResult
  | 0, _ => .done (.error (.retryBudgetExhausted options.containerName options.retryBudget))
  | attempts + 1, last =>
    .generation fun now =>
    if now < last then .done (.error (.nonMonotonic last now))
    else
      .snapshot options.containerName
        (call.onSnapshot options wish (attempt options call wish attempts now))

/-- Migrate a call. -/
def migrate (model : HostModel) (options : MigrationOptions) (call : AdHocCall) :
    Session MigrationResult :=
  match call.wish model options with
  | .error e => .done (.error e)
  | .ok wish => call.attempt options wish options.retryBudget 0

end AdHocCall

end StructuredLog
