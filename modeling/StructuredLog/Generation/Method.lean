import StructuredLog.Statement.Basic
import StructuredLog.Statement.Problems

/-! # Generating one method

    A declaration goes through classification and the checks.  If nothing in
    it is an error, the result is a plan: the statement and its payload.  The
    diagnostics are kept in either case. -/

namespace StructuredLog

/-- Everything that is needed to write out one method. -/
structure MethodPlan where
  statement : Statement
  payload : PayloadPlan
  deriving DecidableEq, Repr

/-- What comes of one declaration. -/
structure GeneratedMethod where
  /-- The plan, unless an error dropped the method. -/
  plan? : Option MethodPlan
  diagnostics : List Diagnostic
  deriving Repr

namespace Declaration

/-- The parameters of the declaration in their roles. -/
def arguments (system : TypeSystem) (d : Declaration) : List Argument :=
  assignRoles system d.marking.level? d.parameters

/-- Where the level comes from: the constant one first, then the level argument. -/
def levelSource? (system : TypeSystem) (d : Declaration) : Option LevelSource :=
  match d.marking.level? with
  | some level => some (.constant level)
  | none => (firstInRole? (d.arguments system) .level).map (.parameter ·.name)

/-- The statement of the declaration with its level. -/
def statement (system : TypeSystem) (d : Declaration) (level : LevelSource) : Statement where
  name := d.name
  template := d.marking.message
  placeholders := Template.names d.marking.message
  level := level
  eventId := d.marking.eventId
  eventName := d.eventName
  skipsEnabledCheck := d.marking.skipsEnabledCheck
  arguments := d.arguments system
  span := d.span

/-- The report that a declaration without a level got through the checks, which
    they rule out. -/
def lostLevel (d : Declaration) : Diagnostic :=
  .labeled .internalError (ticked d.name ++ " passed validation without a severity") d.span
    "method dropped here" []

/-- Generate the method of a declaration. -/
def generate (system : TypeSystem) (options : GeneratorOptions) (d : Declaration) : GeneratedMethod :=
  let found := problems system options d (d.arguments system)
  let diagnostics := timestampWarnings system (d.arguments system) ++ found
  if isUsable found then
    match d.levelSource? system with
    | some level =>
      let statement := d.statement system level
      ⟨some ⟨statement, statement.payload system options⟩, diagnostics⟩
    | none => ⟨none, diagnostics ++ [d.lostLevel]⟩
  else ⟨none, diagnostics⟩

end Declaration

end StructuredLog
