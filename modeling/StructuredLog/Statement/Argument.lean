import StructuredLog.Declaration
import StructuredLog.Diagnostic.Basic

/-! # Arguments — the roles of a method's parameters

    The first parameter is the handle to log through, whatever its type.  Of
    the others, the first exception is the exception, and the first level is
    the level unless the level is constant.  All else is regular: it is what
    the message is about.  Roles go by the first match, so they depend on the
    parameters, the constant level and the type system alone. -/

namespace StructuredLog

/-- What a parameter is for. -/
inductive Role where
  | loggerHandle
  | exception
  | level
  | regular
  deriving DecidableEq, Repr

/-- Every role. -/
def Role.all : List Role := [.loggerHandle, .exception, .level, .regular]

/-- A parameter in its role. -/
structure Argument where
  name : String
  type : TypeName
  role : Role
  span : Span
  deriving DecidableEq, Repr

namespace Argument

/-- Whether the message is about the argument. -/
def isRegular (a : Argument) : Bool :=
  a.role = .regular

end Argument

/-- The parameter in a role. -/
def Parameter.inRole (p : Parameter) (role : Role) : Argument :=
  ⟨p.name, p.type, role, p.span⟩

/-- The roles of parameters after the first.  The flags say whether an exception
    and a level are still looked for. -/
def assignRolesRest (system : TypeSystem) (seeksException seeksLevel : Bool) :
    List Parameter → List Argument
  | [] => []
  | p :: ps =>
    if seeksException && system.assignable p.type .exception then
      p.inRole .exception :: assignRolesRest system false seeksLevel ps
    else if seeksLevel && system.assignable p.type .level then
      p.inRole .level :: assignRolesRest system seeksException false ps
    else
      p.inRole .regular :: assignRolesRest system seeksException seeksLevel ps

/-- The parameters of a method in their roles. -/
def assignRoles (system : TypeSystem) (level? : Option Level) : List Parameter → List Argument
  | [] => []
  | p :: ps => p.inRole .loggerHandle :: assignRolesRest system true level?.isNone ps

/-- The first argument in a role. -/
def firstInRole? (arguments : List Argument) (role : Role) : Option Argument :=
  arguments.find? (·.role == role)

/-- The arguments that the message is about. -/
def regularArguments (arguments : List Argument) : List Argument :=
  arguments.filter Argument.isRegular

/-- A warning for each regular argument whose text depends on the host's culture. -/
def timestampWarnings (system : TypeSystem) (arguments : List Argument) : List Diagnostic :=
  (regularArguments arguments).filter (system.assignable ·.type .timestamp) |>.map fun a =>
    .labeled .timestampArgument
      ("parameter `" ++ a.name ++ "` of type `" ++ a.type ++ "` renders differently per host culture")
      a.span "timestamp parameter"
      ["log a preformatted string or a numeric timestamp instead"]

end StructuredLog
