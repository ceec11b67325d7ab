import StructuredLog.Container
import StructuredLog.Generation.Method

/-! # Generating a container

    Each declaration is generated on its own; one that is dropped takes no
    other with it.  Methods that share an event id are all kept, and each one
    after the first draws a warning, also when the first was dropped. -/

namespace StructuredLog

/-- What comes of the declarations of one container. -/
structure GeneratedContainer where
  /-- The container with the methods that were generated. -/
  container : Container
  plans : List MethodPlan
  diagnostics : List Diagnostic
  deriving Repr

namespace GeneratedContainer

/-- Whether a diagnostic is an error. -/
def hasErrors (out : GeneratedContainer) : Bool :=
  out.diagnostics.any Diagnostic.isError

end GeneratedContainer

/-- The warning that a declaration repeats the event id of an earlier one. -/
def repeatedIdWarning (d first : Declaration) : Diagnostic where
  code := .repeatedEventId
  message := "event id " ++ toString d.marking.eventId.toInt ++ " of " ++ ticked d.name
    ++ " is already used by " ++ ticked first.name
  labels := [⟨d.span, "duplicate event id", true⟩, ⟨first.span, "first used here", false⟩]

/-- The warning for a declaration after the given earlier ones, if its event id
    is taken. -/
def repeatedIdWarnings (earlier : List Declaration) (d : Declaration) : List Diagnostic :=
  match earlier.find? (·.marking.eventId == d.marking.eventId) with
  | some first => [repeatedIdWarning d first]
  | none => []

/-- The diagnostics of declarations that follow the given earlier ones. -/
def containerDiagnostics (system : TypeSystem) (options : GeneratorOptions)
    (earlier : List Declaration) : List Declaration → List Diagnostic
  | [] => []
  | d :: ds =>
    (d.generate system options).diagnostics ++ repeatedIdWarnings earlier d
      ++ containerDiagnostics system options (earlier ++ [d]) ds

/-- Generate every declaration of a container. -/
def generateContainer (system : TypeSystem) (options : GeneratorOptions) (name : String)
    (declarations : List Declaration) : GeneratedContainer where
  container := .ofDeclarations name
    (declarations.filter fun d => (d.generate system options).plan?.isSome)
  plans := declarations.filterMap fun d => (d.generate system options).plan?
  diagnostics := containerDiagnostics system options [] declarations

end StructuredLog
