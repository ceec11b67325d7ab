import StructuredLog.Statement.Argument
import StructuredLog.Statement.Options
import StructuredLog.Template.Placeholder
import StructuredLog.Text.Blank

/-! # Problems — what is wrong with a declaration

    The declaration, its parameters, its level and its template are checked
    one after another, each check on its own, so one method can draw several
    diagnostics.  An error makes the method unusable, a warning never does. -/

namespace StructuredLog

/-- The text in the quotes that messages put around names. -/
def ticked (text : String) : String := "`" ++ text ++ "`"

theorem append_ticked (before text after : String) :
    before ++ ticked text ++ after = before ++ "`" ++ text ++ ("`" ++ after) := by
  simp only [ticked, String.append_assoc]

/-- The diagnostic of a failed condition. -/
def reportIf (failed : Bool) (d : Diagnostic) : List Diagnostic :=
  if failed then [d] else []

/-! ## The declaration -/

/-- What is wrong with the method apart from its parameters. -/
def declarationProblems (options : GeneratorOptions) (d : Declaration) : List Diagnostic :=
  let method := "logging method " ++ ticked d.name
  reportIf (options.isReserved d.name)
    (.labeled .reservedMethodName
      ("logging method name " ++ ticked d.name ++ " starts with the reserved prefix "
        ++ ticked (String.singleton options.reservedInitial))
      d.span "collides with compiler-synthesized members" [])
  ++ (match d.returns with
    | .void => []
    | .value type =>
      [.labeled .notVoid (method ++ " must return void") d.span ("returns " ++ ticked type) []])
  ++ reportIf (!d.isStatic)
    (.labeled .notStatic (method ++ " must be static") d.span "instance method" [])
  ++ reportIf (!d.isPartial)
    (.labeled .notPartial (method ++ " must be partial") d.span
      "the compiler supplies the body of partial stubs" [])
  ++ reportIf d.hasBody
    (.labeled .hasBody (method ++ " cannot have a body") d.span "body declared here" [])
  ++ reportIf (0 < d.genericArity)
    (.labeled .generic (method ++ " cannot be generic") d.span
      ("declares " ++ toString d.genericArity ++ " type parameter(s)") [])

/-! ## The parameters -/

/-- The first argument has to be a logger. -/
def loggerProblems (system : TypeSystem) (d : Declaration) : List Argument → List Diagnostic
  | [] =>
    [.labeled .noLogger ("logging method " ++ ticked d.name ++ " has no logger parameter") d.span
      "add a logger as the first parameter" []]
  | first :: _ =>
    reportIf (!system.assignable first.type .logger)
      (.labeled .noLogger
        ("first parameter of " ++ ticked d.name ++ " must be a logger, found " ++ ticked first.type)
        first.span "expected a logger here" [])

/-- What is wrong with one argument, given how its parameter is passed. -/
def argumentProblems (options : GeneratorOptions) (a : Argument) (mode : PassingMode) :
    List Diagnostic :=
  reportIf (options.isReserved a.name)
    (.labeled .reservedParameterName
      ("parameter name " ++ ticked a.name ++ " starts with the reserved prefix "
        ++ ticked (String.singleton options.reservedInitial))
      a.span "collides with compiler-synthesized members" [])
  ++ reportIf (mode ≠ .value)
    (.labeled .notByValue
      ("parameter " ++ ticked a.name ++ " cannot be declared " ++ ticked mode.keyword)
      a.span "logging arguments are passed by value" [])

/-- What is wrong with the arguments. -/
def parameterProblems (system : TypeSystem) (options : GeneratorOptions) (d : Declaration)
    (arguments : List Argument) : List Diagnostic :=
  loggerProblems system d arguments
  ++ (arguments.zip d.parameters).flatMap fun (a, p) => argumentProblems options a p.mode

/-! ## The level -/

/-- There has to be a constant level or a level argument. -/
def levelProblems (d : Declaration) (arguments : List Argument) : List Diagnostic :=
  reportIf (d.marking.level?.isNone && !arguments.any (·.role = .level))
    (.labeled .noLevel ("logging method " ++ ticked d.name ++ " has no severity") d.span
      "no constant level and no level parameter"
      ["give the attribute a level or add a level parameter"])

/-! ## The template -/

/-- Words at the start of a message that only repeat its level. -/
def levelWords : List String :=
  ["TRACE:", "DEBUG:", "INFORMATION:", "INFO:", "WARNING:", "WARN:", "ERROR:", "ERR:", "CRITICAL:"]

/-- The level word that a template starts with, blanks aside. -/
def leadingLevelWord? (template : String) : Option String :=
  levelWords.find? (Text.startsFolded · (Text.trimStart template.toList))

/-- A warning about an argument that the sink records anyway and the template
    should not mention. -/
def mentionWarning (code : Code) (what : String) (a : Argument) : Diagnostic :=
  .labeled code (what ++ " parameter " ++ ticked a.name ++ " should not be mentioned in the template")
    a.span ("the sink records the " ++ what ++ " separately") []

/-- How an argument disagrees with the placeholders.  A regular argument needs
    a placeholder of its name in any ASCII case; the others need that no
    placeholder has their exact name. -/
def mentionProblems (placeholders : List String) (a : Argument) : List Diagnostic :=
  let named := placeholders.contains a.name
  match a.role with
  | .regular =>
    reportIf (!placeholders.any (Text.sameFolded · a.name))
      (.labeled .unusedArgument
        ("argument " ++ ticked a.name ++ " has no corresponding template placeholder")
        a.span "not referenced by the template" [])
  | .exception => reportIf named (mentionWarning .exceptionInTemplate "exception" a)
  | .level => reportIf named (mentionWarning .levelInTemplate "level" a)
  | .loggerHandle => reportIf named (mentionWarning .loggerInTemplate "logger" a)

/-- The placeholders whose name is not among `known`; of several with one name,
    only the first. -/
def strangers (known : List String) : List Template.Placeholder → List Template.Placeholder
  | [] => []
  | p :: ps => if known.contains p.name then strangers known ps else p :: strangers (p.name :: known) ps

/-- A warning about a placeholder that names no argument, at its place in the
    message literal. -/
def strangerWarning (messageSpan : Span) (p : Template.Placeholder) : Diagnostic :=
  .labeled .unknownPlaceholder ("template references no such argument " ++ ticked p.name)
    (messageSpan.sub p.first p.stop) "unknown placeholder" []

/-- What is wrong with the template. -/
def templateProblems (d : Declaration) (arguments : List Argument) : List Diagnostic :=
  let template := d.marking.message
  let messageSpan := d.marking.messageSpan
  reportIf (Template.isMalformed template)
    (.labeled .unterminatedPlaceholder "template has an unterminated placeholder" messageSpan
      "treated as literal text from here on"
      ["close the placeholder with `\x7d` or escape the brace as `\x7b\x7b`"])
  ++ (match leadingLevelWord? template with
    | none => []
    | some word =>
      [.labeled .levelWordInTemplate ("template repeats the severity as " ++ ticked word) messageSpan
        "the sink already records the level" []])
  ++ arguments.flatMap (mentionProblems (Template.names template))
  ++ (strangers (arguments.map Argument.name) (Template.placeholders template)).map
      (strangerWarning messageSpan)

/-- Everything that is wrong with a declaration whose parameters have the given
    roles. -/
def problems (system : TypeSystem) (options : GeneratorOptions) (d : Declaration)
    (arguments : List Argument) : List Diagnostic :=
  declarationProblems options d ++ parameterProblems system options d arguments
    ++ levelProblems d arguments ++ templateProblems d arguments

/-- Whether code can be generated in spite of the diagnostics. -/
def isUsable (diagnostics : List Diagnostic) : Bool :=
  !diagnostics.any Diagnostic.isError

end StructuredLog
