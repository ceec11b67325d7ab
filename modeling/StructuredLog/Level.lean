import StructuredLog.Text.AsciiCase

/-! # Levels — how severe a log statement is

    Seven levels in ascending order.  The last one, `off`, is written `None`
    and stands for "never log"; a declaration may still name it.  Every other
    level has an ad-hoc logging method that logs at it. -/

namespace StructuredLog

/-- The severity of a log statement, least severe first. -/
inductive Level where
  | trace
  | debug
  | information
  | warning
  | error
  | critical
  /-- Never log. -/
  | off
  deriving DecidableEq, Repr

namespace Level

/-- Every level, least severe first. -/
def all : List Level :=
  [.trace, .debug, .information, .warning, .error, .critical, .off]

/-- The place of the level in the order of severity. -/
def rank : Level → Nat
  | .trace => 0
  | .debug => 1
  | .information => 2
  | .warning => 3
  | .error => 4
  | .critical => 5
  | .off => 6

instance : LT Level where
  lt a b := a.rank < b.rank

instance : LE Level where
  le a b := a.rank ≤ b.rank

instance (a b : Level) : Decidable (a < b) :=
  inferInstanceAs (Decidable (a.rank < b.rank))

instance (a b : Level) : Decidable (a ≤ b) :=
  inferInstanceAs (Decidable (a.rank ≤ b.rank))

/-- The name of the level in declarations. -/
def name : Level → String
  | .trace => "Trace"
  | .debug => "Debug"
  | .information => "Information"
  | .warning => "Warning"
  | .error => "Error"
  | .critical => "Critical"
  | .off => "None"

/-- The level of a name, in any ASCII case. -/
def ofName? (s : String) : Option Level :=
  all.find? fun level => Text.sameFolded level.name s

/-- The ad-hoc method that logs at this level. -/
def adHocMethod? : Level → Option String
  | .trace => some "LogTrace"
  | .debug => some "LogDebug"
  | .information => some "LogInformation"
  | .warning => some "LogWarning"
  | .error => some "LogError"
  | .critical => some "LogCritical"
  | .off => none

/-- The level at which an ad-hoc method logs. -/
def ofAdHocMethod? (method : String) : Option Level :=
  all.find? fun level => level.adHocMethod? == some method

/-- The levels below this one, in ascending order. -/
def below (level : Level) : List Level :=
  all.filter (· < level)

end Level

end StructuredLog
