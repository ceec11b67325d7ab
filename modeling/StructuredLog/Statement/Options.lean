import StructuredLog.Identifier.Basic

/-! # Generator options -/

namespace StructuredLog

/-- The choices of one generator run. -/
structure GeneratorOptions where
  /-- The greatest number of regular arguments that are passed by position. -/
  maxPositional : Nat := 6
  /-- Names that start with this character belong to generated members. -/
  reservedInitial : Char := '_'
  deriving DecidableEq, Repr

/-- Whether a name is reserved. -/
def GeneratorOptions.isReserved (options : GeneratorOptions) (name : String) : Bool :=
  Identifier.startsReserved options.reservedInitial name

end StructuredLog
