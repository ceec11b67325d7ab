import StructuredLog.AdHoc.Call
import StructuredLog.HostType.Facts

/-! # Host models — what migration asks about types

    The front end that found a call also owns its types.  A host model answers
    the three questions about them that migration has; every answer but that
    of the type system may be missing. -/

namespace StructuredLog

/-- The host's knowledge of types. -/
structure HostModel where
  system : TypeSystem
  /-- The canonical name of a known type. -/
  canonical? : KnownType → Option TypeName
  /-- The static type of an argument. -/
  typeOf? : CallArgument → Option TypeName

namespace HostModel

/-- The model that knows a table and the types recorded on the arguments. -/
def ofTable (table : TypeFacts) : HostModel where
  system := table.system
  canonical? := table.canonical?
  typeOf? := CallArgument.type?

end HostModel

end StructuredLog
