import StructuredLog.Generation.Method
import StructuredLog.Message.FieldList
import StructuredLog.Message.Formatter

/-! # Rendering a generated method — its message for some values

    A generated method turns the values of its regular arguments into a message
    in the way that its payload prescribes: by position through a formatter, or
    through a field list. -/

namespace StructuredLog

/-- The message of a method for the values of its regular arguments. -/
def MethodPlan.render (plan : MethodPlan) (values : List Value) : Except PayloadError Rendering :=
  match plan.payload with
  | .positional types => (Formatter.ofTemplate plan.statement.template types.length).bind (·.format values)
  | .fields layout => (FieldList.ofLayout layout values).map FieldList.message

end StructuredLog
