import StructuredLog.HostType.Basic

/-! # Field layouts — the named fields of a log record, at generation time

    A record that carries named fields has one field per argument, followed by
    one that holds the raw template under the name `{OriginalFormat}`.  A
    layout says which parameter feeds which field, and how the field is shown.
    The last field is part of every layout, so no layout is empty. -/

namespace StructuredLog

/-- The name of the field that holds the raw template. -/
def rawTemplateName : String := "\x7bOriginalFormat\x7d"

/-- How the value of a field becomes text. -/
inductive FieldRendering where
  /-- By the value's own text. -/
  | plain
  /-- As a sequence of elements, only when the text is asked for. -/
  | lazySequence
  deriving DecidableEq, Repr

/-- A field fed by a parameter. -/
structure ParameterField where
  name : String
  /-- The name of the parameter. -/
  parameter : String
  /-- The type of the parameter. -/
  type : TypeName
  rendering : FieldRendering
  deriving DecidableEq, Repr

/-- A field of a layout. -/
inductive LayoutField where
  | ofParameter (field : ParameterField)
  | rawTemplate (template : String)
  deriving DecidableEq, Repr

namespace LayoutField

/-- The name of the field. -/
def name : LayoutField → String
  | .ofParameter field => field.name
  | .rawTemplate _ => rawTemplateName

/-- How the field is shown. -/
def rendering : LayoutField → FieldRendering
  | .ofParameter field => field.rendering
  | .rawTemplate _ => .plain

end LayoutField

/-- Asking for a field past the end. -/
structure FieldOutOfRange where
  index : Nat
  size : Nat
  deriving DecidableEq, Repr

/-- The text of the error. -/
def FieldOutOfRange.message (e : FieldOutOfRange) : String :=
  "field index " ++ toString e.index ++ " is out of range (field list has "
    ++ toString e.size ++ " entries)"

/-- The fields of a record: those of the parameters, and the raw template. -/
structure FieldLayout where
  parameterFields : List ParameterField
  template : String
  deriving DecidableEq, Repr

namespace FieldLayout

/-- All fields in order. -/
def fields (layout : FieldLayout) : List LayoutField :=
  layout.parameterFields.map .ofParameter ++ [.rawTemplate layout.template]

/-- The number of fields. -/
def size (layout : FieldLayout) : Nat :=
  layout.parameterFields.length + 1

/-- The field at an index. -/
def get (layout : FieldLayout) (index : Nat) : Except FieldOutOfRange LayoutField :=
  match layout.fields[index]? with
  | some field => .ok field
  | none => .error ⟨index, layout.size⟩

@[simp] theorem length_fields (layout : FieldLayout) : layout.fields.length = layout.size := by
  simp [fields, size]

end FieldLayout

end StructuredLog
