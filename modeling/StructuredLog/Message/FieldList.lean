import StructuredLog.FieldLayout
import StructuredLog.Message.PayloadError
import StructuredLog.Message.Rendering
import StructuredLog.Value

/-! # Field lists — the named fields of a log record, at run time

    A field list pairs values with names, in order, and ends with the raw
    template.  Its message fills each placeholder with the first field of
    exactly that name; the last field never fills one. -/

namespace StructuredLog

/-- A value fit for a field that is shown in the given way. -/
def FieldRendering.adapt : FieldRendering → Value → Value
  | .plain, v => v
  | .lazySequence, v => v.asSequence

/-- The fields of one record. -/
structure FieldList where
  /-- Names and values, without the raw template. -/
  fields : List (String × Value)
  template : String
  deriving Repr

namespace FieldList

/-- The values as the fields of a layout. -/
def ofLayout (layout : FieldLayout) (values : List Value) : Except PayloadError FieldList :=
  let slots := layout.parameterFields
  if slots.length = values.length then
    .ok ⟨slots.zipWith (fun slot v => (slot.name, slot.rendering.adapt v)) values, layout.template⟩
  else .error (.valueCountMismatch slots.length values.length)

/-- All entries in order, the raw template last. -/
def entries (list : FieldList) : List (String × Value) :=
  list.fields ++ [(rawTemplateName, .text list.template)]

/-- The number of entries. -/
def size (list : FieldList) : Nat :=
  list.fields.length + 1

/-- The entry at an index. -/
def get (list : FieldList) (index : Nat) : Except FieldOutOfRange (String × Value) :=
  match list.entries[index]? with
  | some entry => .ok entry
  | none => .error ⟨index, list.size⟩

/-- The value of the first entry of a name. -/
def find? (list : FieldList) (name : String) : Option Value :=
  list.entries.lookup name

/-- The message: each placeholder filled with the first field of its name. -/
def message (list : FieldList) : Rendering :=
  renderSegments (fun p => (list.fields.lookup p.name).map Value.render)
    (Template.segments list.template)

/-- The names of the placeholders that the message asks fields for. -/
def visitedNames (list : FieldList) : List String :=
  (visitedHoles (fun p => (list.fields.lookup p.name).isSome)
    (Template.segments list.template)).map Template.Placeholder.name

/-- The fields after the first field of each of the names was asked for its
    text. -/
def forceNamed (names : List String) : List (String × Value) → List (String × Value)
  | [] => []
  | (name, v) :: rest =>
    if names.contains name then (name, v.forced) :: forceNamed (names.filter (· ≠ name)) rest
    else (name, v) :: forceNamed names rest

/-- The list after its message was asked for. -/
def afterMessage (list : FieldList) : FieldList :=
  { list with fields := forceNamed list.visitedNames list.fields }

@[simp] theorem length_entries (list : FieldList) : list.entries.length = list.size := by
  simp [entries, size]

end FieldList

end StructuredLog
