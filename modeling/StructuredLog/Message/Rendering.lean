import StructuredLog.Template.Alignment

/-! # Rendering — filling the holes of a template

    The text of a message is the template with each hole filled or left as
    written.  What fills a hole is padded as the hole asks.  A width that
    cannot be served refuses the whole message, at the first hole that asks
    for it and has something to be filled with. -/

namespace StructuredLog

/-- Why a message has no text. -/
inductive RenderingError where
  /-- A filled hole asks for a width that cannot be served. -/
  | widthOutOfRange
  deriving DecidableEq, Repr

/-- The text of the error. -/
def RenderingError.message : RenderingError → String
  | .widthOutOfRange => "Formatting argument out of range"

/-- The text of a message, or why there is none. -/
abbrev Rendering := Except RenderingError String

/-- The segments with each hole filled by the text that `fill` has for it; holes
    without one stay as written. -/
def renderSegments (fill : Template.Placeholder → Option String) :
    List Template.Segment → Rendering
  | [] => .ok ""
  | .literal text :: rest => (renderSegments fill rest).map (text ++ ·)
  | .hole p :: rest =>
    match fill p with
    | none => (renderSegments fill rest).map (p.written ++ ·)
    | some text =>
      if p.isTooWide then .error .widthOutOfRange
      else (renderSegments fill rest).map (p.fit text ++ ·)

/-- The placeholders whose fillings are computed on the way: all that have one,
    up to and including the first that refuses the message. -/
def visitedHoles (hasFilling : Template.Placeholder → Bool) :
    List Template.Segment → List Template.Placeholder
  | [] => []
  | .literal _ :: rest => visitedHoles hasFilling rest
  | .hole p :: rest =>
    if !hasFilling p then visitedHoles hasFilling rest
    else if p.isTooWide then [p]
    else p :: visitedHoles hasFilling rest

end StructuredLog
