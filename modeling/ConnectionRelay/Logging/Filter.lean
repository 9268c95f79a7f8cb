/-
  ConnectionRelay.Logging.Filter
  ──────────────────────────────
  **WHICH LOG LINES ARE KEPT.**

  A filter is written as directives with commas between them.  Of the directives that
  match a line, the one with the longest target decides, and of several for the same
  target the last.
-/
import ConnectionRelay.Logging.Directive
import ConnectionRelay.Text.Split

namespace ConnectionRelay.Logging

/-- A filter. -/
structure Filter where
  directives : List Directive
  deriving DecidableEq, Repr

namespace Filter

/-- Without any directive only errors are kept. -/
def ofDirectives (ds : List Directive) : Filter :=
  if ds.isEmpty then ⟨[{ limit := Level.error.detail }]⟩ else ⟨ds⟩

/-- The parts of a text between commas, without empty ones. -/
def parts (text : String) : List (List Char) :=
  (Text.split ',' text.toList).filter fun part => !part.isEmpty

/-- Read a filter of which every directive is right. -/
def parse? (text : String) : Option Filter :=
  ((parts text).mapM Directive.parse?).map ofDirectives

/-- Read a filter and drop wrong directives. -/
def parseRight (text : String) : Filter :=
  ofDirectives ((parts text).filterMap Directive.parse?)

/-- The directive that decides for a line. -/
def decisive? (f : Filter) (line : LogLine) : Option Directive :=
  (f.directives.filter (·.isMatch line)).foldl
    (fun best d =>
      match best with
      | none => some d
      | some b => if b.isBelow d then some d else some b)
    none

/-- Is a line kept? -/
def keeps (f : Filter) (line : LogLine) : Bool :=
  match f.decisive? line with
  | some d => line.level.detail ≤ d.limit
  | none => false

/-- The filter of a setting for the whole process, if it has one, else of the level
that the relay is set to. -/
def ofSettings (setting : Option String) (level : String) : Filter :=
  match setting.bind parse? with
  | some f => f
  | none => parseRight ("composite_connection=" ++ Text.lowercase level)

end Filter

end ConnectionRelay.Logging
