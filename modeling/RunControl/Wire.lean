import RunControl.Inspection
import RunControl.Json.Number
import RunControl.Program
import RunControl.Result

/-!
# Documents of the domain

How values, cells, diagnostics, results, notices and programs are written as JSON. A value and a
cell are an object of a tag and a content; a notice is an object whose first member names the event.
Members keep the order given here.
-/

namespace RunControl

/-- A boolean, a number or a string; a character is a string of its own. -/
def Value.content : Value → Json
  | integer n => Json.ofInt n.toInt
  | real x => Json.ofReal x
  | boolean b => .bool b
  | character c => Json.ofString (String.singleton c)
  | text s => Json.ofString s

def Value.toJson (v : Value) : Json :=
  Json.ofMembers [("type", Json.ofString v.type.name), ("value", v.content)]

/-- The name of the state of a cell. -/
def Cell.state : Cell → String
  | nullValue => "null_value"
  | empty => "empty"
  | value _ => "value"

def Cell.toJson (c : Cell) : Json :=
  Json.ofMembers (("state", Json.ofString c.state) :: match c with
    | .value v => [("value", v.toJson)]
    | _ => [])

/-- A value that may be missing, as a document. -/
def Json.ofOption {α : Type} (f : α → Json) : Option α → Json
  | some a => f a
  | none => .null

def Diagnostic.toJson (d : Diagnostic) : Json :=
  Json.ofMembers
    [("kind", Json.ofString d.kind.tag), ("line", Json.ofNat d.position.line.toNat),
      ("column", Json.ofNat d.position.column.toNat), ("message", Json.ofString d.message)]

/-- The members of a result, less the time. -/
def RunResult.outline (r : RunResult) : List (String × Json) :=
  [("termination", Json.ofString r.termination.name),
    ("error", Json.ofOption Diagnostic.toJson r.error)]

def RunResult.toJson (r : RunResult) : Json :=
  Json.ofMembers (r.outline ++ [("elapsed_ms", Json.ofNat r.elapsedMillis.toNat)])

def Notice.event : Notice → String
  | started => "started"
  | paused => "paused"
  | resumed => "resumed"
  | lineHighlighted _ => "line_highlighted"
  | ended _ => "ended"

def Notice.toJson (n : Notice) : Json :=
  Json.ofMembers (("event", Json.ofString n.event) :: match n with
    | .lineHighlighted line => [("line", Json.ofNat line.toNat)]
    | .ended result => [("result", result.toJson)]
    | _ => [])

/-- The facts about a program as a document. -/
def ProgramInfo.toJson (p : ProgramInfo) : Json :=
  Json.ofMembers
    [("name", Json.ofString p.name), ("line_count", Json.ofNat p.lineCount),
      ("functions", .array (p.functions.map Json.ofString)),
      ("entry_function", Json.ofString p.entryFunction),
      ("source_file", Json.ofOption Json.ofString p.sourceFile)]

end RunControl
