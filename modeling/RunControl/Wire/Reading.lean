import RunControl.Command
import RunControl.Fault
import RunControl.Json.Content
import RunControl.Json.Reader
import RunControl.Wire

/-!
# Reading documents of the domain

For each kind of document that `RunControl.Wire` writes there is a reader here. A structure is an
object or an array of its fields in order. A value or a cell is an object with a tag and a content
in any order, or an array of the two; a notice is an object that names its event somewhere, or an
array that begins with it. Readers answer `none` for anything else.
-/

namespace RunControl

open Source Json

section

variable {δ : Type} [Source δ]

/-! ## Names -/

def DataType.read? (d : δ) : Option DataType := named? all name d

def DiagnosticKind.read? (d : δ) : Option DiagnosticKind := named? all tag d

def FaultClass.read? (d : δ) : Option FaultClass := named? all tag d

def Termination.read? (d : δ) : Option Termination := named? all name d

def Command.read? (d : δ) : Option Command := named? all name d

/-! ## Structures -/

def word? (d : δ) : Option UInt32 := (natural? (UInt32.size - 1) d).map UInt32.ofNat

def longWord? (d : δ) : Option Nat := natural? (UInt64.size - 1) d

def Diagnostic.read? (d : δ) : Option Diagnostic := do
  match ← fields? true ["kind", "line", "column", "message"] d with
  | [kind, line, column, message] =>
    some
      { kind := ← required? DiagnosticKind.read? kind
        position := ⟨← required? word? line, ← required? word? column⟩
        message := ← required? text? message }
  | _ => none

def RunResult.read? (d : δ) : Option RunResult := do
  match ← fields? true ["termination", "error", "elapsed_ms"] d with
  | [termination, error, elapsed] =>
    some
      { termination := ← required? Termination.read? termination
        error := ← optional? Diagnostic.read? error
        elapsed := (← required? longWord? elapsed) * 1000000 }
  | _ => none

def texts? (d : δ) : Option (List String) := (items? d).bind fun items => items.mapM text?

def ProgramInfo.read? (d : δ) : Option ProgramInfo := do
  match ← fields? true ["name", "line_count", "functions", "entry_function", "source_file"] d with
  | [name, lineCount, functions, entryFunction, sourceFile] =>
    some
      { name := ← required? text? name
        lineCount := ← required? longWord? lineCount
        functions := ← required? texts? functions
        entryFunction := ← required? text? entryFunction
        sourceFile := ← optional? text? sourceFile }
  | _ => none

/-! ## Tag and content -/

/-- Read the content of a value of a type. -/
def Value.readContent? (type : DataType) (d : δ) : Option Value :=
  match type with
  | .integer => ((integer? d).bind Numeral.toInt64?).map .integer
  | .real => (Source.real? d).map .real
  | .boolean => (truth? d).map .boolean
  | .character => match (text? d).map String.toList with
    | some [c] => some (.character c)
    | _ => none
  | .text => (text? d).map .text

/-- The states of a cell. -/
inductive CellState
  | nullValue
  | empty
  | value

def CellState.all : List CellState := [nullValue, empty, value]

def CellState.name : CellState → String
  | nullValue => "null_value"
  | empty => "empty"
  | value => "value"

/-- A tag and what stands with it: after the tag, or before it, so that it was put aside. -/
inductive Tagged (δ : Type)
  | alone
  | after (content : δ)
  | before (content : Content)

/-- Find tag and content of a document. In an array there are exactly the two. -/
def tagged? [Keeps δ] (tag content : String) (names : List String) (d : δ) :
    Option (String × Tagged δ) :=
  match members? d, items? d with
  | some members, _ => do
    let name ← (← member? members tag).bind choice?
    match ← member? members content with
    | none => some (name, .alone)
    | some c =>
      if (members.map (·.1)).idxOf tag < (members.map (·.1)).idxOf content then
        some (name, .after c)
      else some (name, .before (← Keeps.keep? c))
  | none, some [head, c] => do some (← tag? names head, .after c)
  | _, _ => none

def Value.read? [Keeps δ] (d : δ) : Option Value := do
  let (tag, content) ← tagged? "type" "value" (DataType.all.map DataType.name) d
  let type ← DataType.all.find? fun t => t.name = tag
  match content with
  | .after c => Value.readContent? type c
  | .before c => Value.readContent? type c
  | .alone => none

/-- Read the content of a cell in a state. -/
def Cell.readContent? [Keeps δ] (state : CellState) (d : δ) : Option Cell :=
  match state with
  | .nullValue => if Source.isNull d then some .nullValue else none
  | .empty => if Source.isNull d then some .empty else none
  | .value => (Value.read? d).map .value

def Cell.read? [Keeps δ] (d : δ) : Option Cell := do
  let (tag, content) ← tagged? "state" "value" (CellState.all.map CellState.name) d
  let state ← CellState.all.find? fun s => s.name = tag
  match content with
  | .after c => Cell.readContent? state c
  | .before c => Cell.readContent? state c
  | .alone => match state with
    | .nullValue => some .nullValue
    | .empty => some .empty
    | .value => none

/-! ## Notices -/

def eventFields : List (String × List String) :=
  [("started", []), ("paused", []), ("resumed", []), ("line_highlighted", ["line"]),
    ("ended", ["result"])]

/-- The name of the event and everything that stands with it, put aside. -/
def event? [Keeps δ] (d : δ) : Option (String × Content) :=
  match members? d, items? d with
  | some members, _ => do
    let event ← (← member? members "event").bind (tag? (eventFields.map (·.1)))
    let others ← (members.filter fun m => m.1 ≠ "event").mapM fun m =>
      (Keeps.keep? m.2).map fun c => (m.1, c)
    some (event, .object others)
  | none, some (head :: rest) => do
    let event ← tag? (eventFields.map (·.1)) head
    some (event, .array (← rest.mapM Keeps.keep?))
  | _, _ => none

def Notice.read? [Keeps δ] (d : δ) : Option Notice := do
  let (event, others) ← event? d
  let fields ← fields? true (← eventFields.lookup event) others
  match event, fields with
  | "started", [] => some .started
  | "paused", [] => some .paused
  | "resumed", [] => some .resumed
  | "line_highlighted", [line] => (required? word? line).map .lineHighlighted
  | "ended", [result] => (required? RunResult.read? result).map .ended
  | _, _ => none

end

/-- Read a text with a reader of documents. -/
def Json.read? {α : Type} (reader : Located → Option α) (s : String) : Option α :=
  (Json.parse? s).bind fun j => reader (Located.root j)

end RunControl
