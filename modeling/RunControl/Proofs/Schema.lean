import RunControl.Json.Content
import RunControl.Proofs.Documents
import RunControl.Wire

/-!
# The schema of a result

`Schema` is what is asked of a document, and `Schema.executionResult` is what is asked of the
document of a result. The one thing that a result can miss is a message.

* `Schema.object_ofMembers`: an object with plain names, member by member;
* **`Schema.executionResult_toJson`**: which results are accepted;
* `RunResult.parse?_toJson`: the text of a result is read as its document;
* `Json.exitCode?_toJson`: the exit status can be told from the document.
-/

namespace RunControl

/-- What is asked of a document. -/
def Schema : Type := Json → Bool

namespace Schema

open Json (textOf? integer?)

/-- Null. -/
def null : Schema
  | .null => true
  | _ => false

/-- One of these texts. -/
def enum (texts : List String) : Schema
  | .string raw => (textOf? raw).any texts.contains
  | _ => false

/-- A text of so many characters or more. -/
def text (minLength : ℕ) : Schema
  | .string raw => (textOf? raw).any fun s => minLength ≤ s.length
  | _ => false

/-- A number without fraction that is not smaller. -/
def integer (minimum : ℤ) : Schema
  | .number literal => (integer? literal).any fun n => minimum ≤ n
  | _ => false

/-- Exactly one of the schemas accepts the document. -/
def oneOf (schemas : List Schema) : Schema := fun j => schemas.countP (fun s => s j) = 1

/-- An object with these properties and no other ones. -/
def object (required : List String) (properties : List (String × Schema)) : Schema
  | .object members =>
    (required.all fun name => members.any fun m => textOf? m.1 = some name) &&
      members.all fun m => properties.any fun p => textOf? m.1 = some p.1 && p.2 m.2
  | _ => false

/-- The diagnostic of a result. -/
def diagnosticError : Schema :=
  object ["kind", "line", "column", "message"]
    [("kind", enum ["out_of_memory", "stack_overflow", "index_out_of_bounds", "division_by_zero",
        "arithmetic", "invalid_input", "output", "library", "unhandled"]),
      ("line", integer 0), ("column", integer 0), ("message", text 1)]

/-- A result. -/
def executionResult : Schema :=
  object ["termination", "error", "elapsed_ms"]
    [("termination", enum ["normal", "error", "interrupted"]), ("elapsed_ms", integer 0),
      ("error", oneOf [null, diagnosticError])]

/-! ## Documents that the program writes -/

theorem textOf?_escape (s : String) : textOf? (Json.escape s.toList) = some s := by
  rw [textOf?, Json.unescape?_escape, Option.map_some, String.ofList_toList]

@[simp] theorem enum_ofString (texts : List String) (s : String) :
    enum texts (Json.ofString s) = texts.contains s := by
  rw [Json.ofString, enum, textOf?_escape, Option.any_some]

@[simp] theorem text_ofString (minLength : ℕ) (s : String) :
    text minLength (Json.ofString s) = decide (minLength ≤ s.length) := by
  rw [Json.ofString, text, textOf?_escape, Option.any_some]

@[simp] theorem integer_ofNat (n : ℕ) : integer 0 (Json.ofNat n) = true := by
  rw [Json.ofNat, integer, Json.integer?_digits, Option.any_some, decide_eq_true_eq]
  exact Int.natCast_nonneg n

/-- An object with plain names is accepted member by member. -/
theorem object_ofMembers (required : List String) (properties : List (String × Schema))
    (members : List (String × Json)) :
    object required properties (Json.ofMembers members) =
      ((required.all fun name => members.any fun m => m.1 = name) &&
        members.all fun m => properties.any fun p => m.1 = p.1 && p.2 m.2) := by
  simp only [Json.ofMembers, object, List.any_map, List.all_map, Function.comp_def, textOf?_escape,
    Option.some.injEq]

theorem contains_tag (kind : DiagnosticKind) :
    ["out_of_memory", "stack_overflow", "index_out_of_bounds", "division_by_zero", "arithmetic",
      "invalid_input", "output", "library", "unhandled"].contains kind.tag = true := by
  cases kind <;> decide

theorem contains_name (termination : Termination) :
    ["normal", "error", "interrupted"].contains termination.name = true := by
  cases termination <;> decide

theorem diagnosticError_toJson (d : Diagnostic) :
    diagnosticError d.toJson = true ↔ d.message ≠ "" := by
  rw [diagnosticError, Diagnostic.toJson, object_ofMembers]
  simp only [List.all_cons, List.any_cons, List.all_nil, List.any_nil, enum_ofString, contains_tag,
    integer_ofNat, text_ofString]
  simp [Nat.one_le_iff_ne_zero]

/-- **The document of a result is accepted exactly when its diagnostic has a message.** -/
theorem executionResult_toJson (r : RunResult) :
    executionResult r.toJson = true ↔ ∀ d, r.error = some d → d.message ≠ "" := by
  have herror : oneOf [null, diagnosticError] (Json.ofOption Diagnostic.toJson r.error) = true ↔
      ∀ d, r.error = some d → d.message ≠ "" := by
    cases r.error with
    | none => exact iff_of_true rfl fun d h => by cases h
    | some d =>
      have hnull : null d.toJson = false := rfl
      simp [oneOf, Json.ofOption, hnull, diagnosticError_toJson]
  rw [← herror, executionResult, RunResult.toJson, RunResult.outline, object_ofMembers]
  simp only [List.all_cons, List.any_cons, List.all_nil, List.any_nil, enum_ofString,
    contains_name, integer_ofNat, List.cons_append, List.nil_append]
  simp

end Schema

/-! ## What a document tells -/

namespace Json

/-- The first member of an object with this name. -/
def member? (name : String) : Json → Option Json
  | .object members => (members.find? fun m => textOf? m.1 = some name).map Prod.snd
  | _ => none

/-- The exit status that goes with the document of a result. -/
def exitCode? (j : Json) : Option ℕ :=
  match j.member? "termination" with
  | some (.string raw) =>
    (Termination.all.find? fun e => textOf? raw = some e.name).map Termination.exitCode
  | _ => none

theorem member?_ofMembers (name : String) (members : List (String × Json)) :
    (ofMembers members).member? name = (members.find? fun m => m.1 = name).map Prod.snd := by
  simp only [ofMembers, member?, List.find?_map, Option.map_map, Function.comp_def,
    Schema.textOf?_escape, Option.some.injEq]

/-- The termination in a document determines the exit status. -/
theorem exitCode?_toJson (r : RunResult) : r.toJson.exitCode? = some r.termination.exitCode := by
  have hmember : r.toJson.member? "termination" = some (ofString r.termination.name) := by
    rw [RunResult.toJson, member?_ofMembers]
    rfl
  rw [exitCode?, hmember, ofString]
  simp only [Schema.textOf?_escape]
  cases r.termination <;> rfl

theorem member?_error_toJson (r : RunResult) :
    r.toJson.member? "error" = some (ofOption Diagnostic.toJson r.error) := by
  rw [RunResult.toJson, member?_ofMembers]
  rfl

end Json

/-! ## Its text -/

theorem Diagnostic.readable_toJson (d : Diagnostic) : d.toJson.Readable := by
  refine Json.readable_ofMembers ?_
  simp only [List.forall_mem_cons]
  exact ⟨Json.readable_ofString _, Json.readable_ofNat _, Json.readable_ofNat _,
    Json.readable_ofString _, fun m hm => by cases hm⟩

theorem RunResult.readable_toJson (r : RunResult) : r.toJson.Readable := by
  have herror : (Json.ofOption Diagnostic.toJson r.error).Readable := by
    cases r.error with
    | none => exact .null
    | some d => exact d.readable_toJson
  refine Json.readable_ofMembers ?_
  simp only [outline, List.cons_append, List.nil_append, List.forall_mem_cons]
  exact ⟨Json.readable_ofString _, herror, Json.readable_ofNat _, fun m hm => by cases hm⟩

/-- The text of a result is read as its document. -/
theorem RunResult.parse?_toJson (r : RunResult) :
    Json.parse? (r.toJson.pretty ++ "\n") = some r.toJson :=
  r.readable_toJson.parse?_pretty (b := ['\n']) (Json.blank_newline 0)

end RunControl
