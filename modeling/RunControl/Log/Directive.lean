import RunControl.Binary64.Decimal
import RunControl.Log
import RunControl.Pattern.Automaton
import RunControl.Pattern.Reader

/-!
# Directives

A `LogDirective` lets records up to a level through. It may ask for a target, for a span, and for a
field. In writing it is `target[span{field=value}]=level`, of which every part may be missing;
`LogDirective.ofChars` reads one.
-/

namespace RunControl

/-- What the value of a field has to be: a truth value or a number, which no text is, or a text of
which the pattern, as written, reaches the end. -/
inductive FieldValue
  | any
  | constant
  | matching (written : String) (pattern : Pattern)
deriving DecidableEq

/-- What a directive asks of a field. -/
structure FieldCondition where
  name : String
  value : FieldValue
deriving DecidableEq

/-- Let records of the first `rank` levels through, where all that is asked for is there. -/
structure LogDirective where
  target : Option String
  span : Option String
  field : Option FieldCondition
  rank : Nat
deriving DecidableEq

/-- Why a text is no directive. -/
inductive DirectiveError
  | malformed
  | level
  | pattern (error : PatternError)
deriving DecidableEq

/-- What is said about a text that is no directive. -/
def DirectiveError.message : DirectiveError → String
  | malformed => "invalid filter directive"
  | level => "error parsing level filter: expected one of \"off\", \"error\", \"warn\", \"info\", " ++
      "\"debug\", \"trace\", or a number 0-5"
  | pattern e => "invalid field filter: " ++ e.message

namespace FieldCondition

/-- The text stands for a number, finite or not. -/
def isNumber (s : List Char) : Bool :=
  let unsigned := match s with
    | '+' :: rest | '-' :: rest => rest
    | _ => s
  (Binary64.nearest? s).isSome ||
    String.ofList (Text.lowerAscii unsigned) ∈ ["inf", "infinity", "nan"]

/-- Read the value that a field has to have. -/
def readValue (s : List Char) : Except PatternError FieldValue :=
  if s = "true".toList ∨ s = "false".toList ∨ isNumber s then .ok .constant
  else (Pattern.read s).map fun p => .matching (String.ofList s) p

/-- Read a name, or a name with a value; what follows another equals sign is passed over. -/
def read (s : List Char) : Except PatternError FieldCondition :=
  match s.splitOn '=' with
  | name :: value :: _ => (readValue value).map fun v => ⟨String.ofList name, v⟩
  | _ => .ok ⟨String.ofList s, .any⟩

def holds (c : FieldCondition) (value : String) : Bool :=
  match c.value with
  | .any => true
  | .constant => false
  | .matching _ p => p.reachesEnd value.toList

end FieldCondition

namespace LogLevel

/-- The names of the levels and of none. -/
def rankNames : List (String × Nat) :=
  [("off", 0), ("error", 1), ("warn", 2), ("info", 3), ("debug", 4), ("trace", 5)]

/-- How many levels a word lets through: a number of levels, or the name of the last of them. -/
def rankOf? (word : List Char) : Option Nat :=
  match (Numeral.unsigned? word).filter (· ≤ 5) with
  | some rank => some rank
  | none => rankNames.lookup (String.ofList (Text.lowerAscii word))

def greatestRank : Nat := 5

end LogLevel

namespace LogDirective

def ofRank (rank : Nat) : LogDirective := ⟨none, none, none, rank⟩

def isDynamic (d : LogDirective) : Bool := d.span.isSome || d.field.isSome

/-- The directive asks for a certain value. -/
def asksValue (d : LogDirective) : Bool := d.field.any fun c => c.value != .any

/-- The directive decides about records wherever they are made. -/
def isStatic (d : LogDirective) : Bool := d.span.isNone && !d.asksValue

/-- Both directives ask for the same. -/
def asksSame (d e : LogDirective) : Bool :=
  d.target == e.target && d.span == e.span && d.field == e.field

/-! ## Reading -/

/-- The characters of a text with their places, counted in bytes. -/
def placed : Nat → List Char → List (Nat × Char)
  | _, [] => []
  | i, c :: s => (i, c) :: placed (i + c.utf8Size) s

/-- What stands in a text from one place up to another one. -/
def between (s : List Char) (start stop : Nat) : List Char :=
  ((placed 0 s).filter fun p => start ≤ p.1 && p.1 < stop).map (·.2)

/-- What stands in a text from a place on. -/
def onwards (s : List Char) (start : Nat) : List Char :=
  ((placed 0 s).filter fun p => start ≤ p.1).map (·.2)

/-- The part of a directive that is being read, with the place where it starts; a word is a level or
a target. -/
inductive Part
  | start
  | word (start : Nat)
  | span (start : Nat)
  | field (start : Nat)
  | afterField
  | afterSpan
  | level (start : Nat)

/-- Go on by a character at a place. What ends a part is looked for in the text without the blanks
around it, but the part is what stands at the same places in the text as it is. -/
def read (s : List Char) (d : LogDirective) : Part → Nat → Char →
    Except DirectiveError (LogDirective × Part)
  | .start, i, c =>
    if c = '[' then .ok (d, .span (i + 1))
    else if c ∈ ['-', ':', '_'] || Text.isAlphanumeric c then .ok (d, .word i)
    else .error .malformed
  | .word start, i, '=' =>
    .ok ({ d with target := some (String.ofList (between s start i)) }, .level (i + 1))
  | .word start, i, '[' =>
    .ok ({ d with target := some (String.ofList (between s start i)) }, .span (i + 1))
  | .span start, i, ']' =>
    .ok ({ d with span := some (String.ofList (between s start i)) }, .afterSpan)
  | .span start, i, '{' =>
    let name := between s start i
    .ok ({ d with span := if name.isEmpty then none else some (String.ofList name) },
      .field (i + 1))
  | .field start, i, '}' =>
    match between s start i with
    | [] => .error .malformed
    | field => match FieldCondition.read field with
      | .ok c => .ok ({ d with field := some c }, .afterField)
      | .error e => .error (.pattern e)
  | .afterField, _, c => if c = ']' then .ok (d, .afterSpan) else .error .malformed
  | .afterSpan, i, c => if c = '=' then .ok (d, .level (i + 1)) else .error .malformed
  | part, _, _ => .ok (d, part)

/-- The directive after its last character. -/
def finish (s : List Char) (d : LogDirective) : Part → Except DirectiveError LogDirective
  | .word start =>
    let word := onwards s start
    match LogLevel.rankOf? word with
    | some rank => .ok { d with rank }
    | none => .ok { d with target := some (String.ofList word) }
  | .level start =>
    match onwards s start with
    | [] => .ok d
    | word => match LogLevel.rankOf? word with
      | some rank => .ok { d with rank }
      | none => .error .level
  | .afterSpan => .ok d
  | _ => .error .malformed

/-- Read a directive. One that names no level lets all of them through. -/
def ofChars (s : List Char) : Except DirectiveError LogDirective := do
  let (d, part) ← (placed 0 (Text.trim s)).foldlM
    (fun (d, part) (i, c) => read s d part i c) (ofRank LogLevel.greatestRank, Part.start)
  finish s d part

end LogDirective

end RunControl
