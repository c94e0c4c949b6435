import RunControl.Json.Number
import RunControl.Source

/-!
# Reading JSON

Two kinds of documents are read. A `Located` document is the text as it stands, with the number of
arrays and objects around it. A `Content` is a part that was put aside because it stands before the
tag that says how to read it: `Located.keep?` makes one, and every text and number in it has to make
sense and arrays and objects may not nest too deeply. In a content, a choice may also carry an empty
object, and a tag at the head of an array may also be its number.
-/

namespace RunControl.Json

/-- A document whose texts and numbers have been read. -/
inductive Content
  | null
  | bool (b : Bool)
  | integer (n : Int)
  | real (x : Binary64)
  | text (s : String)
  | array (items : List Content)
  | object (members : List (String × Content))

/-- How many arrays and objects may stand around a value. -/
def depthLimit : Nat := 127

def textOf? (raw : List Char) : Option String := (unescape? raw).map String.ofList

/-- A number: an integer if it is one of 64 bits, with or without a sign. -/
def numberOf? (literal : List Char) : Option Content :=
  match integer? literal with
  | some n =>
    if Int64.minValue.toInt ≤ n ∧ n < UInt64.size then some (.integer n)
    else (real? literal).map .real
  | none => (real? literal).map .real

mutual

/-- Read all texts and numbers of a document in which `room` more levels may nest. -/
def content? : Nat → Json → Option Content
  | _, .null => some .null
  | _, .bool b => some (.bool b)
  | _, .number literal => numberOf? literal
  | _, .string raw => (textOf? raw).map .text
  | 0, .array _ => none
  | 0, .object _ => none
  | room + 1, .array items => (contents? room items).map .array
  | room + 1, .object members => (contentMembers? room members).map .object

def contents? : Nat → List Json → Option (List Content)
  | _, [] => some []
  | room, item :: items =>
    match content? room item, contents? room items with
    | some c, some cs => some (c :: cs)
    | _, _ => none

def contentMembers? : Nat → List (List Char × Json) → Option (List (String × Content))
  | _, [] => some []
  | room, (name, value) :: members =>
    match textOf? name, content? room value, contentMembers? room members with
    | some s, some c, some cs => some ((s, c) :: cs)
    | _, _, _ => none

end

/-! ## Contents as sources -/

namespace Content

/-- The content of a choice is empty. -/
def isBlank : Content → Bool
  | null | object [] => true
  | _ => false

def choice? : Content → Option String
  | text s => some s
  | object [(name, c)] => if c.isBlank then some name else none
  | _ => none

/-- A tag by its name or its number. -/
def tag? (names : List String) : Content → Option String
  | text s => some s
  | integer n => if 0 ≤ n then names[n.toNat]? else none
  | _ => none

/-- A real, which may be written as an integer. -/
def real? : Content → Option Binary64
  | real x => some x
  | integer n => some (Binary64.ofInt n)
  | _ => none

end Content

instance : Source Content where
  isNull
    | .null => true
    | _ => false
  truth?
    | .bool b => some b
    | _ => none
  integer?
    | .integer n => some n
    | _ => none
  real? := Content.real?
  text?
    | .text s => some s
    | _ => none
  items?
    | .array items => some items
    | _ => none
  members?
    | .object members => some members
    | _ => none
  choice? := Content.choice?
  tag? := Content.tag?
  strict := true

/-! ## Documents as they stand -/

/-- A document with the number of arrays and objects around it. -/
structure Located where
  depth : Nat
  json : Json

namespace Located

def root (json : Json) : Located := ⟨0, json⟩

def below (d : Located) (json : Json) : Located := ⟨d.depth + 1, json⟩

def keep? (d : Located) : Option Content := content? (depthLimit - d.depth) d.json

def text? (d : Located) : Option String :=
  match d.json with
  | .string raw => textOf? raw
  | _ => none

/-- The members, if all their names make sense. -/
def members? (d : Located) : Option (List (String × Located)) :=
  match d.json with
  | .object members => members.mapM fun m => (textOf? m.1).map fun name => (name, d.below m.2)
  | _ => none

def choice? (d : Located) : Option String :=
  match d.json with
  | .string raw => textOf? raw
  | .object [(name, .null)] => textOf? name
  | _ => none

end Located

instance : Source Located where
  isNull d := match d.json with
    | .null => true
    | _ => false
  truth? d := match d.json with
    | .bool b => some b
    | _ => none
  integer? d := match d.json with
    | .number literal => Json.integer? literal
    | _ => none
  real? d := match d.json with
    | .number literal => Json.real? literal
    | _ => none
  text? := Located.text?
  items? d := match d.json with
    | .array items => some (items.map d.below)
    | _ => none
  members? := Located.members?
  choice? := Located.choice?
  tag? _ := Located.text?
  strict := true

/-- Documents of which a part can be put aside. -/
class Keeps (δ : Type) where
  keep? : δ → Option Content

instance : Keeps Content := ⟨some⟩

instance : Keeps Located := ⟨Located.keep?⟩

end RunControl.Json
