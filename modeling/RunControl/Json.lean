import RunControl.Numeral

/-!
# JSON documents

`Json` is a document as it is written: a string keeps its escapes and a number its digits, so that
parts which nobody reads need not make sense. `escape` writes a text, `unescape?` reads it back;
surrogate escapes have to come in pairs. `Json.compact` writes a document on one line and
`Json.pretty` one member a line.
-/

namespace RunControl

/-- A document. Strings and member names are kept with their escapes, numbers as they are
written. -/
inductive Json
  | null
  | bool (b : Bool)
  | number (literal : List Char)
  | string (raw : List Char)
  | array (items : List Json)
  | object (members : List (List Char × Json))

namespace Json

/-! ## Escapes -/

/-- One hexadecimal digit, in lower case. -/
def hexDigit (n : Nat) : Char :=
  if n < 10 then Char.ofNat (0x30 + n) else Char.ofNat (0x61 + (n - 10))

/-- The value of a hexadecimal digit. -/
def hexValue? (c : Char) : Option Nat :=
  if c.isDigit then some (c.toNat - 0x30)
  else if 'a' ≤ c ∧ c ≤ 'f' then some (c.toNat - 0x61 + 10)
  else if 'A' ≤ c ∧ c ≤ 'F' then some (c.toNat - 0x41 + 10)
  else none

/-- One character inside quotes: quotes, backslashes and control characters are escaped. -/
def escapeChar (c : Char) : List Char :=
  if c = '"' then ['\\', '"']
  else if c = '\\' then ['\\', '\\']
  else if c = '\n' then ['\\', 'n']
  else if c = '\r' then ['\\', 'r']
  else if c = '\t' then ['\\', 't']
  else if c = '\x08' then ['\\', 'b']
  else if c = '\x0c' then ['\\', 'f']
  else if c.toNat < 0x20 then
    ['\\', 'u', '0', '0', hexDigit (c.toNat / 16), hexDigit (c.toNat % 16)]
  else [c]

def escape (s : List Char) : List Char := s.flatMap escapeChar

/-- The character of an escape with one letter. -/
def simpleEscape? (c : Char) : Option Char :=
  if c = '"' ∨ c = '\\' ∨ c = '/' then some c
  else if c = 'n' then some '\n'
  else if c = 'r' then some '\r'
  else if c = 't' then some '\t'
  else if c = 'b' then some '\x08'
  else if c = 'f' then some '\x0c'
  else none

/-- The number of four hexadecimal digits. -/
def hex4? (a b c d : Char) : Option Nat := do
  let a ← hexValue? a
  let b ← hexValue? b
  let c ← hexValue? c
  let d ← hexValue? d
  some (((a * 16 + b) * 16 + c) * 16 + d)

/-- The code point is half of a surrogate pair. -/
def isSurrogate (n : Nat) : Bool := 0xD800 ≤ n && n ≤ 0xDFFF

/-- The text that stands between the quotes. -/
def unescape? : List Char → Option (List Char)
  | [] => some []
  | '\\' :: 'u' :: a :: b :: c :: d :: rest =>
    match hex4? a b c d with
    | none => none
    | some high =>
      if !isSurrogate high then (unescape? rest).map (Char.ofNat high :: ·)
      else if 0xDC00 ≤ high then none
      else match rest with
        | '\\' :: 'u' :: e :: f :: g :: h :: rest =>
          match hex4? e f g h with
          | none => none
          | some low =>
            if 0xDC00 ≤ low ∧ low ≤ 0xDFFF then
              (unescape? rest).map
                (Char.ofNat (0x10000 + (high - 0xD800) * 0x400 + (low - 0xDC00)) :: ·)
            else none
        | _ => none
  | '\\' :: c :: rest =>
    match simpleEscape? c with
    | some c => (unescape? rest).map (c :: ·)
    | none => none
  | '\\' :: [] => none
  | c :: rest => (unescape? rest).map (c :: ·)

/-! ## Writing -/

def ofString (s : String) : Json := .string (escape s.toList)

def ofNat (n : Nat) : Json := .number (Numeral.digits n)

def ofInt (n : Int) : Json := .number (Numeral.intDigits n)

def ofMembers (members : List (String × Json)) : Json :=
  .object (members.map fun p => (escape p.1.toList, p.2))

def quoted (raw : List Char) : List Char := '"' :: raw ++ ['"']

mutual

/-- A document on one line without blanks. -/
def write : Json → List Char
  | .null => ['n', 'u', 'l', 'l']
  | .bool true => ['t', 'r', 'u', 'e']
  | .bool false => ['f', 'a', 'l', 's', 'e']
  | .number literal => literal
  | .string raw => quoted raw
  | .array [] => ['[', ']']
  | .array (item :: items) => '[' :: write item ++ writeItems items
  | .object [] => ['\x7b', '\x7d']
  | .object ((name, value) :: members) =>
    '\x7b' :: quoted name ++ ':' :: write value ++ writeMembers members

/-- The items after the first one, and the end of the array. -/
def writeItems : List Json → List Char
  | [] => [']']
  | item :: items => ',' :: write item ++ writeItems items

/-- The members after the first one, and the end of the object. -/
def writeMembers : List (List Char × Json) → List Char
  | [] => ['\x7d']
  | (name, value) :: members =>
    ',' :: quoted name ++ ':' :: write value ++ writeMembers members

end

/-- The text of a document on one line. -/
def compact (j : Json) : String := String.ofList j.write

/-- A line break and the indentation of a level. -/
def newline (level : Nat) : List Char := '\n' :: List.replicate (2 * level) ' '

mutual

/-- A document with one item or member a line, two blanks to a level. -/
def writePretty (level : Nat) : Json → List Char
  | .array (item :: items) =>
    '[' :: newline (level + 1) ++ writePretty (level + 1) item ++ prettyItems level items
  | .object ((name, value) :: members) =>
    '\x7b' :: newline (level + 1) ++ quoted name ++ ':' :: ' ' ::
      writePretty (level + 1) value ++ prettyMembers level members
  | .null => write .null
  | .bool b => write (.bool b)
  | .number literal => literal
  | .string raw => quoted raw
  | .array [] => ['[', ']']
  | .object [] => ['\x7b', '\x7d']

/-- The items after the first one, and the end of the array. -/
def prettyItems (level : Nat) : List Json → List Char
  | [] => newline level ++ [']']
  | item :: items =>
    ',' :: newline (level + 1) ++ writePretty (level + 1) item ++ prettyItems level items

/-- The members after the first one, and the end of the object. -/
def prettyMembers (level : Nat) : List (List Char × Json) → List Char
  | [] => newline level ++ ['\x7d']
  | (name, value) :: members =>
    ',' :: newline (level + 1) ++ quoted name ++ ':' :: ' ' ::
      writePretty (level + 1) value ++ prettyMembers level members

end

/-- The text of a document over several lines. -/
def pretty (j : Json) : String := String.ofList (j.writePretty 0)

end Json

end RunControl
