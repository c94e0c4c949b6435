import RunControl.Json

/-!
# Reading documents

`Json.parse?` reads a whole text as one document with blanks around it. Every nested call reads
what is left after at least one character, so the length of the text bounds the depth of the calls.
-/

namespace RunControl.Json

/-- Blank between the parts of a document. -/
def isSpace (c : Char) : Bool := c == ' ' || c == '\n' || c == '\t' || c == '\r'

def skipSpace (s : List Char) : List Char := s.dropWhile isSpace

/-- The raw text up to the closing quote. A control character may not stand in it, and every
escape has to be one of the known forms. -/
def readRaw? : List Char → Option (List Char × List Char)
  | [] => none
  | '"' :: rest => some ([], rest)
  | '\\' :: 'u' :: a :: b :: c :: d :: rest =>
    match hex4? a b c d with
    | none => none
    | some _ => (readRaw? rest).map fun p => ('\\' :: 'u' :: a :: b :: c :: d :: p.1, p.2)
  | '\\' :: c :: rest =>
    match simpleEscape? c with
    | none => none
    | some _ => (readRaw? rest).map fun p => ('\\' :: c :: p.1, p.2)
  | '\\' :: [] => none
  | c :: rest =>
    if c.toNat < 0x20 then none else (readRaw? rest).map fun p => (c :: p.1, p.2)

/-- The whole part of a number: a zero alone, or digits that do not begin with one. -/
def readWhole? (s : List Char) : Option (List Char × List Char) :=
  match s with
  | '0' :: rest => match rest with
    | c :: _ => if c.isDigit then none else some (['0'], rest)
    | [] => some (['0'], rest)
  | _ =>
    let (digits, rest) := s.span Char.isDigit
    if digits.isEmpty then none else some (digits, rest)

/-- The fraction of a number: nothing, or a point and digits. -/
def readFraction? : List Char → Option (List Char × List Char)
  | '.' :: rest =>
    let (digits, rest) := rest.span Char.isDigit
    if digits.isEmpty then none else some ('.' :: digits, rest)
  | s => some ([], s)

def readPowerSign : List Char → List Char × List Char
  | '+' :: rest => (['+'], rest)
  | '-' :: rest => (['-'], rest)
  | s => ([], s)

/-- The power of ten of a number: nothing, or a letter, a sign and digits. -/
def readPower? : List Char → Option (List Char × List Char)
  | c :: rest =>
    if c = 'e' ∨ c = 'E' then
      let (sign, rest) := readPowerSign rest
      let (digits, rest) := rest.span Char.isDigit
      if digits.isEmpty then none else some (c :: sign ++ digits, rest)
    else some ([], c :: rest)
  | [] => some ([], [])

def readNumber? (s : List Char) : Option (List Char × List Char) := do
  let (sign, s) := match s with
    | '-' :: rest => (['-'], rest)
    | s => ([], s)
  let (whole, s) ← readWhole? s
  let (fraction, s) ← readFraction? s
  let (power, s) ← readPower? s
  some (sign ++ whole ++ fraction ++ power, s)

mutual

def readValue? : Nat → List Char → Option (Json × List Char)
  | 0, _ => none
  | fuel + 1, s =>
    match skipSpace s with
    | 'n' :: 'u' :: 'l' :: 'l' :: rest => some (.null, rest)
    | 't' :: 'r' :: 'u' :: 'e' :: rest => some (.bool true, rest)
    | 'f' :: 'a' :: 'l' :: 's' :: 'e' :: rest => some (.bool false, rest)
    | '"' :: rest => (readRaw? rest).map fun p => (.string p.1, p.2)
    | '[' :: rest =>
      match skipSpace rest with
      | ']' :: rest => some (.array [], rest)
      | rest => (readItems? fuel rest).map fun p => (.array p.1, p.2)
    | '\x7b' :: rest =>
      match skipSpace rest with
      | '\x7d' :: rest => some (.object [], rest)
      | rest => (readMembers? fuel rest).map fun p => (.object p.1, p.2)
    | rest => (readNumber? rest).map fun p => (.number p.1, p.2)

/-- Items up to the end of the array, at least one. -/
def readItems? : Nat → List Char → Option (List Json × List Char)
  | 0, _ => none
  | fuel + 1, s =>
    match readValue? fuel s with
    | none => none
    | some (item, rest) =>
      match skipSpace rest with
      | ',' :: rest => (readItems? fuel rest).map fun p => (item :: p.1, p.2)
      | ']' :: rest => some ([item], rest)
      | _ => none

/-- Members up to the end of the object, at least one. -/
def readMembers? : Nat → List Char → Option (List (List Char × Json) × List Char)
  | 0, _ => none
  | fuel + 1, s =>
    match skipSpace s with
    | '"' :: rest =>
      match readRaw? rest with
      | none => none
      | some (name, rest) =>
        match skipSpace rest with
        | ':' :: rest =>
          match readValue? fuel rest with
          | none => none
          | some (value, rest) =>
            match skipSpace rest with
            | ',' :: rest => (readMembers? fuel rest).map fun p => ((name, value) :: p.1, p.2)
            | '\x7d' :: rest => some ([(name, value)], rest)
            | _ => none
        | _ => none
    | _ => none

end

def parse? (s : String) : Option Json :=
  match readValue? (s.toList.length + 1) s.toList with
  | some (j, rest) => if (skipSpace rest).isEmpty then some j else none
  | none => none

end RunControl.Json
