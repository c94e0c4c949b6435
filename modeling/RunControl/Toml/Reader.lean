import RunControl.Toml.Scalar

/-!
# Reading TOML

`Toml.parse?` reads a file line by line: a line defines a key, opens a table by its header, or is
blank. The document is built by `Toml.ofLines?`. Values nest to a limited depth, and so do dotted
keys. Every nested call reads what is left after at least one character, so the length of the text
bounds the depth of the calls.
-/

namespace RunControl.Toml

/-- Below so many levels nothing may nest. -/
def depthLimit : Nat := 80

/-! ## Keys -/

/-- A character of a key without quotes. -/
def isKeyChar (c : Char) : Bool := c.isAlphanum || c == '_' || c == '-'

def readKeyPart? : List Char → Option (String × List Char)
  | '"' :: rest => (readBasic? 0 rest).map fun p => (String.ofList p.1, p.2)
  | '\'' :: rest => (readLiteral? rest).map fun p => (String.ofList p.1, p.2)
  | s =>
    let (key, rest) := s.span isKeyChar
    if key.isEmpty then none else some (String.ofList key, rest)

def readKeyParts? : Nat → List Char → Option (List String × List Char)
  | 0, _ => none
  | fuel + 1, s => do
    let (part, rest) ← readKeyPart? (skipBlanks s)
    match skipBlanks rest with
    | '.' :: rest => (readKeyParts? fuel rest).map fun p => (part :: p.1, p.2)
    | rest => some ([part], rest)

/-- A dotted key with blanks around it. -/
def readKey? (s : List Char) : Option (List String × List Char) := readKeyParts? (depthLimit - 1) s

/-! ## Values -/

/-- Leave out blanks, line ends and comments. -/
def skipLines? (inComment : Bool) : List Char → Option (List Char)
  | [] => some []
  | c :: rest =>
    if c = '\n' then skipLines? false rest
    else if c = '\r' && beginsLineEnd (c :: rest) then skipLines? inComment rest
    else if inComment then if isLineChar c then skipLines? true rest else none
    else if isBlankChar c then skipLines? false rest
    else if c = '#' then skipLines? true rest
    else some (c :: rest)

/-- The table with these definitions, as a value. -/
def ofDefinitions? (definitions : List (List String × Toml)) : Option Toml :=
  definitions.foldlM (fun t d => addEntry .inlineDotted (· == .inlineDotted) d.1 d.2 t)
    (table .inline [])

mutual

/-- A value in which `room` more levels may nest. -/
def readValue? : Nat → Nat → List Char → Option (Toml × List Char)
  | 0, _, _ => none
  | fuel + 1, room, s =>
    match s with
    | '[' :: rest =>
      if room = 0 then none
      else match skipLines? false rest with
        | some (']' :: rest) => some (array [], rest)
        | some rest => (readItems? fuel (room - 1) rest).map fun p => (array p.1, p.2)
        | none => none
    | '\x7b' :: rest =>
      if room = 0 then none
      else match skipBlanks rest with
        | '\x7d' :: rest => some (table .inline [], rest)
        | rest => do
          let (definitions, rest) ← readDefinitions? fuel (room - 1) rest
          some (← ofDefinitions? definitions, rest)
    | 't' :: 'r' :: 'u' :: 'e' :: rest => some (boolean true, rest)
    | 'f' :: 'a' :: 'l' :: 's' :: 'e' :: rest => some (boolean false, rest)
    | c :: _ =>
      if c = '"' ∨ c = '\'' then (readText? s).map fun p => (text (String.ofList p.1), p.2)
      else readNumber? s
    | [] => none

/-- Items up to the end of the array, at least one; a comma may stand after the last. -/
def readItems? : Nat → Nat → List Char → Option (List Toml × List Char)
  | 0, _, _ => none
  | fuel + 1, room, s => do
    let (item, rest) ← readValue? fuel room s
    match ← skipLines? false rest with
    | ']' :: rest => some ([item], rest)
    | ',' :: rest =>
      match ← skipLines? false rest with
      | ']' :: rest => some ([item], rest)
      | rest => (readItems? fuel room rest).map fun p => (item :: p.1, p.2)
    | _ => none

/-- Definitions up to the end of the table, at least one. -/
def readDefinitions? : Nat → Nat → List Char → Option (List (List String × Toml) × List Char)
  | 0, _, _ => none
  | fuel + 1, room, s => do
    let (key, rest) ← readKey? s
    let rest ← readChar? '=' rest
    let (value, rest) ← readValue? fuel room (skipBlanks rest)
    match skipBlanks rest with
    | '\x7d' :: rest => some ([(key, value)], rest)
    | ',' :: rest => (readDefinitions? fuel room rest).map fun p => ((key, value) :: p.1, p.2)
    | _ => none

end

/-! ## Lines -/

/-- What a line says. -/
inductive Line
  | entry (path : List String) (v : Toml)
  | header (path : List String)
  | itemHeader (path : List String)

/-- The end of a line: blanks and a comment, then a line end or the end of the text. -/
def endLine? (s : List Char) : Option (List Char) :=
  let rest := match skipBlanks s with
    | '#' :: rest => rest.dropWhile isLineChar
    | rest => rest
  match rest with
  | [] => some []
  | '\n' :: rest | '\r' :: '\n' :: rest => some rest
  | _ => none

/-- A line that says something, without its end. -/
def readLine? (s : List Char) : Option (Line × List Char) :=
  match s with
  | '[' :: '[' :: rest => do
    let (path, rest) ← readKey? rest
    some (.itemHeader path, ← readChar? ']' (← readChar? ']' rest))
  | '[' :: rest => do
    let (path, rest) ← readKey? rest
    some (.header path, ← readChar? ']' rest)
  | s => do
    let (path, rest) ← readKey? s
    let rest ← readChar? '=' rest
    let (value, rest) ← readValue? (rest.length + 1) (depthLimit - 1) (skipBlanks rest)
    some (.entry path value, rest)

def readLines? : Nat → List Char → Option (List Line)
  | 0, _ => none
  | fuel + 1, s =>
    match skipBlanks s with
    | [] => some []
    | c :: rest =>
      if c = '#' || beginsLineEnd (c :: rest) then (endLine? (c :: rest)).bind (readLines? fuel)
      else do
        let (line, rest) ← readLine? (c :: rest)
        (readLines? fuel (← endLine? rest)).map (line :: ·)

/-- Do what lines say, below the header that is open. -/
def addLines? : List String → List Line → Toml → Option Toml
  | _, [], t => some t
  | header, .entry path v :: rest, t => (addLine header path v t).bind (addLines? header rest)
  | _, .header path :: rest, t => (openTable path t).bind (addLines? path rest)
  | _, .itemHeader path :: rest, t => (openItem path t).bind (addLines? path rest)

/-- The document that lines make up. -/
def ofLines? (lines : List Line) : Option Toml := addLines? [] lines empty

/-- Read a text; a byte order mark at its beginning is left out. -/
def parse? (s : String) : Option Toml :=
  let chars := match s.toList with
    | '\uFEFF' :: rest => rest
    | chars => chars
  (readLines? (chars.length + 1) chars).bind ofLines?

end RunControl.Toml
