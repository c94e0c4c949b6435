import RunControl.Binary64.Decimal
import RunControl.Json
import RunControl.Toml

/-!
# Texts, numbers and dates in TOML

Each reader takes what it reads from the front of the text and answers it with the rest. Texts come
in four kinds: with or without escapes, on one line or on several. Numbers may have single
underscores between digits.
-/

namespace RunControl.Toml

/-! ## Characters -/

def isBlankChar (c : Char) : Bool := c == ' ' || c == '\t'

def skipBlanks (s : List Char) : List Char := s.dropWhile isBlankChar

/-- A character that may stand anywhere on a line. -/
def isLineChar (c : Char) : Bool :=
  c == '\t' || (0x20 ≤ c.toNat && c.toNat ≤ 0x7E) || 0x80 ≤ c.toNat

def beginsLineEnd : List Char → Bool
  | '\n' :: _ | '\r' :: '\n' :: _ => true
  | _ => false

/-! ## Texts -/

/-- The character with a number, unless it is half of a pair or too great. -/
def charOf? (n : Nat) : Option Char := if n.isValidChar then some (Char.ofNat n) else none

def readEscape? : List Char → Option (Char × List Char)
  | 'u' :: a :: b :: c :: d :: rest => do
    some (← charOf? (← Json.hex4? a b c d), rest)
  | 'U' :: a :: b :: c :: d :: e :: f :: g :: h :: rest => do
    some (← charOf? ((← Json.hex4? a b c d) * 65536 + (← Json.hex4? e f g h)), rest)
  | c :: rest =>
    if c = '/' then none else (Json.simpleEscape? c).map fun c => (c, rest)
  | [] => none

/-- How many characters an escape has after the backslash. -/
def escapeLength : List Char → Nat
  | 'u' :: _ => 5
  | 'U' :: _ => 9
  | _ => 1

/-- A text with escapes, up to the closing quote. The first `skip` characters belong to an escape
that has been read. -/
def readBasic? (skip : Nat) : List Char → Option (List Char × List Char)
  | [] => none
  | c :: rest => match skip with
    | skip + 1 => readBasic? skip rest
    | 0 =>
      if c = '"' then some ([], rest)
      else if c = '\\' then
        match readEscape? rest with
        | some (e, _) => (readBasic? (escapeLength rest) rest).map fun p => (e :: p.1, p.2)
        | none => none
      else if isLineChar c then (readBasic? 0 rest).map fun p => (c :: p.1, p.2)
      else none

/-- A text without escapes, up to the closing quote. -/
def readLiteral? : List Char → Option (List Char × List Char)
  | [] => none
  | c :: rest =>
    if c = '\'' then some ([], rest)
    else if isLineChar c then (readLiteral? rest).map fun p => (c :: p.1, p.2)
    else none

/-- Up to two quotes before the three that close a text belong to it. -/
def closing? (q : Char) : List Char → Option (List Char × List Char)
  | a :: b :: c :: rest =>
    if a = q ∧ b = q ∧ c = q then
      match rest with
      | d :: e :: more =>
        if d = q ∧ e = q then some ([q, q], more)
        else if d = q then some ([q], e :: more)
        else some ([], rest)
      | [d] => if d = q then some ([q], []) else some ([], rest)
      | [] => some ([], [])
    else none
  | _ => none

/-- What the reader of a text of several lines leaves out: so many characters of an escape, or
blanks and line ends after a backslash at the end of a line. -/
inductive Skip
  | escape (left : Nat)
  | gap

/-- A text of several lines with escapes, up to the closing quotes. -/
def readLongBasic? (skip : Skip) : List Char → Option (List Char × List Char)
  | [] => none
  | c :: rest => match skip with
    | .escape (left + 1) => readLongBasic? (.escape left) rest
    | .gap =>
      if isBlankChar c || c == '\n' || beginsLineEnd (c :: rest) then readLongBasic? .gap rest
      else plain c rest
    | .escape 0 => plain c rest
where
  plain (c : Char) (rest : List Char) : Option (List Char × List Char) :=
    match closing? '"' (c :: rest) with
    | some end_ => some end_
    | none =>
      if c = '"' then (readLongBasic? (.escape 0) rest).map fun p => (c :: p.1, p.2)
      else if c = '\\' then
        if beginsLineEnd (skipBlanks rest) then readLongBasic? .gap rest
        else match readEscape? rest with
          | some (e, _) =>
            (readLongBasic? (.escape (escapeLength rest)) rest).map fun p => (e :: p.1, p.2)
          | none => none
      else if beginsLineEnd (c :: rest) && c == '\r' then readLongBasic? (.escape 0) rest
      else if c = '\n' || isLineChar c then
        (readLongBasic? (.escape 0) rest).map fun p => (c :: p.1, p.2)
      else none

/-- A text of several lines without escapes, up to the closing quotes. -/
def readLongLiteral? : List Char → Option (List Char × List Char)
  | [] => none
  | c :: rest =>
    match closing? '\'' (c :: rest) with
    | some end_ => some end_
    | none =>
      if beginsLineEnd (c :: rest) && c == '\r' then readLongLiteral? rest
      else if c = '\n' || isLineChar c then
        (readLongLiteral? rest).map fun p => (c :: p.1, p.2)
      else none

/-- A line end right after the opening quotes does not belong to a text. -/
def skipLineEnd : List Char → List Char
  | '\n' :: rest | '\r' :: '\n' :: rest => rest
  | s => s

def readText? : List Char → Option (List Char × List Char)
  | '"' :: '"' :: '"' :: rest => readLongBasic? (.escape 0) (skipLineEnd rest)
  | '"' :: rest => readBasic? 0 rest
  | '\'' :: '\'' :: '\'' :: rest => readLongLiteral? (skipLineEnd rest)
  | '\'' :: rest => readLiteral? rest
  | _ => none

/-! ## Numbers -/

/-- Digits of a class, after the first one; single underscores between them are left out. -/
def digitRun (isDigit : Char → Bool) : List Char → List Char × List Char
  | '_' :: c :: rest =>
    if isDigit c then
      let (digits, rest) := digitRun isDigit rest
      (c :: digits, rest)
    else ([], '_' :: c :: rest)
  | c :: rest =>
    if isDigit c then
      let (digits, rest) := digitRun isDigit rest
      (c :: digits, rest)
    else ([], c :: rest)
  | [] => ([], [])

def readDigits? (isDigit : Char → Bool) : List Char → Option (List Char × List Char)
  | c :: rest =>
    if isDigit c then
      let (digits, rest) := digitRun isDigit rest
      some (c :: digits, rest)
    else none
  | [] => none

def readWhole? : List Char → Option (List Char × List Char)
  | '0' :: rest => some (['0'], rest)
  | s => readDigits? Char.isDigit s

def readSign : List Char → List Char × List Char
  | '+' :: rest => (['+'], rest)
  | '-' :: rest => (['-'], rest)
  | s => ([], s)

/-- The number in a base that digits denote, if it fits 64 bits. -/
def ofBase? (base : Nat) (digits : List Char) : Option Toml :=
  (Numeral.toInt64? (digits.foldl (fun n c => n * base + (Json.hexValue? c).getD 0) 0 : Nat)).map
    integer

/-- An integer: decimal with a sign, or hexadecimal, octal or binary without one. -/
def readInteger? : List Char → Option (Toml × List Char)
  | '0' :: 'x' :: rest => do
    let (digits, rest) ← readDigits? (fun c => (Json.hexValue? c).isSome) rest
    some (← ofBase? 16 digits, rest)
  | '0' :: 'o' :: rest => do
    let (digits, rest) ← readDigits? (fun c => '0' ≤ c && c ≤ '7') rest
    some (← ofBase? 8 digits, rest)
  | '0' :: 'b' :: rest => do
    let (digits, rest) ← readDigits? (fun c => c == '0' || c == '1') rest
    some (← ofBase? 2 digits, rest)
  | s => do
    let (sign, s) := readSign s
    let (digits, rest) ← readWhole? s
    some (integer (← Numeral.int64? (sign ++ digits)), rest)

/-- A fraction after the point, or nothing. -/
def readFraction? : List Char → Option (List Char × List Char)
  | '.' :: rest => (readDigits? Char.isDigit rest).map fun p => ('.' :: p.1, p.2)
  | s => some ([], s)

def readPower? : List Char → Option (List Char × List Char)
  | c :: rest =>
    if c = 'e' ∨ c = 'E' then do
      let (sign, rest) := readSign rest
      let (digits, rest) ← readDigits? Char.isDigit rest
      some (c :: sign ++ digits, rest)
    else some ([], c :: rest)
  | [] => some ([], [])

/-- The real that a literal denotes. Only below the range it becomes infinite. -/
def realOf? (negative : Bool) (literal : List Char) : Option Binary64 :=
  match Binary64.read? literal with
  | some x => some x
  | none => if negative then some (Binary64.ofMagnitude true Binary64.infinityBits) else none

/-- A real: infinite, not a number, or digits with a fraction, a power of ten, or both. -/
def readReal? (s : List Char) : Option (Toml × List Char) :=
  let (sign, rest) := readSign s
  let negative := sign == ['-']
  match rest with
  | 'i' :: 'n' :: 'f' :: rest =>
    some (real (Binary64.ofMagnitude negative Binary64.infinityBits), rest)
  | 'n' :: 'a' :: 'n' :: rest =>
    some (real (Binary64.ofMagnitude negative (Binary64.infinityBits + Binary64.quietBit)), rest)
  | _ => do
    let (whole, rest) ← readWhole? rest
    let (fraction, rest) ← readFraction? rest
    let (power, rest) ← readPower? rest
    if fraction.isEmpty && power.isEmpty then none
    else some (real (← realOf? negative (sign ++ whole ++ fraction ++ power)), rest)

/-! ## Dates and times -/

/-- A number of exactly `width` digits between two bounds. -/
def readField? (width low high : Nat) (s : List Char) : Option (Nat × List Char) :=
  match Numeral.natural? (s.take width) with
  | some n =>
    if width ≤ s.length ∧ low ≤ n ∧ n ≤ high then some (n, s.drop width) else none
  | none => none

def readChar? (c : Char) : List Char → Option (List Char)
  | d :: rest => if d = c then some rest else none
  | [] => none

def daysIn (year month : Nat) : Nat :=
  if month = 2 then
    if year % 4 = 0 ∧ (year % 100 ≠ 0 ∨ year % 400 = 0) then 29 else 28
  else if month = 4 ∨ month = 6 ∨ month = 9 ∨ month = 11 then 30
  else 31

def skipDate? (s : List Char) : Option (List Char) := do
  let (year, s) ← readField? 4 0 9999 s
  let (month, s) ← readField? 2 1 12 (← readChar? '-' s)
  let (_, s) ← readField? 2 1 (daysIn year month) (← readChar? '-' s)
  some s

/-- What is left after a time of day. -/
def skipTime? (s : List Char) : Option (List Char) := do
  let (_, s) ← readField? 2 0 23 s
  let (_, s) ← readField? 2 0 59 (← readChar? ':' s)
  let (_, s) ← readField? 2 0 60 (← readChar? ':' s)
  match s with
  | '.' :: c :: rest => if c.isDigit then some (rest.dropWhile Char.isDigit) else none
  | '.' :: [] => none
  | s => some s

/-- What is left after the distance to universal time, if one is given. -/
def skipOffset? : List Char → Option (List Char)
  | 'Z' :: rest | 'z' :: rest => some rest
  | '+' :: rest | '-' :: rest => do
    let (_, s) ← readField? 2 0 23 rest
    let (_, s) ← readField? 2 0 59 (← readChar? ':' s)
    some s
  | s => some s

/-- What is left after a time of day and perhaps an offset that follow a date. -/
def skipTimeOfDate? (s : List Char) : Option (List Char) :=
  match s with
  | c :: rest =>
    if c = 'T' ∨ c = 't' then (skipTime? rest).bind skipOffset?
    else if c = ' ' then
      match rest with
      | d :: _ => if d.isDigit then (skipTime? rest).bind skipOffset? else some s
      | [] => some s
    else some s
  | [] => some []

/-- A date, a time of day, or a date with a time of day. -/
def readMoment? (s : List Char) : Option (Toml × List Char) :=
  let rest? := match skipDate? s with
    | some rest => skipTimeOfDate? rest
    | none => skipTime? s
  rest?.map fun rest => (moment (s.take (s.length - rest.length)), rest)

def readNumber? (s : List Char) : Option (Toml × List Char) :=
  (readMoment? s).or ((readReal? s).or (readInteger? s))

end RunControl.Toml
