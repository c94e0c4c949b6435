import RunControl.Pattern
import RunControl.Text.Alphanumeric

/-!
# The parts of a written pattern

`PatternToken.ofChars?` splits a pattern into tokens. Modes are resolved on the way: a token does
not depend on whether letters match in both cases, on what a point stands for, or on which
repetition is greedy.
-/

namespace RunControl

/-- How the following part of a pattern is to be read: whether a point stands for a line feed too,
repetition is reluctant unless marked, the pattern is about characters and not about bytes, blanks
and remarks are passed over, and a carriage return ends a line too. -/
structure PatternMode where
  caseless : Bool
  multiline : Bool
  dotAll : Bool
  reluctant : Bool
  unicode : Bool
  spaced : Bool
  crlf : Bool

def PatternMode.standard : PatternMode := ⟨false, false, false, false, true, false, false⟩

/-- A set of characters as written, and how deeply it is nested. -/
structure WrittenSet where
  set : CharSet
  depth : Nat

/-- Two sets joined by an operation. -/
def WrittenSet.combine (operation : CharSet → CharSet → CharSet) (a b : WrittenSet) : WrittenSet :=
  ⟨operation a.set b.set, max a.depth b.depth + 1⟩

/-- A part of a written pattern. An atom is a pattern on its own and how deeply it is nested; a
setting only changes modes. -/
inductive PatternToken
  | atom (p : Pattern) (depth : Nat)
  | opening (captures : Bool)
  | closing
  | bar
  | repeated (quantity : Quantity) (greedy : Bool)
  | setting

namespace PatternToken

/-! ## Characters -/

/-- What a letter stands for after a backslash. -/
def controlOf? : Char → Option Char
  | 'a' => some '\x07'
  | 'f' => some '\x0c'
  | 't' => some '\t'
  | 'n' => some '\n'
  | 'r' => some '\r'
  | 'v' => some '\x0b'
  | _ => none

/-- The character may stand for itself after a backslash. -/
def isEscapable (c : Char) : Bool :=
  c.toNat < 0x80 && !c.isAlphanum && c != '<' && c != '>'

/-- The value of a hexadecimal digit. -/
def hexDigit? (c : Char) : Option Nat :=
  if c.isDigit then some (c.toNat - 0x30)
  else if 'a' ≤ c ∧ c ≤ 'f' then some (c.toNat - 0x57)
  else if 'A' ≤ c ∧ c ≤ 'F' then some (c.toNat - 0x37)
  else none

/-- Pass over blanks and remarks, where the mode says so. -/
def skip (m : PatternMode) : Bool → List Char → List Char
  | _, [] => []
  | true, c :: s => if c = '\n' then skip m false s else skip m true s
  | false, c :: s =>
    if m.spaced && Text.isBlank c then skip m false s
    else if m.spaced && c == '#' then skip m true s
    else c :: s

/-- The number of so many hexadecimal digits, after the number of those before. -/
def hexNumber? (m : PatternMode) : Nat → Nat → List Char → Option (Nat × List Char)
  | 0, n, s => some (n, s)
  | count + 1, n, s =>
    match skip m false s with
    | c :: s => (hexDigit? c).bind fun d => hexNumber? m count (n * 16 + d) s
    | [] => none

/-- The character of so many hexadecimal digits. -/
def hexChar? (m : PatternMode) (count : Nat) (s : List Char) : Option (Char × List Char) :=
  (hexNumber? m count 0 s).bind fun (n, s) =>
    if n.isValidChar then some (Char.ofNat n, s) else none

/-- A character after a backslash, where it stands for one character. Without characters, two
digits stand for a byte, and only for one that is a character. -/
def escaped? (m : PatternMode) : List Char → Option (Char × List Char)
  | 'x' :: s => (hexChar? m 2 s).filter fun (c, _) => m.unicode || c.toNat < 0x80
  | 'u' :: s => hexChar? m 4 s
  | 'U' :: s => hexChar? m 8 s
  | c :: s =>
    match controlOf? c with
    | some control => some (control, s)
    | none => if isEscapable c then some (c, s) else none
  | [] => none

/-! ## Sets of characters -/

def namedSets : List (String × List (Nat × Nat)) :=
  [("alnum", [(0x30, 0x39), (0x41, 0x5A), (0x61, 0x7A)]), ("alpha", [(0x41, 0x5A), (0x61, 0x7A)]),
    ("ascii", [(0, 0x7F)]), ("blank", [(0x09, 0x09), (0x20, 0x20)]),
    ("cntrl", [(0, 0x1F), (0x7F, 0x7F)]), ("digit", [(0x30, 0x39)]), ("graph", [(0x21, 0x7E)]),
    ("lower", [(0x61, 0x7A)]), ("print", [(0x20, 0x7E)]),
    ("punct", [(0x21, 0x2F), (0x3A, 0x40), (0x5B, 0x60), (0x7B, 0x7E)]),
    ("space", [(0x09, 0x0D), (0x20, 0x20)]), ("upper", [(0x41, 0x5A)]),
    ("word", [(0x30, 0x39), (0x41, 0x5A), (0x5F, 0x5F), (0x61, 0x7A)]),
    ("xdigit", [(0x30, 0x39), (0x41, 0x46), (0x61, 0x66)])]

/-- A named set, `[:name:]` or `[:^name:]`, after its first bracket. -/
def namedSet? : List Char → Option (CharSet × List Char)
  | ':' :: s =>
    let (negated, s) := match s with
      | '^' :: s => (true, s)
      | s => (false, s)
    match s.span (· != ':') with
    | (name, ':' :: ']' :: rest) =>
      (namedSets.lookup (String.ofList name)).map fun rs =>
        (if negated then .compl (.ranges rs) else .ranges rs, rest)
    | _ => none
  | _ => none

/-- A class of characters by its letter. -/
def classOf? : Char → Option CharSet
  | 'd' => some (.ranges [(0x30, 0x39)])
  | 's' => some (.ranges [(0x09, 0x0D), (0x20, 0x20)])
  | 'w' => some (.ranges [(0x30, 0x39), (0x41, 0x5A), (0x5F, 0x5F), (0x61, 0x7A)])
  | 'D' => some (.compl (.ranges [(0x30, 0x39)]))
  | 'S' => some (.compl (.ranges [(0x09, 0x0D), (0x20, 0x20)]))
  | 'W' => some (.compl (.ranges [(0x30, 0x39), (0x41, 0x5A), (0x5F, 0x5F), (0x61, 0x7A)]))
  | _ => none

/-- A character in a set in the mode: of bytes only ASCII makes whole characters, and letters of
both cases are known for ASCII alone. -/
def inMode? (m : PatternMode) (s : CharSet) : Option Pattern :=
  if m.unicode then if m.caseless then none else some (.ofSet true s)
  else if (List.range 0x80).any fun k => s.has (0x80 + k) then none
  else some (.ofSet false s)

/-- A part of a set before case and mode are settled. -/
def part (m : PatternMode) (s : CharSet) : CharSet := if m.caseless then .caseless s else s

/-- One member of a set: a character, or a class by its letter. -/
def member? (m : PatternMode) (s : List Char) : Option ((Char ⊕ CharSet) × List Char) :=
  match s with
  | '\\' :: c :: s =>
    match classOf? c with
    | some set => if m.unicode then none else some (.inr set, s)
    | none => ((escaped? m (c :: s)).filter inBytes).map fun (c, s) => (.inl c, s)
  | '\\' :: [] => none
  | c :: s => (some (c, s) |>.filter inBytes).map fun (c, s) => (.inl c, s)
  | [] => none
where
  inBytes (read : Char × List Char) : Bool := m.unicode || read.1.toNat < 0x80

/-- A member of a set, or a range from one character to another. -/
def range? (m : PatternMode) (s : List Char) : Option (CharSet × List Char) := do
  let (first, s) ← member? m s
  let single : CharSet := match first with
    | .inl c => .single c
    | .inr set => set
  match skip m false s with
  | '-' :: s =>
    match skip m false s with
    | ']' :: _ | '-' :: _ => some (part m single, '-' :: s)
    | s =>
      let (last, s) ← member? m s
      match first, last with
      | .inl a, .inl b => if a ≤ b then some (part m (.ranges [(a.toNat, b.toNat)]), s) else none
      | _, _ => none
  | s => some (part m single, s)

/-- What two signs of a kind between sets stand for. -/
def operation? : Char → Option (CharSet → CharSet → CharSet)
  | '&' => some .inter
  | '-' => some .diff
  | '~' => some .symmDiff
  | _ => none

/-- Members of a set, and how many there are. -/
structure Members where
  members : WrittenSet
  count : Nat

namespace Members

def start : Members := ⟨⟨.none, 0⟩, 0⟩

def add (ms : Members) (s : WrittenSet) : Members :=
  ⟨⟨.union ms.members.set s.set, max ms.members.depth s.depth⟩, ms.count + 1⟩

/-- So many more characters, all the same. -/
def addChars (ms : Members) (s : CharSet) (count : Nat) : Members :=
  if count = 0 then ms else ⟨⟨.union ms.members.set s, ms.members.depth⟩, ms.count + count⟩

/-- The members as one set, nested once more if there are several. -/
def whole (ms : Members) : WrittenSet :=
  if ms.count ≤ 1 then ms.members else ⟨ms.members.set, ms.members.depth + 1⟩

end Members

mutual

def set? (m : PatternMode) : Nat → List Char → Option (WrittenSet × List Char)
  | 0, _ => none
  | fuel + 1, s =>
    let (negated, s) := match skip m false s with
      | '^' :: s => (true, skip m false s)
      | s => (false, s)
    let (dashes, s) := s.span (· == '-')
    let start := Members.start.addChars (part m (.single '-')) dashes.length
    let (start, s) := match dashes, s with
      | [], ']' :: s => (start.addChars (part m (.single ']')) 1, s)
      | _, s => (start, s)
    (members? m id start fuel s).map fun (w, s) =>
      (⟨if negated then .compl w.set else w.set, w.depth + 1⟩, s)

/-- The members of a set, up to its last bracket. What stands before an operation has been joined
into `combine`; `found` is what has been found since. -/
def members? (m : PatternMode) (combine : WrittenSet → WrittenSet) (found : Members) :
    Nat → List Char → Option (WrittenSet × List Char)
  | 0, _ => none
  | fuel + 1, s =>
    let add (result : WrittenSet × List Char) : Option (WrittenSet × List Char) :=
      members? m combine (found.add result.1) fuel result.2
    let addRange (s : List Char) : Option (WrittenSet × List Char) :=
      (range? m s).bind fun (set, s) => add (⟨set, 0⟩, s)
    match skip m false s with
    | [] => none
    | ']' :: s => some (combine found.whole, s)
    | '[' :: s =>
      match namedSet? s with
      | some (set, s) => add (⟨part m set, 0⟩, s)
      | none => (set? m fuel s).bind add
    | a :: b :: s =>
      match operation? a with
      | some operation =>
        if a = b then members? m (.combine operation (combine found.whole)) .start fuel s
        else addRange (a :: b :: s)
      | none => addRange (a :: b :: s)
    | s => addRange s

end

/-! ## Modes -/

def switch? (m : PatternMode) (on : Bool) : Char → Option PatternMode
  | 'i' => some { m with caseless := on }
  | 'm' => some { m with multiline := on }
  | 's' => some { m with dotAll := on }
  | 'U' => some { m with reluctant := on }
  | 'u' => some { m with unicode := on }
  | 'R' => some { m with crlf := on }
  | 'x' => some { m with spaced := on }
  | _ => none

/-- Switch modes by their letters, no letter twice. Those after a sign are switched off. -/
def switchAll? (m : PatternMode) (letters : List Char) : Option PatternMode := do
  let (on, off) := letters.span (· != '-')
  let off ← match off with
    | [] => some []
    | [_] => none
    | _ :: off => some off
  let all := on ++ off
  if all.eraseDups.length < all.length then none
  else
    let m ← on.foldlM (fun m c => switch? m true c) m
    off.foldlM (fun m c => switch? m false c) m

/-- The name of a group, up to the angle that closes it. -/
def groupName? (s : List Char) : Option (List Char × List Char) :=
  match s.span (· != '>') with
  | (c :: name, '>' :: rest) =>
    let starts := c == '_' || Text.isAlphanumeric c && !c.isDigit
    let goesOn (c : Char) := c ∈ ['_', '.', '[', ']'] || Text.isAlphanumeric c
    if starts && name.all goesOn then some (c :: name, rest) else none
  | _ => none

/-- What follows an opening parenthesis: the token, the mode from there on, the name of the group if
it has one, and the rest. -/
def group? (m : PatternMode) : List Char →
    Option (PatternToken × PatternMode × Option (List Char) × List Char)
  | '?' :: 'P' :: '<' :: s | '?' :: '<' :: s =>
    (groupName? s).map fun (name, s) => (opening true, m, some name, s)
  | '?' :: s =>
    match s.span fun c => c != ':' && c != ')' with
    | (letters, ':' :: s) => (switchAll? m letters).map fun m => (opening false, m, none, s)
    | (letters, ')' :: s) =>
      if letters.isEmpty then none
      else (switchAll? m letters).map fun m => (setting, m, none, s)
    | _ => none
  | s => some (opening true, m, none, s)

/-! ## Tokens -/

/-- A character that stands for itself. -/
def literal? (m : PatternMode) (c : Char) : Option PatternToken :=
  if !m.caseless then some (atom (.ofSet true (.single c)) 0)
  else if m.unicode then none
  else some (atom (.ofSet false (.caseless (.single c))) 0)

/-- The set that a point stands for. -/
def point (m : PatternMode) : CharSet :=
  if m.dotAll then .ranges [(0, 0x10FFFF)]
  else if m.crlf then .compl (.ranges [(0x0A, 0x0A), (0x0D, 0x0D)])
  else .compl (.single '\n')

def afterBackslash? (m : PatternMode) : List Char → Option (PatternToken × List Char)
  | [] => none
  | c :: s =>
    let anchor (a : Anchor) : Option (PatternToken × List Char) := some (atom (.anchor a) 0, s)
    match c with
    | 'A' => anchor .textStart
    | 'z' => anchor .textEnd
    | 'b' => anchor (.wordEdge m.unicode false)
    | 'B' => anchor (.wordEdge m.unicode true)
    | '<' => anchor (.wordStart m.unicode)
    | '>' => anchor (.wordEnd m.unicode)
    | c =>
      match classOf? c with
      | some set =>
        if m.unicode then none
        else (inMode? m set).map fun p => (atom p 0, s)
      | none => (escaped? m (c :: s)).bind fun (e, s) => (literal? m e).map fun t => (t, s)

/-- A repetition sign, reluctant if a question mark follows at once. -/
def repetition (m : PatternMode) (quantity : Quantity) (s : List Char) :
    PatternToken × List Char :=
  match s with
  | '?' :: s => (repeated quantity m.reluctant, s)
  | _ => (repeated quantity !m.reluctant, s)

/-- The tokens of a pattern; `modes` are those of the groups that are open, the innermost first, and
`names` the names of groups so far. -/
def tokens? : Nat → List PatternMode → List (List Char) → List Char → Option (List PatternToken)
  | fuel + 1, m :: modes, names, s =>
    let go (t : PatternToken) (s : List Char) : Option (List PatternToken) :=
      (tokens? fuel (m :: modes) names s).map (t :: ·)
    let goAnchor (a : Anchor) (s : List Char) : Option (List PatternToken) :=
      go (atom (.anchor a) 0) s
    match skip m false s with
    | [] => some []
    | '(' :: s => do
      let (t, inner, name, s) ← group? m (skip m false s)
      let names ← match name with
        | none => some names
        | some name => if name ∈ names then none else some (name :: names)
      let modes := match t with
        | setting => inner :: modes
        | _ => inner :: m :: modes
      (tokens? fuel modes names s).map (t :: ·)
    | ')' :: s => (tokens? fuel modes names s).map (closing :: ·)
    | '|' :: s => go bar s
    | '[' :: s => do
      let (w, s) ← set? m fuel s
      go (atom (← inMode? m w.set) w.depth) s
    | '?' :: s => let (t, s) := repetition m .atMostOnce s; go t s
    | '*' :: s => let (t, s) := repetition m .anyNumber s; go t s
    | '+' :: s => let (t, s) := repetition m .atLeastOnce s; go t s
    | '{' :: _ => none
    | '.' :: s =>
      if !m.unicode then none else go (atom (.ofSet true (point m)) 0) s
    | '^' :: s => goAnchor (if m.multiline then .lineStart m.crlf else .textStart) s
    | '$' :: s => goAnchor (if m.multiline then .lineEnd m.crlf else .textEnd) s
    | '\\' :: s => do
      let (t, s) ← afterBackslash? m s
      go t s
    | c :: s => do
      go (← literal? m c) s
  | _, _, _, _ => none

/-- The tokens of a pattern, if it is one. -/
def ofChars? (s : List Char) : Option (List PatternToken) :=
  tokens? (s.length + 1) [PatternMode.standard] [] s

end PatternToken

end RunControl
