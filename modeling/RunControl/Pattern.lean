import RunControl.Text

/-!
# Patterns

A `Pattern` is a regular expression with greedy and reluctant repetition. It is built with
`Pattern.ofSet`, `Pattern.joined`, `Pattern.oneOf` and `Pattern.times`, which keep it in a normal
form: a sequence has no sequence as its first part, an alternative is no choice, and what all
alternatives begin with stands before the choice.

* sets of characters: `CharSet`, `CharSet.has`, `CharSet.spans`;
* conditions on a place in a text: `Anchor`, `Anchor.holds`, `Anchor.holdsEarly`;
* the normal form: `Pattern.parts`, `Pattern.alternatives`, `Pattern.sharedStart`.
-/

namespace RunControl

/-! ## Sets of characters -/

/-- A set of characters; a caseless one has both cases of each ASCII letter in it. -/
inductive CharSet
  | ranges (ranges : List (Nat × Nat))
  | union (a b : CharSet)
  | inter (a b : CharSet)
  | diff (a b : CharSet)
  | symmDiff (a b : CharSet)
  | compl (a : CharSet)
  | caseless (a : CharSet)
deriving DecidableEq

namespace CharSet

def none : CharSet := ranges []

def single (c : Char) : CharSet := ranges [(c.toNat, c.toNat)]

/-- A number is in one of the ranges. -/
def isWithin (rs : List (Nat × Nat)) (k : Nat) : Bool := rs.any fun r => r.1 ≤ k && k ≤ r.2

/-- The code of the small letter, for an ASCII letter. -/
def smallCode (k : Nat) : Nat := if 0x41 ≤ k ∧ k ≤ 0x5A then k + 0x20 else k

/-- The code of the capital letter, for an ASCII letter. -/
def capitalCode (k : Nat) : Nat := if 0x61 ≤ k ∧ k ≤ 0x7A then k - 0x20 else k

/-- The character of a code is in the set. -/
def has : CharSet → Nat → Bool
  | ranges rs, k => isWithin rs k
  | union a b, k => a.has k || b.has k
  | inter a b, k => a.has k && b.has k
  | diff a b, k => a.has k && !b.has k
  | symmDiff a b, k => a.has k != b.has k
  | compl a, k => !a.has k
  | caseless a, k => a.has (smallCode k) || a.has (capitalCode k)

/-- The codes at which membership may change. -/
def edges : CharSet → List Nat
  | ranges rs => rs.flatMap fun r => [r.1, r.2 + 1]
  | union a b | inter a b | diff a b | symmDiff a b => a.edges ++ b.edges
  | compl a => a.edges
  | caseless a =>
    let es := a.edges
    es ++ es.map (· + 0x20) ++ es.map (· - 0x20) ++ [0x41, 0x5B, 0x61, 0x7B]

def codeCount : Nat := 0x110000

/-- The stretches between ascending edges that are in the set, each with the one that follows it
where they touch. -/
def stretches (s : CharSet) : List Nat → List (Nat × Nat)
  | a :: b :: es =>
    let rest := stretches s (b :: es)
    if a = b ∨ !s.has a then rest
    else
      match rest with
      | (c, d) :: rest => if c = b then (a, d) :: rest else (a, b - 1) :: (c, d) :: rest
      | [] => [(a, b - 1)]
  | _ => []

/-- The set as ascending ranges that do not touch: equal for sets of the same characters. -/
def spans (s : CharSet) : List (Nat × Nat) :=
  s.stretches ((0 :: codeCount :: s.edges.filter (· < codeCount)).mergeSort fun a b => a ≤ b)

end CharSet

/-! ## Conditions on a place -/

/-- A condition on a place in a text. A line may be ended by a carriage return too. The edge of a
word may be negated, and words are of any script or of ASCII. -/
inductive Anchor
  | textStart
  | textEnd
  | lineStart (carriage : Bool)
  | lineEnd (carriage : Bool)
  | wordEdge (anyScript negated : Bool)
  | wordStart (anyScript : Bool)
  | wordEnd (anyScript : Bool)
deriving DecidableEq

namespace Anchor

/-- A letter or digit of ASCII, or an underscore. -/
def isWordChar (c : Char) : Bool := c.isAlphanum || c == '_'

/-- The condition holds between two characters, either of which may be missing. Words are told by
ASCII letters. -/
def holds (before after : Option Char) : Anchor → Bool
  | textStart => before.isNone
  | textEnd => after.isNone
  | lineStart false => before.all (· == '\n')
  | lineStart true => before.all fun c => c == '\n' || c == '\r' && after != some '\n'
  | lineEnd false => after.all (· == '\n')
  | lineEnd true => after.all fun c => c == '\r' || c == '\n' && before != some '\r'
  | wordEdge _ negated => (before.any isWordChar != after.any isWordChar) != negated
  | wordStart _ => !before.any isWordChar && after.any isWordChar
  | wordEnd _ => before.any isWordChar && !after.any isWordChar

/-- The condition is known to hold before what follows is seen. -/
def holdsEarly (before : Option Char) : Anchor → Bool
  | textStart => before.isNone
  | lineStart _ => before.all (· == '\n')
  | _ => false

/-- The condition asks for words of any script. -/
def isAnyScript : Anchor → Bool
  | wordEdge anyScript _ | wordStart anyScript | wordEnd anyScript => anyScript
  | _ => false

end Anchor

/-! ## Patterns -/

/-- How often. -/
inductive Quantity
  | atMostOnce
  | anyNumber
  | atLeastOnce
deriving DecidableEq

/-- A regular expression. Sets of characters and sets of bytes are told apart. Of two ways the first
is preferred, a greedy repetition prefers more, and a group has the number it is known by. -/
inductive Pattern
  | empty
  | one (unicode : Bool) (ranges : List (Nat × Nat))
  | anchor (a : Anchor)
  | seq (p q : Pattern)
  | either (p q : Pattern)
  | repeated (quantity : Quantity) (greedy : Bool) (p : Pattern)
  | group (number : Nat) (p : Pattern)
deriving DecidableEq

namespace Pattern

/-- A character of a set. A set of one character is that character, of whichever kind it is. -/
def ofSet (unicode : Bool) (s : CharSet) : Pattern :=
  match s.spans with
  | [] => one true []
  | [(a, b)] => one (unicode || a == b) [(a, b)]
  | rs => one unicode rs

/-! ## Sequences -/

def parts : Pattern → List Pattern
  | empty => []
  | seq p q => p :: parts q
  | p => [p]

/-- The patterns one after the other. -/
def inOrder : List Pattern → Pattern
  | [] => empty
  | [p] => p
  | p :: ps => seq p (inOrder ps)

/-- The parts of the patterns one after the other. -/
def joined (ps : List Pattern) : Pattern := inOrder (ps.flatMap parts)

/-! ## Choices -/

def alternatives : Pattern → List Pattern
  | either p q => p :: alternatives q
  | p => [p]

/-- The code of a pattern that stands for one character. -/
def single? : Pattern → Option Nat
  | one _ [(a, b)] => if a = b then some a else none
  | _ => none

/-- The ranges of a pattern that stands for a set, not for one character. -/
def ranges? (p : Pattern) : Option (List (Nat × Nat)) :=
  match p with
  | one _ rs => if p.single?.isSome then none else some rs
  | _ => none

/-- The set that the alternatives make up, if they are single characters or if they are sets. -/
def merged? (ps : List Pattern) : Option CharSet :=
  match ps.mapM single? with
  | some codes => some (.ranges (codes.map fun k => (k, k)))
  | none => (ps.mapM ranges?).map fun rss => .ranges rss.flatten

/-- The alternatives, the first preferred; none of them matches where there are none. -/
def inPreference : List Pattern → Pattern
  | [] => one true []
  | [p] => p
  | p :: ps => either p (inPreference ps)

/-- A choice with no regard to how the alternatives begin. -/
def choice (ps : List Pattern) : Pattern :=
  match ps, merged? ps with
  | _ :: _ :: _, some s => ofSet true s
  | _, _ => inPreference ps

def sharedPrefix : List Pattern → List Pattern → List Pattern
  | p :: ps, q :: qs => if p = q then p :: sharedPrefix ps qs else []
  | _, _ => []

/-- What all alternatives begin with, if every one of them is a sequence. -/
def sharedStart (ps : List Pattern) : List Pattern :=
  match ps.map parts with
  | [] => []
  | first :: rest =>
    if (first :: rest).all fun l => 2 ≤ l.length then rest.foldl sharedPrefix first else []

/-- Any of the patterns, the first preferred. What they all begin with is tried once for all of
them, so it is settled before one of them is chosen. -/
def oneOf (ps : List Pattern) : Pattern :=
  let ps := ps.flatMap alternatives
  match sharedStart ps with
  | [] => choice ps
  | start =>
    let rests := ps.map fun p => inOrder ((parts p).drop start.length)
    joined (start ++ [choice (rests.flatMap alternatives)])

/-! ## Repetition -/

/-- The least length of a match, if there is one. -/
def minLength? : Pattern → Option Nat
  | empty | anchor _ => some 0
  | one _ rs => if rs.isEmpty then none else some 1
  | seq p q => p.minLength?.bind fun a => q.minLength?.map (a + ·)
  | either p q => p.minLength?.bind fun a => q.minLength?.map (min a ·)
  | repeated .atLeastOnce _ p => p.minLength?
  | repeated _ _ p => p.minLength?.map fun _ => 0
  | group _ p => p.minLength?

/-- A match takes at least one character. -/
def isConsuming (p : Pattern) : Bool := p.minLength?.any (0 < ·)

def isBlank : Pattern → Bool
  | empty | anchor _ => true
  | one _ _ => false
  | seq p q | either p q => p.isBlank && q.isBlank
  | repeated .atMostOnce _ p => p.isBlank
  | repeated _ _ _ => false
  | group _ p => p.isBlank

/-- A pattern so many times. One that takes no character is not tried again. -/
def times (quantity : Quantity) (greedy : Bool) (p : Pattern) : Pattern :=
  match p.isBlank, quantity with
  | true, .atLeastOnce => p
  | true, _ => repeated .atMostOnce greedy p
  | false, _ => repeated quantity greedy p

/-- Some condition in the pattern asks for words of any script. -/
def isAnyScript : Pattern → Bool
  | empty | one _ _ => false
  | anchor a => a.isAnyScript
  | seq p q | either p q => p.isAnyScript || q.isAnyScript
  | repeated _ _ p | group _ p => p.isAnyScript

end Pattern

end RunControl
