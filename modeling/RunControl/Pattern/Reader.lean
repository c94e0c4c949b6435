import RunControl.Pattern.Token

/-!
# Reading patterns

`Pattern.read` builds a pattern from its tokens. A repetition belongs to the part right before it, a
bar separates all that stands in the same group. Repetition with counts is not part of the language,
and the parts of a pattern are not nested more deeply than `Pattern.greatestDepth`.
-/

namespace RunControl

/-- Why a pattern cannot be used: it is none, or it asks for words of any script. -/
inductive PatternError
  | malformed
  | anyScript
deriving DecidableEq

/-- What is said about a pattern that cannot be used. -/
def PatternError.message : PatternError → String
  | malformed => "error building NFA"
  | anyScript => "unsupported regex feature for DFAs: cannot build DFAs for regexes with Unicode " ++
      "word boundaries; switch to ASCII word boundaries, or heuristically enable Unicode word " ++
      "boundaries or use a different regex engine"

namespace Pattern

/-- A part of a group: what it stands for, unless it only changes modes, and how deeply it is
nested. -/
structure Part where
  pattern : Option Pattern
  depth : Nat

namespace Part

/-- How deeply nested parts are that stand together: once more than each, if there are several. -/
def depthOf : List Part → Nat
  | [] => 0
  | [p] => p.depth
  | ps => ps.foldl (fun d p => max d p.depth) 0 + 1

end Part

/-- An open group: its number if it has one, the alternatives that are complete, and the parts of
the one that is not, each the latest first. -/
structure Group where
  number : Option Nat
  alternatives : List Part
  parts : List Part

namespace Group

def start (number : Option Nat) : Group := ⟨number, [], []⟩

def sequence (g : Group) : Part :=
  ⟨some (joined (g.parts.reverse.filterMap Part.pattern)), Part.depthOf g.parts⟩

/-- The alternatives, the first preferred. -/
def whole (g : Group) : Part :=
  match g.alternatives with
  | [] => g.sequence
  | _ :: _ =>
    let ps := g.sequence :: g.alternatives
    ⟨some (oneOf (ps.reverse.filterMap Part.pattern)), Part.depthOf ps⟩

/-- The group as a part of another one. -/
def closed (g : Group) : Part :=
  let pattern := match g.number with
    | none => g.whole.pattern
    | some n => g.whole.pattern.map (.group n)
  ⟨pattern, g.whole.depth + 1⟩

def add (g : Group) (part : Part) : Group := { g with parts := part :: g.parts }

def next (g : Group) : Group := ⟨g.number, g.sequence :: g.alternatives, []⟩

def repeatLast? (g : Group) (quantity : Quantity) (greedy : Bool) : Option Group :=
  match g.parts with
  | ⟨some p, depth⟩ :: rest =>
    some { g with parts := ⟨some (times quantity greedy p), depth + 1⟩ :: rest }
  | _ => none

end Group

/-- Build a pattern; the open groups come with the innermost first, and `count` numbers have been
given to groups. -/
def build? : List PatternToken → Nat → Group → List Group → Option Part
  | [], _, g, [] => some g.whole
  | [], _, _, _ :: _ => none
  | .atom p depth :: ts, count, g, outer => build? ts count (g.add ⟨some p, depth⟩) outer
  | .setting :: ts, count, g, outer => build? ts count (g.add ⟨none, 0⟩) outer
  | .bar :: ts, count, g, outer => build? ts count g.next outer
  | .opening false :: ts, count, g, outer => build? ts count (.start none) (g :: outer)
  | .opening true :: ts, count, g, outer => build? ts (count + 1) (.start (some count)) (g :: outer)
  | .closing :: ts, count, g, o :: outer => build? ts count (o.add g.closed) outer
  | .closing :: _, _, _, [] => none
  | .repeated quantity greedy :: ts, count, g, outer =>
    (g.repeatLast? quantity greedy).bind fun g => build? ts count g outer

/-- How deeply the parts of a pattern may be nested. -/
def greatestDepth : Nat := 250

def read (s : List Char) : Except PatternError Pattern :=
  let part? := (PatternToken.ofChars? s).bind fun ts => build? ts 0 (.start none) []
  match (part?.filter (·.depth ≤ greatestDepth)).bind Part.pattern with
  | none => .error .malformed
  | some p => if p.isAnyScript then .error .anyScript else .ok p

end Pattern

end RunControl
