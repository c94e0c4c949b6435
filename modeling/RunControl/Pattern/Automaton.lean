import RunControl.Pattern

/-!
# Automata of patterns

An `Automaton` follows all ways to match a pattern at once, the preferred way first. Places are kept
in the order of preference, each place once: a way that leads to a place that a preferred way has
reached is given up, and so is every way behind one that has come to its end.

* `Automaton.ofPattern` builds the automaton; it may start anywhere in the text;
* `Automaton.close` goes as far as is possible without a character;
* **`Pattern.reachesEnd`** holds of a text whose preferred match ends with the text.
-/

namespace RunControl

/-- A place in an automaton, which is passed with a character in one of the ranges, both ways with
the first preferred, or where a condition holds. -/
inductive Junction
  | take (ranges : List (Nat × Nat)) (next : Nat)
  | fork (first second : Nat)
  | check (a : Anchor) (next : Nat)
  | finish

namespace Junction

/-- A way on that is preferred if greedy, and a way out. -/
def loop (greedy : Bool) (on out : Nat) : Junction := if greedy then fork on out else fork out on

/-- The place does nothing but lead on. -/
def isFork : Junction → Bool
  | fork _ _ => true
  | _ => false

def isFinish : Junction → Bool
  | finish => true
  | _ => false

end Junction

/-- Places by number. -/
structure Automaton where
  junctions : Array Junction
  start : Nat

namespace Automaton

/-! ## Construction -/

/-- Add the places of a pattern that lead on to `next`; the number of the first place, and all
places. Repetition of what may take no character is entered apart from its loop, so that the first
round may be empty and no later one. -/
def add : Pattern → Nat → Array Junction → Nat × Array Junction
  | .empty, next, js => (next, js)
  | .one _ rs, next, js => (js.size, js.push (.take rs next))
  | .anchor a, next, js => (js.size, js.push (.check a next))
  | .group _ p, next, js => add p next js
  | .seq p q, next, js =>
    let (second, js) := add q next js
    add p second js
  | .either p q, next, js =>
    let (first, js) := add p next js
    let (second, js) := add q next js
    (js.size, js.push (.fork first second))
  | .repeated .atMostOnce greedy p, next, js =>
    let (first, js) := add p next js
    (js.size, js.push (.loop greedy first next))
  | .repeated .atLeastOnce greedy p, next, js =>
    let again := js.size
    let (first, js) := add p again (js.push .finish)
    (first, js.setIfInBounds again (.loop greedy first next))
  | .repeated .anyNumber greedy p, next, js =>
    let again := js.size
    let (first, js) := add p again (js.push .finish)
    let js := js.setIfInBounds again (.loop greedy first next)
    if p.isConsuming then (again, js) else (js.size, js.push (.loop greedy first next))

/-- The automaton of a pattern. A match that starts earlier is preferred. -/
def ofPattern (p : Pattern) : Automaton :=
  let anywhere := #[.finish, .finish, .take [(0, CharSet.codeCount)] 1]
  let (first, js) := add p 0 anywhere
  ⟨js.setIfInBounds 1 (.fork first 2), 1⟩

/-! ## Runs -/

/-- All places that are reached without a character, in the order of preference. -/
def closeAll (m : Automaton) (holds : Anchor → Bool) :
    Nat → List Nat → Array Bool → List Nat → List Nat
  | 0, _, _, found => found.reverse
  | _, [], _, found => found.reverse
  | fuel + 1, i :: rest, seen, found =>
    if seen.getD i true then closeAll m holds fuel rest seen found
    else
      let seen := seen.setIfInBounds i true
      match m.junctions[i]? with
      | some (.fork a b) => closeAll m holds fuel (a :: b :: rest) seen (i :: found)
      | some (.check a next) =>
        closeAll m holds fuel (if holds a then next :: rest else rest) seen (i :: found)
      | _ => closeAll m holds fuel rest seen (i :: found)

/-- The places that are reached without a character and do more than lead on. -/
def close (m : Automaton) (holds : Anchor → Bool) (starts : List Nat) : List Nat :=
  (closeAll m holds (starts.length + 2 * m.junctions.size) starts
    (Array.replicate m.junctions.size false) []).filter
      fun i => !m.junctions[i]?.any Junction.isFork

/-- The condition of a place holds, and did not before what follows was seen. -/
def isNews (m : Automaton) (before after : Option Char) (i : Nat) : Bool :=
  match m.junctions[i]? with
  | some (.check a _) => a.holds before after && !a.holdsEarly before
  | _ => false

/-- The places once it is seen what follows. -/
def settle (m : Automaton) (before after : Option Char) (places : List Nat) : List Nat :=
  if places.any (m.isNews before after) then m.close (Anchor.holds before after) places
  else places

def isFinish (m : Automaton) (i : Nat) : Bool := m.junctions[i]?.any Junction.isFinish

/-- Where a character leads from a place. -/
def next? (m : Automaton) (c : Char) (i : Nat) : Option Nat :=
  match m.junctions[i]? with
  | some (.take rs next) => if CharSet.isWithin rs c.toNat then some next else none
  | _ => none

/-- Some way from the places comes to its end with the text. -/
def accepts (m : Automaton) (before : Option Char) (places : List Nat) : List Char → Bool
  | [] => (m.settle before none places).any m.isFinish
  | c :: text =>
    let ways := (m.settle before (some c) places).takeWhile fun i => !m.isFinish i
    m.accepts (some c) (m.close (Anchor.holdsEarly (some c)) (ways.filterMap (m.next? c))) text

end Automaton

/-- The preferred match of the pattern ends with the text. -/
def Pattern.reachesEnd (p : Pattern) (text : List Char) : Bool :=
  let m := Automaton.ofPattern p
  m.accepts none (m.close (Anchor.holdsEarly none) [m.start]) text

end RunControl
