import RunControl.Fault
import RunControl.Result

/-!
# The roster of observers

A `Roster` lists the registered observers in the order of their registration. A `Script` is what a
piece of code does with a roster: it adds, removes, drains and notifies, and may panic. The
callbacks of a notification are scripts of their own, so that notifications nest. `Script.run`
does it, and records what happens: a notification calls those who were registered when it began, in
order, up to the first that panics.
-/

namespace RunControl

/-- The registered observers, earliest first. -/
structure Roster (α : Type) where
  members : List α
deriving DecidableEq

namespace Roster

variable {α : Type}

def empty : Roster α := ⟨[]⟩

/-- Register an observer at the end; one that is registered keeps its place. -/
def add [DecidableEq α] (r : Roster α) (o : α) : Roster α :=
  if o ∈ r.members then r else ⟨r.members ++ [o]⟩

/-- Remove an observer, if it is registered. -/
def remove [DecidableEq α] (r : Roster α) (o : α) : Roster α := ⟨r.members.filter fun m => m ≠ o⟩

/-- What a piece of code does with a roster. With `attempt` it goes on with what came of a part, be
it a panic. -/
inductive Script (α : Type)
  | done
  | panic (payload : Payload)
  | add (o : α) (rest : Script α)
  | remove (o : α) (rest : Script α)
  | drain (rest : List α → Script α)
  | notify (notice : Notice) (react : α → Script α) (rest : Script α)
  | attempt (part : Script α) (rest : Option Payload → Script α)

/-- Something that happens to a roster. A notification begins with those that it calls, each with
the panic in which its call ends, if any; the calls follow. -/
inductive Happening (α : Type)
  | added (o : α)
  | removed (o : α)
  | drained (taken : List α)
  | notified (notice : Notice) (told : List (α × Option Payload))
  | called (o : α) (notice : Notice)

def Happening.call? : Happening α → Option (α × Notice)
  | called o notice => some (o, notice)
  | _ => none

/-- What came of a script: what happened, the roster, and the panic if it ended in one. -/
structure Outcome (α : Type) where
  happenings : List (Happening α)
  roster : Roster α
  panic : Option Payload

namespace Outcome

def calls (o : Outcome α) : List (α × Notice) := o.happenings.filterMap Happening.call?

def after (o : Outcome α) (first : Happening α) : Outcome α :=
  { o with happenings := first :: o.happenings }

theorem panic_after (o : Outcome α) (first : Happening α) : (o.after first).panic = o.panic := rfl

def andThen (o next : Outcome α) : Outcome α :=
  { next with happenings := o.happenings ++ next.happenings }

end Outcome

/-- What came of calling observers: which ones were called, and the panic of each call. -/
structure Delivery (α : Type) extends Outcome α where
  told : List (α × Option Payload)

/-- Call observers in order, each by `call`, up to the first that panics. -/
def deliver (call : α → Roster α → Outcome α) (notice : Notice) :
    List α → Roster α → Delivery α
  | [], r => ⟨⟨[], r, none⟩, []⟩
  | o :: rest, r =>
    let first := (call o r).after (.called o notice)
    match first.panic with
    | some payload => ⟨first, [(o, some payload)]⟩
    | none =>
      let others := deliver call notice rest first.roster
      ⟨first.andThen others.toOutcome, (o, none) :: others.told⟩

def Script.run [DecidableEq α] : Script α → Roster α → Outcome α
  | done, r => ⟨[], r, none⟩
  | panic payload, r => ⟨[], r, some payload⟩
  | add o rest, r => (rest.run (r.add o)).after (.added o)
  | remove o rest, r => (rest.run (r.remove o)).after (.removed o)
  | drain rest, r => ((rest r.members).run empty).after (.drained r.members)
  | notify notice react rest, r =>
    let delivery := deliver (fun o r => (react o).run r) notice r.members r
    let outcome := delivery.toOutcome.after (.notified notice delivery.told)
    match outcome.panic with
    | some _ => outcome
    | none => outcome.andThen (rest.run outcome.roster)
  | attempt part rest, r =>
    let outcome := part.run r
    outcome.andThen ((rest outcome.panic).run outcome.roster)

end Roster

end RunControl
