import RunControl.Binary64

/-!
# Documents as readers see them

A reader of the domain's types asks a document for one of its views: null, a truth value, a number,
a text, items, members, a choice. `Source δ` gives these views of the documents `δ`, so that a
reader is written once for every kind of document. `Source.fields?` is the view for a structure: an
object, or an array of the fields in order.
-/

namespace RunControl

/-- The views of a document. A choice has no content, a tag is at the head of an array, and in a
strict source an array of fields may not be longer than the structure. -/
class Source (δ : Type) where
  isNull : δ → Bool
  truth? : δ → Option Bool
  integer? : δ → Option Int
  real? : δ → Option Binary64
  text? : δ → Option String
  items? : δ → Option (List δ)
  members? : δ → Option (List (String × δ))
  choice? : δ → Option String
  tag? : List String → δ → Option String
  strict : Bool

namespace Source

variable {δ α : Type} [Source δ]

/-- A natural number up to `limit`. -/
def natural? (limit : Nat) (d : δ) : Option Nat :=
  (integer? d).bind fun n => if 0 ≤ n ∧ n ≤ limit then some n.toNat else none

def named? (all : List α) (name : α → String) (d : δ) : Option α :=
  (choice? d).bind fun s => all.find? fun a => name a = s

def nullable? (read? : δ → Option α) (d : δ) : Option (Option α) :=
  if isNull d then some none else (read? d).map some

def member? (members : List (String × δ)) (name : String) : Option (Option δ) :=
  match members.filter fun m => m.1 = name with
  | [] => some none
  | [m] => some (some m.2)
  | _ => none

/-- The fields with these names, of an object or of an array. Members of other names are passed
over, and no name may stand twice. Where `all` holds, an array has to have every field. -/
def fields? (all : Bool) (names : List String) (d : δ) : Option (List (Option δ)) :=
  match members? d, items? d with
  | some members, _ => names.mapM (member? members)
  | none, some items =>
    let missing := names.length - items.length
    if all && 0 < missing then none
    else if strict δ && names.length < items.length then none
    else some ((items.take names.length).map some ++ List.replicate missing none)
  | none, none => none

def required? (read? : δ → Option α) (field : Option δ) : Option α := field.bind read?

/-- A field that may be missing or null. -/
def optional? (read? : δ → Option α) : Option δ → Option (Option α)
  | some d => nullable? read? d
  | none => some none

/-- A field that stands for `default` when it is missing. -/
def orElse? (default : α) (read? : δ → Option α) : Option δ → Option α
  | some d => read? d
  | none => some default

end Source

end RunControl
