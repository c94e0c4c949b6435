import RunControl.Source

/-!
# TOML documents

`Toml` is what a configuration file says: values and tables. A table remembers how it came about,
because that decides who may still add to it. `Toml.addEntry`, `Toml.openTable` and `Toml.openItem`
are the three ways in which a line of a file changes the document; each answers `none` where the
line would define something twice.
-/

namespace RunControl

/-- How a table came about: by a header or as the whole document, as a part of the name in the
header of another table, as a part of a dotted key, as a value (it is complete then), or as a part
of a dotted key in such a value. -/
inductive TableKind
  | headed
  | implied
  | dotted
  | inline
  | inlineDotted
deriving DecidableEq

/-- A document, or a part of it. A date, a time, or both, is kept as it is written. There are tables
under headers of one name, and a table has its entries in the order of definition. -/
inductive Toml
  | text (s : String)
  | integer (n : Int64)
  | real (x : Binary64)
  | boolean (b : Bool)
  | moment (written : List Char)
  | array (items : List Toml)
  | tables (items : List Toml)
  | table (kind : TableKind) (entries : List (String × Toml))

namespace TableKind

/-- The table comes from a dotted key. -/
def isDotted (k : TableKind) : Bool := k == dotted || k == inlineDotted

/-- The table is a value, or within one. -/
def isInline (k : TableKind) : Bool := k == inline || k == inlineDotted

/-- A dotted key of a line may go through the table. -/
def isOpen (k : TableKind) : Bool := k == implied || k == dotted

end TableKind

namespace Toml

/-- The document before the first line. -/
def empty : Toml := table .headed []

/-- Put another value at a key that is there. -/
def replace (key : String) (v : Toml) : List (String × Toml) → List (String × Toml)
  | [] => []
  | (k, old) :: rest => if k = key then (k, v) :: rest else (k, old) :: replace key v rest

def modifyLast (f : Toml → Option Toml) : List Toml → Option (List Toml)
  | [] => none
  | [item] => (f item).map fun v => [v]
  | item :: rest => (modifyLast f rest).map (item :: ·)

/-- Change the table at a path. Tables that are missing on the way are made, of the kind `made`; of
those that are there, only the kinds that satisfy `enter` may be gone through. Of tables under one
header, the way leads through the last. -/
def update (made : TableKind) (enter : TableKind → Bool) (f : Toml → Option Toml) :
    List String → Toml → Option Toml
  | [], t => f t
  | key :: path, table kind entries =>
    match entries.lookup key with
    | none =>
      (update made enter f path (table made [])).map fun v =>
        table kind (entries ++ [(key, v)])
    | some (table k es) =>
      if enter k then
        (update made enter f path (table k es)).map fun v => table kind (replace key v entries)
      else none
    | some (tables items) =>
      (modifyLast (update made enter f path) items).map fun items =>
        table kind (replace key (tables items) entries)
    | some _ => none
  | _ :: _, _ => none

/-- Define a key in a table, reached by a dotted key or not. -/
def define (viaDots : Bool) (key : String) (v : Toml) : Toml → Option Toml
  | table kind entries =>
    if kind.isDotted != viaDots || (entries.lookup key).isSome then none
    else some (table kind (entries ++ [(key, v)]))
  | _ => none

/-- Split a dotted key into the way to a table and the key in it. -/
def splitPath (path : List String) : List String × String := (path.dropLast, path.getLast?.getD "")

/-- Define a dotted key below a table. -/
def addEntry (made : TableKind) (enter : TableKind → Bool) (path : List String) (v : Toml)
    (t : Toml) : Option Toml :=
  let (way, key) := splitPath path
  update made enter (define (!way.isEmpty) key v) way t

/-- A header: define the table with this name. One that was only implied so far keeps what is in
it. -/
def openTable (path : List String) (t : Toml) : Option Toml :=
  let (way, key) := splitPath path
  let headed : Toml → Option Toml
    | table kind entries => match entries.lookup key with
      | none => some (table kind (entries ++ [(key, table .headed [])]))
      | some (table .implied es) =>
        some (table kind (entries.filter (fun e => e.1 ≠ key) ++ [(key, table .headed es)]))
      | some _ => none
    | _ => none
  update .implied (fun k => !k.isInline) headed way t

/-- A header in double brackets: begin another table of this name. -/
def openItem (path : List String) (t : Toml) : Option Toml :=
  let (way, key) := splitPath path
  let another : Toml → Option Toml
    | table kind entries => match entries.lookup key with
      | none => some (table kind (entries ++ [(key, tables [table .headed []])]))
      | some (tables items) =>
        some (table kind (replace key (tables (items ++ [table .headed []])) entries))
      | some _ => none
    | _ => none
  update .implied (fun k => !k.isInline) another way t

/-- A line: define a dotted key in the table with the name `header`. -/
def addLine (header path : List String) (v : Toml) (t : Toml) : Option Toml :=
  update .headed (fun _ => true) (addEntry .dotted TableKind.isOpen path v) header t

/-! ## Tables as sources -/

def isBlank : Toml → Bool
  | array [] | tables [] | table _ [] => true
  | _ => false

/-- The name of a choice: a text, or the one key of a table with nothing in it. -/
def choice? : Toml → Option String
  | text s => some s
  | table _ [(name, v)] => if v.isBlank then some name else none
  | _ => none

/-- The entries of a table. A date counts as a table with an entry of no name. -/
def entries? : Toml → Option (List (String × Toml))
  | table _ entries => some entries
  | moment written => some [("", text (String.ofList written))]
  | _ => none

instance : Source Toml where
  isNull _ := false
  truth?
    | boolean b => some b
    | _ => none
  integer?
    | integer n => some n.toInt
    | _ => none
  real?
    | real x => some x
    | integer n => some (Binary64.ofInt n.toInt)
    | _ => none
  text?
    | text s => some s
    | _ => none
  items?
    | array items | tables items => some items
    | _ => none
  members? := entries?
  choice? := choice?
  tag? _ _ := none
  strict := false

end Toml

end RunControl
