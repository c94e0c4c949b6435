import RunControl.Log.Directive

/-!
# Which records are logged

A `LogFilter` is a list of directives. Of the static ones the most specific that fits a record
decides. A dynamic one that fits a span lets records within that span through as well.
`LogFilter.passes` decides about a record and `LogFilter.tracks` about a span: a record shows its
span only if the span is tracked.
-/

namespace RunControl

/-- Which records to let through. -/
structure LogFilter where
  directives : List LogDirective
deriving DecidableEq

namespace LogFilter

def off : LogFilter := ⟨[LogDirective.ofRank 0]⟩

/-- A filter of directives; without any, only errors pass. -/
def ofDirectives : List LogDirective → LogFilter
  | [] => ⟨[LogDirective.ofRank LogLevel.error.rank]⟩
  | directives => ⟨directives⟩

/-- The pieces of a text between commas that are not empty. -/
def pieces (s : String) : List (List Char) := (s.toList.splitOn ',').filter (!·.isEmpty)

/-- What is said about a piece that is left out. -/
def ignoredText (piece : List Char) (e : DirectiveError) : String :=
  "ignoring `" ++ String.ofList piece ++ "`: " ++ e.message ++ "\n"

/-- Read directives between commas and leave out those that make no sense; the second part says
which. -/
def ofText (s : String) : LogFilter × List String :=
  let readings := (pieces s).map fun piece => (piece, LogDirective.ofChars piece)
  (ofDirectives (readings.filterMap fun r => r.2.toOption),
    readings.filterMap fun r => match r.2 with
      | .ok _ => none
      | .error e => some (ignoredText r.1 e))

/-- Read directives between commas, if all of them make sense. -/
def ofText? (s : String) : Option LogFilter :=
  ((pieces s).mapM fun piece => (LogDirective.ofChars piece).toOption).map ofDirectives

/-- Of directives that ask for the same the last. -/
def latest (directives : List LogDirective) : List LogDirective :=
  directives.foldr (fun d later => if later.any d.asksSame then later else d :: later) []

/-- The directives that decide about records wherever they are made. -/
def statics (f : LogFilter) : List LogDirective :=
  latest (f.directives.filter LogDirective.isStatic)

def dynamics (f : LogFilter) : List LogDirective :=
  latest (f.directives.filter LogDirective.isDynamic)

/-- The greatest rank of directives, also of those that later ones replace. -/
def greatest (directives : List LogDirective) : Nat :=
  directives.foldl (fun n d => max n d.rank) 0

/-- No more levels than this pass anywhere. While values are asked for, any level may. -/
def limit (f : LogFilter) : Nat :=
  if f.directives.any LogDirective.asksValue then LogLevel.greatestRank
  else greatest f.directives

/-! ## Static directives -/

def beginsAsAsked (d : LogDirective) (target : String) : Bool :=
  d.target.all fun t => t.toList.isPrefixOf target.toList

/-- How specific a directive is: by its target, then by its field. -/
def specificity (d : LogDirective) : Nat × Option String :=
  ((d.target.map fun t => t.utf8ByteSize + 1).getD 0, d.field.map (·.name))

/-- The first of two is less specific. -/
def isLess (a b : Nat × Option String) : Bool :=
  a.1 < b.1 || (a.1 == b.1 && match a.2, b.2 with
    | none, some _ => true
    | some a, some b => a < b
    | _, none => false)

/-- The more specific of two directives. -/
def moreSpecific (best : Option LogDirective) (d : LogDirective) : Option LogDirective :=
  match best with
  | some b => if isLess (specificity d) (specificity b) then some b else some d
  | none => some d

/-- How many levels pass wherever they are made, for a record with these fields or, without them,
for a span. -/
def staticRank (f : LogFilter) (target : String) (fields : Option (List String)) : Nat :=
  let fits (d : LogDirective) : Bool :=
    beginsAsAsked d target && fields.all fun names => d.field.all fun c => c.name ∈ names
  (((f.statics.filter fits).foldl moreSpecific none).map (·.rank)).getD 0

/-! ## Dynamic directives -/

/-- The directive is about spans like this one, whatever the values of their fields. -/
def isAbout (d : LogDirective) (s : LogSpan) : Bool :=
  beginsAsAsked d s.target && d.span.all (· == s.name) &&
    d.field.all fun c => (s.fields.lookup c.name).isSome

/-- The directive holds of the span. -/
def holdsOf (d : LogDirective) (s : LogSpan) : Bool :=
  isAbout d s && d.field.all fun c => (s.fields.lookup c.name).any c.holds

/-- How many levels pass within a span. -/
def spanRank (f : LogFilter) (s : LogSpan) : Nat :=
  greatest (f.dynamics.filter fun d => holdsOf d s)

def tracks (f : LogFilter) (s : LogSpan) : Bool :=
  s.level.rank ≤ f.limit &&
    (f.dynamics.any (fun d => isAbout d s) || s.level.rank ≤ f.staticRank s.target none)

/-- The record passes: by a static directive, or by the span in which it is made. -/
def passes (f : LogFilter) (r : LogRecord) : Bool :=
  r.level.rank ≤ f.staticRank r.target (some r.fieldNames) ||
    r.span?.any fun s => f.tracks s && r.level.rank ≤ f.spanRank s

/-- The record without its span, unless that is tracked. -/
def see (f : LogFilter) (r : LogRecord) : LogRecord :=
  { r with run := if r.span?.any f.tracks then r.run else none }

end LogFilter

end RunControl
