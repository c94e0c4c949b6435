import RunControl.CommandLine.Switch

/-!
# Reading the command line

`Invocation.ofArguments` reads the words after the name of the program. Each part of the command
line is read into a `Draft`; a switch that takes a value is pending until the value has come. After
the name of the demo, a word that looks like a switch but is none begins the arguments of the
program, and from then on every word is one of them. Of several faults the first that is noticed
wins; a part is checked as a whole after everything to the right of it.
-/

namespace RunControl

/-- What help is asked about; help itself is a command. -/
inductive HelpTopic
  | scope (scope : Scope)
  | help
deriving DecidableEq

/-- Why there is no invocation: help or the version was asked for, nothing was, or something is
wrong. -/
inductive UsageError
  | unknownArgument
  | invalidCommand
  | missingArgument
  | missingCommand
  | conflict
  | invalidValue
  | tooManyValues
  | help (topic : HelpTopic)
  | version
  | nothing
deriving DecidableEq

/-- The exit status; being asked for help is no failure. -/
def UsageError.exitCode : UsageError → Nat
  | help _ | version => 0
  | _ => 2

/-- What a part of the command line says so far; `pending` is a switch that takes a value, and the
value once it has come. -/
structure Draft where
  pending : Option (Switch × Option String)
  given : List (Switch × String)
  positionals : List String

namespace Draft

def empty : Draft := ⟨none, [], []⟩

/-- The next word is the value of a switch. -/
def awaitsValue (d : Draft) : Bool :=
  match d.pending with
  | some (_, none) => true
  | _ => false

def has (d : Draft) (s : Switch) : Bool := d.given.any fun g => g.1 = s

def value? (d : Draft) (s : Switch) : Option String := d.given.lookup s

/-- A switch is given, with its value. No switch is given twice. -/
def record (d : Draft) (s : Switch) (v : String) : Except UsageError Draft :=
  if d.has s then .error .conflict
  else if s.accepts v then .ok { d with given := (s, v) :: d.given }
  else .error .invalidValue

/-- Nothing more is to come for the pending switch. -/
def settle (d : Draft) : Except UsageError Draft :=
  match d.pending with
  | none => .ok d
  | some (_, none) => .error .invalidValue
  | some (s, some v) => { d with pending := none }.record s v

def flag (d : Draft) (scope : Scope) (s : Switch) : Except UsageError Draft := do
  let d ← d.settle
  match s with
  | .help => .error (.help (.scope scope))
  | .version => .error .version
  | s => d.record s ""

/-- A switch together with its value. -/
def attach (d : Draft) (s : Switch) (v : String) : Except UsageError Draft := do
  (← d.settle).record s v

/-- A switch whose value is to come. -/
def expect (d : Draft) (s : Switch) : Except UsageError Draft := do
  return { ← d.settle with pending := some (s, none) }

/-- Words that look like switches may be arguments of the program. -/
def allowsAnyWord (d : Draft) (scope : Scope) : Bool := scope == .run && !d.positionals.isEmpty

end Draft

namespace CommandLine

def splitValue (s : List Char) : String × Option String :=
  match s.span (· != '=') with
  | (name, '=' :: v) => (String.ofList name, some (String.ofList v))
  | (name, _) => (String.ofList name, none)

/-- A word after two hyphens; nothing if it may be an argument of the program. -/
def readLong (scope : Scope) (d : Draft) (s : List Char) : Except UsageError (Option Draft) :=
  let (name, v) := splitValue s
  match scope.findLong? name, v with
  | some switch, some v =>
    if switch.takesValue then (d.attach switch v).map some else .error .tooManyValues
  | some switch, none =>
    if switch.takesValue then (d.expect switch).map some else (d.flag scope switch).map some
  | none, _ => if d.allowsAnyWord scope then .ok none else .error .unknownArgument

/-- The short switches of a word, up to one that takes a value. -/
def readCluster (scope : Scope) (d : Draft) : List Char → Except UsageError Draft
  | [] => .ok d
  | c :: rest =>
    match scope.findShort? c with
    | none => .error .unknownArgument
    | some s =>
      if s.takesValue then
        match rest with
        | [] => d.expect s
        | '=' :: v => d.attach s (String.ofList v)
        | v => d.attach s (String.ofList v)
      else
        match d.flag scope s with
        | .ok d => readCluster scope d rest
        | .error e => .error e

/-- A word after one hyphen; nothing if it may be an argument of the program. -/
def readShort (scope : Scope) (d : Draft) (s : List Char) : Except UsageError (Option Draft) :=
  if d.allowsAnyWord scope && s.any fun c => (scope.findShort? c).isNone then .ok none
  else (readCluster scope d s).map some

/-- The commands. -/
inductive Verb
  | run
  | list
  | help
deriving DecidableEq

/-- The command with a name, where there is one to come. -/
def verb? (scope : Scope) (word : String) : Option Verb :=
  if scope = .top then [("run", Verb.run), ("list", .list), ("help", .help)].lookup word else none

/-- What help is asked about, by the words after the command for it. -/
def helpTopic (words : List String) : UsageError :=
  match words with
  | [] => .help (.scope .top)
  | [word] => match verb? .top word with
    | some .run => .help (.scope .run)
    | some .list => .help (.scope .list)
    | some .help => .help .help
    | none => .invalidCommand
  | _ => .invalidCommand

/-- A word that is no switch and no value of one. -/
def readPlain (scope : Scope) (trailing : Bool) (d : Draft) (word : String) :
    Except UsageError Draft :=
  match scope with
  | .top =>
    if trailing && (verb? .top word).isSome then .error .unknownArgument
    else .error .invalidCommand
  | .list => .error .unknownArgument
  | .run => do
    let d ← d.settle
    return { d with positionals := d.positionals ++ [word] }

/-- The words of a part of the command line, up to a command. Once `trailing` holds, no word is a
switch. -/
def readWords (scope : Scope) :
    Bool → Draft → List String → Except UsageError (Draft × Option (Verb × List String))
  | _, d, [] => .ok (d, none)
  | true, d, word :: rest =>
    match readPlain scope true d word with
    | .ok d => readWords scope true d rest
    | .error e => .error e
  | false, d, word :: rest =>
    let verb := if d.awaitsValue then none else verb? scope word
    match verb with
    | some verb => .ok (d, some (verb, rest))
    | none =>
      if word = "--" then readWords scope true d rest
      else
        let switch := match word.toList with
          | '-' :: '-' :: s => readLong scope d s
          | '-' :: c :: s => readShort scope d (c :: s)
          | _ => .ok none
        match switch with
        | .error e => .error e
        | .ok (some d) => readWords scope false d rest
        | .ok none =>
          match d.pending with
          | some (s, none) =>
            readWords scope false { d with pending := some (s, some word) } rest
          | _ =>
            match readPlain scope false d word with
            | .ok next => readWords scope (!d.positionals.isEmpty) next rest
            | .error e => .error e

/-- A part of the command line as a whole. -/
def check (d : Draft) : Except UsageError Draft := do
  let d ← d.settle
  if d.has .verbose && d.has .quiet then .error .conflict else .ok d

/-- The form of output that is asked for. -/
def formatOf (d : Draft) : OutputFormat := ((d.value? .output).bind OutputFormat.ofName?).getD .text

def readRequest (verb : Verb) (words : List String) : Except UsageError (Draft × Request) :=
  match verb with
  | .run => do
    let (d, _) ← readWords .run false Draft.empty words
    let d ← check d
    match d.positionals with
    | [] => .error .missingArgument
    | demo :: args =>
      return (d, .run
        { demo
          breakpoints := d.value? .breakpoints
          step := d.has .step
          format := formatOf d
          workingDirectory := d.value? .workingDirectory
          args })
  | .list => do
    let (d, _) ← readWords .list false Draft.empty words
    let d ← check d
    return (d, .list (formatOf d))
  | .help => .error (helpTopic words)

/-- What both parts together say about logging. -/
def verbosityOf (top sub : Draft) : Verbosity :=
  if top.has .quiet || sub.has .quiet then .quiet
  else if top.has .verbose || sub.has .verbose then .verbose
  else .normal

end CommandLine

open CommandLine in
/-- Read the words after the name of the program. Of two files with the configuration, the one after
the command counts. -/
def Invocation.ofArguments (words : List String) : Except UsageError Invocation := do
  let (top, command) ← readWords .top false Draft.empty words
  match command with
  | none =>
    let top ← top.settle
    .error (if top.given.isEmpty then .nothing else .missingCommand)
  | some (verb, rest) =>
    let (sub, request) ← readRequest verb rest
    let top ← check top
    return {
      verbosity := verbosityOf top sub
      config := (sub.value? .config).or (top.value? .config)
      request }

end RunControl
