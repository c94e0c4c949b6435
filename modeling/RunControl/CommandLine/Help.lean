import RunControl.CommandLine.Reader
import RunControl.Style
import RunControl.Text

/-!
# Help

`HelpTopic.text` is the help on a topic: what it is about, how it is used, and a table of commands,
arguments and switches. The left column of a table is as wide as its widest entry.
-/

namespace RunControl

/-- A piece of text, which may be something to type literally. -/
structure HelpPiece where
  literal : Bool
  text : String

/-- A row of a table. -/
structure HelpRow where
  left : List HelpPiece
  right : String

namespace HelpPiece

def typed (s : String) : HelpPiece := ⟨true, s⟩

def plain (s : String) : HelpPiece := ⟨false, s⟩

def render (styled : Bool) (p : HelpPiece) : String :=
  if p.literal then Style.bold.paint styled p.text else p.text

end HelpPiece

namespace HelpRow

def width (r : HelpRow) : Nat := (String.join (r.left.map (·.text))).length

/-- The row as a line, with a left column of the given width. -/
def render (styled : Bool) (width : Nat) (r : HelpRow) : String :=
  "  " ++ String.join (r.left.map (HelpPiece.render styled)) ++
    Text.padEnd (width - r.width) "" ++ "  " ++ r.right ++ "\n"

end HelpRow

namespace Switch

def description : Switch → String
  | verbose => "Show debug logs"
  | quiet => "Only show errors"
  | config => "Path to config file (overrides STEPWISE_CONFIG and the per-user file)"
  | breakpoints => "Comma-separated breakpoint lines, e.g. `3,7`"
  | step => "Pause before every line"
  | output => "Output format for the run result"
  | workingDirectory => "Directory relative paths are resolved against"
  | help => "Print help"
  | version => "Print version"

/-- The row of a switch. The form of output has a default and a list of values. -/
def helpRow (scope : Scope) (s : Switch) : HelpRow :=
  let short := match s.short? with
    | some c => [HelpPiece.typed ("-" ++ String.singleton c), HelpPiece.plain ", "]
    | none => [HelpPiece.plain "    "]
  let value := match s.valueName? with
    | some name => [HelpPiece.plain (" <" ++ name ++ ">")]
    | none => []
  let values := "[default: text] [possible values: text, json]"
  let right := match s, scope with
    | output, .list => values
    | output, _ => s.description ++ " " ++ values
    | s, _ => s.description
  ⟨short ++ [HelpPiece.typed ("--" ++ s.long)] ++ value, right⟩

end Switch

namespace HelpTopic

def about : HelpTopic → String
  | scope .top => "Run and debug teaching-language programs line by line"
  | scope .run => "Run a bundled demo program"
  | scope .list => "List the bundled demo programs"
  | help => "Print this message or the help of the given subcommand(s)"

/-- The words that are typed literally, and those that follow. -/
def usage : HelpTopic → String × String
  | scope .top => ("stepwise", " [OPTIONS] <COMMAND>")
  | scope .run => ("stepwise run", " [OPTIONS] <DEMO> [ARGS]...")
  | scope .list => ("stepwise list", " [OPTIONS]")
  | help => ("stepwise help", " [COMMAND]...")

def tables : HelpTopic → List (String × List HelpRow)
  | scope s =>
    let command (name : String) (topic : HelpTopic) : HelpRow :=
      ⟨[HelpPiece.typed name], topic.about⟩
    let first := match s with
      | .top => [("Commands:",
          [command "run" (scope .run), command "list" (scope .list), command "help" help])]
      | .run => [("Arguments:",
          [⟨[HelpPiece.plain "<DEMO>"], "Demo to run (see `stepwise list`)"⟩,
            ⟨[HelpPiece.plain "[ARGS]..."], "Arguments passed to the program"⟩])]
      | .list => []
    first ++ [("Options:", s.switches.map (Switch.helpRow s))]
  | help => [("Arguments:",
      [⟨[HelpPiece.plain "[COMMAND]..."], "Print help for the subcommand(s)"⟩])]

def title (styled : Bool) (s : String) : String :=
  if styled then "\x1b[1m\x1b[4m" ++ s ++ Style.stop else s

def renderTable (styled : Bool) (t : String × List HelpRow) : String :=
  let width := (t.2.map HelpRow.width).foldl max 0
  "\n" ++ title styled t.1 ++ "\n" ++ String.join (t.2.map (HelpRow.render styled width))

def text (styled : Bool) (topic : HelpTopic) : String :=
  topic.about ++ "\n\n" ++ title styled "Usage:" ++ " " ++
    Style.bold.paint styled topic.usage.1 ++ topic.usage.2 ++ "\n" ++
    String.join (topic.tables.map (renderTable styled))

end HelpTopic

namespace UsageError

/-- Name and version of the program. -/
def versionText : String := "stepwise 0.1.0\n"

/-- What is said about a command line that makes no sense. -/
def message : UsageError → String
  | unknownArgument => "unexpected argument found"
  | invalidCommand => "unrecognized subcommand"
  | missingArgument => "the following required arguments were not provided: <DEMO>"
  | missingCommand => "'stepwise' requires a subcommand but one was not provided"
  | conflict => "an argument cannot be used with another one, or more than once"
  | invalidValue => "invalid value for an argument"
  | tooManyValues => "unexpected value for an argument that takes none"
  | help topic => topic.text false
  | version => versionText
  | nothing => (HelpTopic.scope .top).text false

end UsageError

end RunControl
