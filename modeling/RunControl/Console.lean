import RunControl.Value.Entry

/-!
# The console

Lines come from the standard input and may be no text at all. `ConsoleLine.ofBytes` splits the bytes
of an input into lines, each with its line end.
-/

namespace RunControl

/-- A line of the input with its end, or bytes that are no text. -/
inductive ConsoleLine
  | text (s : String)
  | garbled
deriving DecidableEq

namespace ConsoleLine

def ofLineBytes (bytes : List UInt8) : ConsoleLine :=
  match String.fromUTF8? ⟨bytes.toArray⟩ with
  | some s => text s
  | none => garbled

/-- Split bytes after every line feed. -/
def splitBytes : List UInt8 → List (List UInt8)
  | [] => []
  | b :: rest =>
    if b = 10 then [b] :: splitBytes rest
    else match splitBytes rest with
      | line :: lines => (b :: line) :: lines
      | [] => [[b]]

def ofBytes (bytes : ByteArray) : List ConsoleLine := (splitBytes bytes.toList).map ofLineBytes

end ConsoleLine

/-- What is said about an input that is no text. -/
def garbledMessage : String := "stream did not contain valid UTF-8"

/-- The codes that clear the screen. -/
def clearScreen : String := "\x1b[2J\x1b[1;1H"

/-- What a program gets that asks for a value: a value, or nothing and the reason, if there is more
to say than that the input is at its end. -/
inductive Entered
  | value (v : Value)
  | atEnd
  | rejected (message : String)
  | failed (message : String)

/-- Read a value from the next line. -/
def Entered.ofLine (type : DataType) : Option ConsoleLine → Entered
  | none => atEnd
  | some .garbled => failed garbledMessage
  | some (.text s) => match Value.ofLine s type with
    | .ok v => value v
    | .error e => rejected e.message

def Entered.answer : Entered → Option Value
  | value v => some v
  | _ => none

end RunControl
