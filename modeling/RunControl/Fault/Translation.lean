import RunControl.Fault
import RunControl.Program
import RunControl.Text

/-!
# From faults to diagnostics

A `Translator` turns a fault of one class into a diagnostic; it may panic. `Translators` is a
table of translators in which a later entry for a class replaces an earlier one. `translate`
answers for any fault: without an entry it falls back to an unhandled diagnostic, and coordinates
that are still unknown are filled from the last position of the run.
-/

namespace RunControl

/-- A function from a fault, the program it is from and its position to a diagnostic. -/
abbrev Translator := RuntimeFault → ProgramInfo → Position → Except Payload Diagnostic

/-- What is said about an index that is out of bounds. -/
def RuntimeFault.indexMessage (f : RuntimeFault) : String :=
  match f.index, f.length with
  | some index, some 0 =>
    "The index [" ++ Numeral.intText index.toInt ++ "] is invalid: the vector has no elements"
  | some index, some (last + 1) =>
    "The index [" ++ Numeral.intText index.toInt ++
      "] is invalid: valid indices range from 0 to " ++ Numeral.text last
  | some index, none => "The index [" ++ Numeral.intText index.toInt ++ "] is invalid"
  | none, _ => "An invalid index was used to access a vector or matrix"

/-- The translator of indices out of bounds. -/
def Translator.index : Translator := fun f _ position =>
  .ok ((Diagnostic.unplaced .indexOutOfBounds f.indexMessage).place position)

/-- The translator of arithmetic faults. A message that speaks of zero as a divisor makes a kind of
its own. -/
def Translator.arithmetic : Translator := fun f _ position =>
  let d :=
    if Text.contains "by zero".toList f.message.toList then
      Diagnostic.unplaced .divisionByZero "Division by zero is not allowed"
    else Diagnostic.unplaced .arithmetic ("Arithmetic error: " ++ f.message)
  .ok (d.place position)

/-- Translators by the class of fault, latest first. -/
structure Translators where
  entries : List (FaultClass × Translator)

namespace Translators

def empty : Translators := ⟨[]⟩

/-- Register a translator for a class, in place of any earlier one. -/
def register (t : Translators) (category : FaultClass) (translator : Translator) : Translators :=
  ⟨(category, translator) :: t.entries⟩

def ofList (entries : List (FaultClass × Translator)) : Translators :=
  entries.foldl (fun t e => t.register e.1 e.2) empty

/-- The table in use unless another one is given. -/
def standard : Translators :=
  ofList [(.indexOutOfBounds, Translator.index), (.arithmetic, Translator.arithmetic)]

def find? (t : Translators) (category : FaultClass) : Option Translator :=
  (t.entries.find? fun e => e.1 = category).map (·.2)

def isRegistered (t : Translators) (category : FaultClass) : Bool := (t.find? category).isSome

/-- The diagnostic of a fault, or the panic of its translator. The position of the fault wins over
the last position of the run, coordinate by coordinate. -/
def translate (t : Translators) (f : RuntimeFault) (program : ProgramInfo) (last : Position) :
    Except Payload Diagnostic :=
  let position : Position := ⟨f.line.getD last.line, f.column.getD last.column⟩
  let translated := match t.find? f.category with
    | some translator => translator f program position
    | none => .ok ((Diagnostic.unhandled f.display).place position)
  translated.map fun d => d.fillPosition last

end Translators

end RunControl
