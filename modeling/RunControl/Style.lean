import RunControl.Numeral

/-!
# Styled text

A `Style` is a list of display attributes of a terminal. `Style.paint` puts a text between the codes
that switch the attributes on and off; where styles are off, it leaves the text alone.
-/

namespace RunControl

/-- Display attributes by their numbers. -/
structure Style where
  codes : List Nat
deriving DecidableEq

namespace Style

def bold : Style := ⟨[1]⟩

def dimmed : Style := ⟨[2]⟩

def green : Style := ⟨[32]⟩

def yellow : Style := ⟨[33]⟩

def cyan : Style := ⟨[36]⟩

def boldGreen : Style := ⟨[1, 32]⟩

def boldRed : Style := ⟨[1, 31]⟩

/-- The code that switches attributes on. -/
def start (s : Style) : String :=
  "\x1b[" ++ String.intercalate ";" (s.codes.map Numeral.text) ++ "m"

/-- The code that switches all attributes off. -/
def stop : String := "\x1b[0m"

/-- After a code inside the text that switches attributes off, the style begins again. -/
def renew (s : Style) : List Char → List Char
  | '\x1b' :: '[' :: '0' :: 'm' :: rest =>
    stop.toList ++ s.start.toList ++ renew s rest
  | c :: rest => c :: renew s rest
  | [] => []

/-- A text in a style, if styles are on. -/
def paint (s : Style) (on : Bool) (text : String) : String :=
  if on then s.start ++ String.ofList (s.renew text.toList) ++ stop else text

end Style

end RunControl
