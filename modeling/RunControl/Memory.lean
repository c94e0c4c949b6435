/-!
# Limits of memory

No collection takes more bytes than a signed 64-bit word counts. Whoever asks for a larger one is
told `Memory.overflowMessage`.
-/

namespace RunControl.Memory

/-- There is no room for so many things of a size in bytes. -/
def isOversized (count bytes : Nat) : Bool := Nat.pow 2 63 ≤ count * bytes

/-- What is said where there is no room. -/
def overflowMessage : String := "capacity overflow"

end RunControl.Memory
