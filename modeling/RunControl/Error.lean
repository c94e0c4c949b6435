/-!
# Errors of calls

`ControlError` is why a call to the supervisor or the reading of the configuration was refused;
`ControlError.message` is its wording.
-/

namespace RunControl

/-- Why a call was refused: there is no run to resume of the program, the path is not that of a
directory, or the configuration at the path cannot be read or makes no sense. -/
inductive ControlError
  | notRunning (program : String)
  | invalidWorkingDirectory (path : String)
  | configUnreadable (path cause : String)
  | configMalformed (path : String)
deriving DecidableEq

/-- What is said about a refused call. -/
def ControlError.message : ControlError → String
  | notRunning program => "Illegal state: cannot resume '" ++ program ++ "': no run is active"
  | invalidWorkingDirectory path =>
    "Invalid working directory: '" ++ path ++ "' does not exist or is not a directory"
  | configUnreadable path cause => "Failed to read config file " ++ path ++ ": " ++ cause
  | configMalformed path => "Failed to parse config file " ++ path

end RunControl
