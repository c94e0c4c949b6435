import RunControl.Config
import RunControl.Numeral

/-!
# The pool of threads

Programs run on a pool of threads that all have one name. Jobs that are handed over one after the
other run in that order. The first job starts a thread, so it is the first job that fails when no
thread can have the name.
-/

namespace RunControl.PoolConfig

/-- How long an idle thread is kept, as text. -/
def keepAliveText (p : PoolConfig) : String :=
  if p.keepAlive = 0 then "0ns" else Numeral.text p.keepAlive ++ "s"

def describe (p : PoolConfig) : String :=
  "WorkerPool \x7b keep_alive: " ++ p.keepAliveText ++ ", .. \x7d"

/-- Where the name of the threads has its first NUL. -/
def nulIndex? (p : PoolConfig) : Option Nat := p.threadName.toUTF8.data.toList.findIdx? (· == 0)

/-- What is said about a name that has a NUL at this place. -/
def nulMessage (p : PoolConfig) (index : Nat) : String :=
  let bytes := p.threadName.toUTF8.data.toList.map fun b => Numeral.text b.toNat
  "thread name may not contain interior null bytes: NulError(" ++ Numeral.text index ++ ", [" ++
    String.intercalate ", " bytes ++ "])"

/-- Jobs handed over one after the other, with the name of the thread that each runs on. -/
def runJobs {α : Type} (p : PoolConfig) : List α → Except String (List (α × String))
  | [] => .ok []
  | jobs => match p.nulIndex? with
    | some index => .error (p.nulMessage index)
    | none => .ok (jobs.map fun job => (job, p.threadName))

end RunControl.PoolConfig
