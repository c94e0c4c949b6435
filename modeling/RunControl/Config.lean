import RunControl.Breakpoints
import RunControl.Json
import RunControl.Source

/-!
# Configuration

A `Config` has three sections: the pool of workers, logging, and the debugger. `Config.read?` reads
one from any kind of document; what is missing keeps its value in `Config.standard`.
-/

namespace RunControl

/-- The pool of threads on which programs run: for how many seconds an idle one is kept, and how
many programs may run at once. -/
structure PoolConfig where
  keepAlive : Nat
  maxThreads : Nat
  threadName : String
deriving DecidableEq

/-- What is logged, and how. -/
structure LoggingConfig where
  level : String
  json : Bool
deriving DecidableEq

/-- The debugger; `defaultMode` is that of a run for which none is asked. -/
structure DebuggerConfig where
  defaultMode : DebugMode
deriving DecidableEq

/-- The configuration of the program. -/
structure Config where
  pool : PoolConfig
  logging : LoggingConfig
  debugger : DebuggerConfig
deriving DecidableEq

/-- The pool that is used unless another one is asked for. -/
def PoolConfig.standard : PoolConfig := ⟨7200, 512, "stepwise-program"⟩

/-- The logging that is used unless another one is asked for. -/
def LoggingConfig.standard : LoggingConfig := ⟨"warn", false⟩

/-- The debugger that is used unless another one is asked for. -/
def DebuggerConfig.standard : DebuggerConfig := ⟨.breakpoint⟩

/-- The configuration that is used unless another one is asked for. -/
def Config.standard : Config :=
  ⟨PoolConfig.standard, LoggingConfig.standard, DebuggerConfig.standard⟩

/-! ## Reading -/

section

variable {δ : Type} [Source δ]

/-- The greatest number in a configuration. -/
def PoolConfig.limit : Nat := UInt64.size - 1

def PoolConfig.read? (d : δ) : Option PoolConfig := do
  match ← Source.fields? false ["keep_alive_secs", "max_threads", "thread_name"] d with
  | [keepAlive, maxThreads, threadName] =>
    some
      { keepAlive := ← Source.orElse? standard.keepAlive (Source.natural? limit) keepAlive
        maxThreads := ← Source.orElse? standard.maxThreads (Source.natural? limit) maxThreads
        threadName := ← Source.orElse? standard.threadName Source.text? threadName }
  | _ => none

def LoggingConfig.read? (d : δ) : Option LoggingConfig := do
  match ← Source.fields? false ["level", "json"] d with
  | [level, json] =>
    some
      { level := ← Source.orElse? standard.level Source.text? level
        json := ← Source.orElse? standard.json Source.truth? json }
  | _ => none

def DebugMode.read? (d : δ) : Option DebugMode := Source.named? all name d

/-- Read the section on the debugger. -/
def DebuggerConfig.read? (d : δ) : Option DebuggerConfig := do
  match ← Source.fields? false ["default_mode"] d with
  | [defaultMode] =>
    some { defaultMode := ← Source.orElse? standard.defaultMode DebugMode.read? defaultMode }
  | _ => none

def Config.read? (d : δ) : Option Config := do
  match ← Source.fields? false ["pool", "logging", "debugger"] d with
  | [pool, logging, debugger] =>
    some
      { pool := ← Source.orElse? standard.pool PoolConfig.read? pool
        logging := ← Source.orElse? standard.logging LoggingConfig.read? logging
        debugger := ← Source.orElse? standard.debugger DebuggerConfig.read? debugger }
  | _ => none

end

/-! ## Writing -/

/-- The configuration as a document. -/
def Config.toJson (c : Config) : Json :=
  Json.ofMembers
    [("pool", Json.ofMembers
        [("keep_alive_secs", Json.ofNat c.pool.keepAlive),
          ("max_threads", Json.ofNat c.pool.maxThreads),
          ("thread_name", Json.ofString c.pool.threadName)]),
      ("logging", Json.ofMembers
        [("level", Json.ofString c.logging.level), ("json", .bool c.logging.json)]),
      ("debugger", Json.ofMembers
        [("default_mode", Json.ofString c.debugger.defaultMode.name)])]

end RunControl
