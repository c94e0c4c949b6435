import RunControl.Rehearsal.Log

/-!
# Steps as a body

A `Performance` is a body that also writes to the log and does deeds. `Step.play` is the meaning of
a step: given the value last read, it goes on in one of two ways, after success or after a fault.
-/

namespace RunControl.Rehearsal

/-- A body in a rehearsal. -/
inductive Performance
  | ask (call : Call Performance)
  | note (entry : Entry) (rest : Performance)
  | deed (deed : Deed) (rest : Performance)

/-- The next thing a body does in a rehearsal. -/
inductive Move (κ : Type)
  | call (call : Call κ)
  | note (entry : Entry) (rest : κ)
  | deed (deed : Deed) (rest : κ)

/-- The next thing a performance does. -/
def Performance.move : Performance → Move Performance
  | ask c => .call c
  | note e rest => .note e rest
  | deed d rest => .deed d rest

/-- The meaning of steps: from the value last read and two ways to go on. -/
abbrev Play : Type :=
  Value → (Value → Performance) → (Fault → Value → Performance) → Performance

/-- A call answered by success or a fault. -/
def Play.ofCall (call : (Except Fault Unit → Performance) → Call Performance) : Play :=
  fun last ok err => .ask (call fun
    | .ok () => ok last
    | .error f => err f last)

/-- Repeat a play, counting its turns from `turn` on. -/
def Play.repeated (play : Nat → Play) : Nat → Nat → Play
  | 0, _ => fun last ok _ => ok last
  | times + 1, turn => fun last ok err =>
    play turn last (fun last => Play.repeated play times (turn + 1) last ok err) err

/-- What the steps are played for: the arguments and the program. -/
structure Scene where
  args : List String
  info : ProgramInfo

mutual

/-- The step does nothing, in whatever turn. -/
def Step.isIdle (scene : Scene) : Step → Bool
  | .ifArgument argument steps => scene.args.head? != some argument || allIdle scene steps
  | .loop times steps => times == 0 || allIdle scene steps
  | .attempt steps => allIdle scene steps
  | _ => false

/-- None of the steps does anything. -/
def allIdle (scene : Scene) : List Step → Bool
  | [] => true
  | s :: rest => s.isIdle scene && allIdle scene rest

end

mutual

/-- The meaning of a step in the given turn of the innermost loop. -/
def Step.play (scene : Scene) (turn : Nat) : Step → Play
  | .pause line column plusTurn =>
    let line := if plusTurn then line + UInt32.ofNat turn else line
    Play.ofCall (Call.pausePoint ⟨line, column⟩)
  | .check => Play.ofCall Call.checkInterrupted
  | .read type raw => fun last ok err => .ask (.read type fun answer =>
    match answer.bind fun v => if raw then .ok v else v.typed type with
    | .ok v => .note (.read v) (ok v)
    | .error f => err f last)
  | .write v => Play.ofCall (Call.write v)
  | .writeLast => fun last => Play.ofCall (Call.write last) last
  | .clear => Play.ofCall Call.clear
  | .args => fun last ok _ => .note (.args scene.args) (ok last)
  | .ifArgument argument steps =>
    let play := playAll scene turn steps
    if scene.args.head? = some argument then play else fun last ok _ => ok last
  | .position => fun last ok _ => .ask (.position fun p => .note (.position p) (ok last))
  | .info => fun last ok _ => .note (.info scene.info) (ok last)
  | .resolve path => fun last ok _ => .ask (.resolve path fun p => .note (.resolved p) (ok last))
  | .change change => fun last ok _ => .ask (.change change (ok last))
  | .query query => fun last ok _ => .ask (.query query fun a =>
    if a.isAbsent then ok last else .note (.inspected a) (ok last))
  | .showLast id => fun last ok _ => .ask (.change (.writeScalar id (.value last)) (ok last))
  | .fault f => fun last _ err => err f last
  | .panic payload => fun _ _ _ => .ask (.panic payload)
  | .deed d => fun last ok _ => .deed d (ok last)
  | .loop times steps =>
    if allIdle scene steps then fun last ok _ => ok last
    else Play.repeated (fun turn => playAll scene turn steps) times 0
  | .attempt steps =>
    let play := playAll scene turn steps
    fun last ok _ => play last ok fun f last => .note (.caught f) (ok last)

/-- The meaning of steps one after the other. -/
def playAll (scene : Scene) (turn : Nat) : List Step → Play
  | [] => fun last ok _ => ok last
  | step :: rest =>
    let first := step.play scene turn
    let others := playAll scene turn rest
    fun last ok err => first last (fun last => others last ok err) err

end

/-- The body that plays the steps, beginning with an empty text as the value last read. -/
def performance (scene : Scene) (steps : List Step) : Performance :=
  playAll scene 0 steps (.text "") (fun _ => .ask (.finish (.ok ())))
    fun f _ => .ask (.finish (.error f))

end RunControl.Rehearsal
