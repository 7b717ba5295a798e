import Rehearsal.Drive.Task
import Rehearsal.Drive.Watch

/-!
# Driven runs

All participants of a run take turns on one stage. Whoever can go on stands in the world's `ready`
list, and the head of the list goes first; when nobody can go on, the clock jumps to the next
sleeper, or to the deadline. A turn of any participant is `Run.turn`, so that what holds for every
order of turns can be said without this policy.
-/

namespace Rehearsal

/-- A run between two turns. -/
structure Run where
  stage : Stage
  tasks : List Task
  now : Tick := 0
  /-- The participants that ended since the driver last looked, in that order. -/
  ended : List Nat := []

namespace Run

/-- Nobody has taken a turn yet, and all are ready in their order. -/
def start (participants : List Participant) (stage : Stage) : Run where
  stage := { stage with
    world := { stage.world with ready := List.range participants.length } }
  tasks := participants.map fun p => { script := p.script }

/-- Those who can go on, in the order in which they will. -/
def ready (r : Run) : List Waiter := r.stage.world.ready

/-- Changes the world of the stage. -/
def mapWorld (r : Run) (f : World → World) : Run :=
  { r with stage := { r.stage with world := f r.stage.world } }

/-- One turn of a participant. -/
def poll (i : Nat) (r : Run) : Run :=
  match r.tasks[i]? with
  | none => r
  | some t =>
    let (t', stage) := t.poll i r.now r.stage
    { r with
      stage
      tasks := r.tasks.set i t'
      ended := if t'.isEnded then r.ended ++ [i] else r.ended }

/-- A participant that can go on takes its turn. -/
def turn (i : Nat) (r : Run) : Run :=
  (r.mapWorld fun w => { w with ready := w.ready.erase i }).poll i

/-- Turns until nobody can go on. -/
def drain : Nat → Run → Run
  | 0, r => r
  | fuel + 1, r =>
    match r.ready with
    | [] => r
    | i :: _ => drain fuel (r.turn i)

/-- The actions that no participant has started. -/
def remaining (r : Run) : Nat := (r.tasks.map fun t => t.script.length).foldl (· + ·) 0

/-- As many turns as there can be before the clock moves. Every turn takes a place in the list of
those ready, and only an action that is started or concluded gives a place to anyone. -/
def turns (r : Run) : Nat := 2 * (r.remaining + r.tasks.length) + r.ready.length

/-- When the next sleeper is due. -/
def nextDue? (r : Run) : Option Tick := (r.tasks.filterMap Task.due?).min?

/-- The clock jumps to a moment, and those who are due then can go on. -/
def advance (due : Tick) (r : Run) : Run :=
  let woken := (r.tasks.zipIdx.filter fun p => p.1.due? == some due).map (·.2)
  { r.mapWorld (fun w => { w with ready := w.ready ++ woken }) with now := due }

/-- The driver looks at one participant that has ended. -/
def observe [Clock] (config : Config) (names : List String) (state : Watch × Run) (i : Nat) :
    Watch × Run :=
  let (watch, r) := state
  match r.tasks[i]?.bind Task.result?, names[i]? with
  | some result, some name =>
    let (watch, event) := watch.observe config r.now i name result
    (watch, r.mapWorld (·.note event))
  | _, _ => (watch, r)

/-- The driver looks at all that have ended, in that order. -/
def observeAll [Clock] (config : Config) (names : List String) (watch : Watch) (r : Run) :
    Watch × Run :=
  r.ended.foldl (observe config names) (watch, { r with ended := [] })

/-- What comes after the driver has looked. -/
inductive Course where
  /-- The run is over at this moment. -/
  | over (now : Tick)
  /-- Somebody can go on. -/
  | turns
  /-- Nobody can go on before this moment. -/
  | sleeps (due : Tick)

/-- How the run goes on: not at all once everybody has settled or the deadline is reached. -/
def course (watch : Watch) (r : Run) : Course :=
  -- Everybody who ended has been looked at by now, so a deadline that is reached loses nobody.
  if r.tasks.length ≤ watch.settled.length || watch.deadline ≤ r.now then .over r.now
  else if !r.ready.isEmpty then .turns
  else
    -- A sleeper who is due at the deadline itself is too late.
    match r.nextDue? with
    | some due => if due < watch.deadline then .sleeps due else .over watch.deadline
    | none => .over watch.deadline

/-- The rounds of a run: the driver looks, then all take their turns or the clock moves. -/
def rounds [Clock] (config : Config) (names : List String) : Nat → Watch × Run → Watch × Run
  | 0, state => state
  | fuel + 1, (watch, r) =>
    let (watch, r) := r.observeAll config names watch
    match course watch r with
    | .over now => (watch, { r with now })
    | .turns => rounds config names fuel (watch, r.drain r.turns)
    | .sleeps due => rounds config names fuel (watch, r.advance due)

/-- As many rounds as a run can have: each but the first and the last either follows a sleep or
lets somebody finish one. -/
def budget (r : Run) : Nat := 2 * r.remaining + 3

/-- All participants that still wait are taken out of their queues, and nobody is ready any more. -/
def abort (r : Run) : Run :=
  let r := r.mapWorld fun w => r.tasks.zipIdx.foldl (fun w p => p.1.withdraw p.2 w) w
  r.mapWorld fun w => { w with ready := [] }

end Run

/-- What became of a participant. -/
inductive Status where
  | notStarted
  /-- It still waited when the run ended. -/
  | running
  | completed
  | failed
  | panicked
  deriving DecidableEq

/-- The name of a status. -/
def Status.name : Status → String
  | notStarted => "not started"
  | running => "running"
  | completed => "completed"
  | failed => "failed"
  | panicked => "panicked"

/-- What became of the participant of a task. -/
def Task.status (t : Task) : Status :=
  match t.phase with
  | .unstarted => .notStarted
  | .waiting _ _ => .running
  | .ended (.ok ()) => .completed
  | .ended (.error (.panic _)) => .panicked
  | .ended (.error _) => .failed

/-- A run that has ended: how, what became of each participant, and when. -/
structure Driven where
  result : Except Error Unit
  participants : List (Status × List Report)
  elapsed : Tick
  /-- The driver panicked, because its clock could not count a deadline. The rest is what it would
  have returned if the clock could. -/
  overflowed : Bool := false

/-- A run that is not started, because there are too few participants for anything to happen
concurrently. -/
def tooFew (participants : List Participant) : Driven where
  result := .error (.invalidConfiguration
    ("concurrent execution needs at least two participants, got " ++
      toString participants.length))
  participants := participants.map fun _ => (.notStarted, [])
  elapsed := 0

/-- Runs all participants until everybody has settled or the deadline is reached. -/
def runToEnd [Clock] (config : Config) (participants : List Participant) (stage : Stage) :
    Watch × Run :=
  let names := participants.map (·.name)
  let r := Run.start participants stage
  let r := r.mapWorld fun w => names.foldl (fun w name => w.note (.participantStarted name)) w
  let (watch, r) := Run.rounds config names r.budget (Watch.start config r.now, r)
  let r := r.abort
  (watch, r.mapWorld fun w => (watch.closing config names).foldl World.note w)

/-- Drives participants concurrently. -/
def drive [Clock] (config : Config) (participants : List Participant) (stage : Stage) :
    Driven × Stage :=
  let (driven, stage) :=
    if participants.length < 2 then (tooFew participants, stage)
    else
      let (watch, r) := runToEnd config participants stage
      let names := participants.map (·.name)
      ({ result := watch.verdict config names
         participants := r.tasks.map fun t => (t.status, t.log)
         elapsed := r.now
         overflowed := watch.overflowed }, r.stage)
  (driven, { stage with lastRun := some driven.result })

end Rehearsal
