import Rehearsal.Chat.Flows
import Rehearsal.Scenario.Answer

/-!
# The stage

A world with the names that a scenario has given to its registries, links, sessions and flows.
-/

namespace Rehearsal

/-- A flow that can be called. -/
inductive Flow where
  | outgoing (flow : Chat.OutgoingFlow)
  | incoming (flow : Chat.IncomingFlow)
  /-- A flow that does nothing when it is called. -/
  | scripted
  deriving DecidableEq

/-- Things by name; of two under one name the later counts. -/
abbrev Names (α : Type) := List (String × α)

/-- A world and the names of things in it. -/
structure Stage where
  world : World := {}
  registries : Names RegistryId := []
  links : Names Link := []
  sessions : Names Session := []
  flows : Names Flow := []
  /-- The mocks that have appeared in answers, in that order. -/
  shown : List MockId := []
  /-- How the last driven run ended. -/
  lastRun : Option (Except Error Unit) := none

/-- An action on the stage that may fail. -/
abbrev Play (α : Type) := ExceptT Failure (StateM Stage) α

namespace Play

/-- An action on the world of the stage. -/
def act {α : Type} (a : Act α) : Play α := fun stage =>
  match a stage.world with
  | (.ok result, world) => (.ok result, { stage with world })
  | (.error e, world) => (.error (.error e), { stage with world })

/-- What is stored under a name. -/
def resolve {α : Type} (names : Stage → Names α) (name : String) : Play α := do
  match (names (← get)).lookup name with
  | some a => pure a
  | none => throw (.unknown name)

/-- The registry of that name. -/
def registry (name : String) : Play RegistryId := resolve (·.registries) name

/-- The link of that name. -/
def link (name : String) : Play Link := resolve (·.links) name

/-- The session of that name. -/
def session (name : String) : Play Session := resolve (·.sessions) name

/-- The flow of that name. -/
def flow (name : String) : Play Flow := resolve (·.flows) name

/-- Stores a registry under a name. -/
def storeRegistry (name : String) (r : RegistryId) : Play Unit :=
  modify fun stage => { stage with registries := (name, r) :: stage.registries }

/-- Stores a link under a name. -/
def storeLink (name : String) (l : Link) : Play Unit :=
  modify fun stage => { stage with links := (name, l) :: stage.links }

/-- Stores a session under a name. -/
def storeSession (name : String) (s : Session) : Play Unit :=
  modify fun stage => { stage with sessions := (name, s) :: stage.sessions }

/-- Stores a flow under a name, if there is one. -/
def storeFlow (name : Option String) (f : Flow) : Play Unit :=
  match name with
  | some name => modify fun stage => { stage with flows := (name, f) :: stage.flows }
  | none => pure ()

/-- The number of a mock in answers. -/
def showMock (m : MockId) : Play Nat := do
  let shown := (← get).shown
  if shown.contains m then return shown.idxOf m
  modify fun stage => { stage with shown := stage.shown ++ [m] }
  return shown.length

/-- The numbers of mocks in answers. -/
def showMocks : List MockId → Play (List Nat)
  | [] => return []
  | m :: ms => do
    let n ← showMock m
    return n :: (← showMocks ms)

end Play

end Rehearsal
