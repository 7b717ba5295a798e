import Rehearsal.Drive.Run

/-!
# Scenarios

A scenario is a list of steps on a stage that starts empty. Every step has its answer, whether it
succeeds or not, and a step that fails leaves behind what it did before.
-/

namespace Rehearsal

/-- The participants of a driven run, named or not. -/
inductive Cast where
  | named (config : Config) (participants : List Participant)
  /-- Bodies without names, run with the default configuration. -/
  | unnamed (scripts : List (List Line))

namespace Cast

/-- The participants; a body without a name is named by its place. -/
def participants : Cast → List Participant
  | named _ participants => participants
  | unnamed scripts =>
    scripts.zipIdx.map fun p => ⟨"participant-" ++ toString p.2, p.1⟩

/-- The configuration of the run. -/
def config : Cast → Config
  | named config _ => config
  | unnamed _ => .default

/-- The configuration as an answer shows it; one that nobody chose is not shown. -/
def shownConfig : Cast → Option String
  | named config _ => some config.debug
  | unnamed _ => none

end Cast

/-- A step of a scenario. -/
inductive Step where
  | command (c : Command)
  | drive (cast : Cast)

/-- What a step comes to. -/
inductive Outcome where
  | report (r : Report)
  | driven (config : Option String) (d : Driven)

/-- Carries out a step. -/
def Step.run [Clock] (stage : Stage) : Step → Outcome × Stage
  | command c =>
    let (r, stage) := c.run 0 stage
    (.report r, stage)
  | drive cast =>
    let (d, stage) := Rehearsal.drive cast.config cast.participants stage
    (.driven cast.shownConfig d, stage)

/-- What each step comes to, and what it logs. -/
def runSteps [Clock] (stage : Stage) : List Step → List (Outcome × List LogLine)
  | [] => []
  | step :: steps =>
    let logged := stage.world.log.length
    let (outcome, stage) := step.run stage
    (outcome, (stage.world.log.drop logged).map Event.line) :: runSteps stage steps

/-- What each step of a scenario comes to, from an empty stage on. -/
def scenario [Clock] (steps : List Step) : List (Outcome × List LogLine) := runSteps {} steps

end Rehearsal
