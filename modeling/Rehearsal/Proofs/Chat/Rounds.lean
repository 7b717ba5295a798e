import Rehearsal.Proofs.Chat.Calls
import Rehearsal.Scenario.Steps

/-!
# Rounds of a chat

A round is one run of the two chat flows against each other: two participants in either order, each
of whom may sleep before it calls its flow. What its two actions come to follows from what a call of
each flow does.
-/

namespace Rehearsal

namespace Chat

/-- A body that may sleep before its only action. -/
def late (sleeps : Option Nat) (a : Action) : List Line :=
  (sleeps.map fun millis => ⟨.sleep millis, false⟩).toList ++ [⟨a, false⟩]

/-- A stage with the same flows and sessions as at first, on which messages have come so far. -/
structure Couple.Stands (c : Couple) (l : Link) (first : Stage) (recorded onWay : List String)
    (stage : Stage) : Prop where
  flows : stage.flows = first.flows
  sessions : stage.sessions = first.sessions
  along : c.Along l first.world recorded onWay stage.world

theorem Couple.Stands.world {c : Couple} {l : Link} {first stage : Stage}
    {recorded onWay recorded' onWay' : List String} (h : c.Stands l first recorded onWay stage)
    {w : World} (along : c.Along l first.world recorded' onWay' w) :
    c.Stands l first recorded' onWay' { stage with world := w } :=
  ⟨h.flows, h.sessions, along⟩

/-- One run of the chat flows: whom the request names, what it says, who comes first and who sleeps
how long, and the names of the participants and of what they use. -/
structure Round where
  recipient : String
  message : String
  /-- The configuration; if none is chosen the participants have no names of their own either. -/
  chosen : Option Config
  initiatorFirst : Bool
  initiatorSleeps : Option Nat
  responderSleeps : Option Nat
  initiatorName : String
  responderName : String
  outgoing : String
  incoming : String
  session : String

namespace Round

variable (round : Round)

/-- The request of the initiator. -/
def request : Request := ⟨round.recipient, round.message⟩

/-- What the initiator does. -/
def sends : Action :=
  .call round.outgoing { request := some (.value ⟨.chatRequest, round.request⟩) }

/-- What the responder does. -/
def receives : Action := .call round.incoming { session := some round.session }

/-- The initiator as a participant. -/
def initiator : Participant := ⟨round.initiatorName, late round.initiatorSleeps round.sends⟩

/-- The responder as a participant. -/
def responder : Participant := ⟨round.responderName, late round.responderSleeps round.receives⟩

/-- The participants in their order. -/
def both : List Participant :=
  if round.initiatorFirst then [round.initiator, round.responder]
  else [round.responder, round.initiator]

/-- The cast of the run. -/
def cast : Cast :=
  match round.chosen with
  | some config => .named config round.both
  | none => .unnamed (round.both.map (·.script))

/-- The configuration of the run. -/
def config : Config := round.cast.config

/-- The participants of the run. -/
def participants : List Participant := round.cast.participants

/-- The run as a step. -/
def step : Step := .drive round.cast

/-- The number of the initiator in the run. -/
def sender : Nat := if round.initiatorFirst then 0 else 1

/-- The number of the responder in the run. -/
def receiver : Nat := if round.initiatorFirst then 1 else 0

variable {round : Round} {c : Couple} {l : Link} {before : World} {recorded onWay : List String}
  {stage stage' : Stage}

theorem map_script_participants (round : Round) :
    round.participants.map (·.script) = round.both.map (·.script) := by
  unfold participants cast both
  cases round.chosen with
  | some config => rfl
  | none => cases round.initiatorFirst <;> rfl

theorem length_participants (round : Round) : round.participants.length = 2 := by
  have same := congrArg List.length round.map_script_participants
  rw [List.length_map, List.length_map] at same
  rw [same, both]
  split <;> rfl

variable [Clock]

/-- The names of the run mean the flows of the couple and the responder's end of the link, the
request names the responder, and whoever sleeps wakes before the deadline. -/
structure Fits (round : Round) (c : Couple) (l : Link) (stage : Stage) : Prop where
  recipient : Member.parse round.recipient = .ok c.peer
  outgoing : stage.flows.lookup round.outgoing = some (.outgoing c.outgoing)
  incoming : stage.flows.lookup round.incoming = some (.incoming c.incoming)
  session : stage.sessions.lookup round.session = some (l.session .b)
  initiatorWakes : Tick.wakes 0 (round.initiatorSleeps.getD 0) < Tick.after 0 round.config.timeout
  responderWakes : Tick.wakes 0 (round.responderSleeps.getD 0) < Tick.after 0 round.config.timeout

/-- Only the names of flows and sessions count. -/
theorem Fits.of_same (fits : round.Fits c l stage) (flows : stage'.flows = stage.flows)
    (sessions : stage'.sessions = stage.sessions) : round.Fits c l stage' :=
  ⟨fits.recipient, flows ▸ fits.outgoing, flows ▸ fits.incoming, sessions ▸ fits.session,
    fits.initiatorWakes, fits.responderWakes⟩

/-- Whatever messages have come so far. -/
theorem Fits.at {first : Stage} (fits : round.Fits c l first)
    (stands : c.Stands l first recorded onWay stage) : round.Fits c l stage :=
  fits.of_same stands.flows stands.sessions

/-! ## The actions -/

/-- The action of the initiator sends the message. -/
theorem Fits.start_sends (fits : round.Fits c l stage)
    (along : c.Along l before recorded onWay stage.world) (joined : c.Joined l before) (me : Waiter)
    (now : Tick) : round.sends.start me now stage =
      (.ended (.ok (.text outgoingResult)),
        { stage with world := c.afterCall l round.message stage.world }) := by
  have call : c.outgoing.call ⟨round.request.toJson.text⟩ stage.world =
      (.ok outgoingResult, c.afterCall l round.message stage.world) :=
    along.call_apply joined fits.recipient
  have given : (RequestSource.value ⟨.chatRequest, round.request⟩).request =
      .ok ⟨round.request.toJson.text⟩ := rfl
  have called : Play.call round.outgoing
      { request := some (.value ⟨.chatRequest, round.request⟩) } stage =
        (.ok (.answered (.text outgoingResult)),
          { stage with world := c.afterCall l round.message stage.world }) := by
    rw [Play.call, bind_apply, Play.flow, Play.resolve_apply, fits.outgoing]
    dsimp only
    rw [bind_apply, Play.needed, pure_apply]
    dsimp only
    rw [bind_apply, Play.act_apply, ask_apply, given]
    dsimp only [Except.mapError]
    rw [bind_apply, Play.act_apply, call]
    rfl
  rw [Action.start, sends, Action.play, bind_apply, called]
  rfl

/-- The action of the responder comes to a reception. -/
theorem Fits.play_receives (fits : round.Fits c l stage)
    (along : c.Along l before recorded onWay stage.world) (joined : c.Joined l before) (me : Waiter)
    (now : Tick) : round.receives.play me now stage =
      Action.receiving me (c.reception l) stage := by
  have called : Play.call round.incoming { session := some round.session } stage =
      (.ok (.receives (c.reception l)), stage) := by
    rw [Play.call, bind_apply, Play.flow, Play.resolve_apply, fits.incoming]
    dsimp only
    rw [bind_apply, Play.needed, pure_apply]
    dsimp only
    rw [bind_apply, Play.session, Play.resolve_apply, fits.session]
    dsimp only
    rw [bind_apply, Play.act_apply, along.ofIncoming_apply joined]
    rfl
  rw [receives, Action.play, bind_apply]
  simp only [called]

end Round

end Chat

end Rehearsal
