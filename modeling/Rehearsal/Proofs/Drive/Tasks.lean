import Rehearsal.Drive.Task
import Rehearsal.Proofs.Scenario.Commands
import Rehearsal.Proofs.World.Places

/-!
# What a task does in a turn

From one wait to the next a body is at work: it acts without waiting, action after action, and then
ends or begins to wait. `Task.Turned` says so of a whole turn, and bounds what the turn may send: an
action sends at most one message, and an action that waits has sent none yet.
-/

namespace Rehearsal

variable {me : Waiter} {now : Tick}

/-- What a body does to the world as it begins to wait. -/
inductive World.Awaits (me : Waiter) (now : Tick) : Wait → World → World → Prop where
  | message {w w' : World} {r : Reception} (made : r.Made w)
      (missed : w.lookFor me r.session = (none, w')) : Awaits me now (.message r) w w'
  | sleep {w : World} {due : Tick} (later : now < due) : Awaits me now (.sleep due) w w
  | turn {w : World} : Awaits me now .turn w { w with ready := w.ready ++ [me] }

/-- What a body does from where it can go on to where it ends or waits. -/
inductive World.Works (me : Waiter) (now : Tick) :
    World → List Transfer → Phase → World → Prop where
  | ends {w w' : World} {ts : List Transfer} (acts : World.Acts me w ts w')
      (result : Except Failure Unit) : Works me now w ts (.ended result) w'
  | waits {w w' w'' : World} {ts : List Transfer} {wait : Wait} (acts : World.Acts me w ts w')
      (awaits : World.Awaits me now wait w' w'') (tolerant : Bool) :
      Works me now w ts (.waiting wait tolerant) w''

/-- Where a body is between two turns. -/
def Phase.place (now : Tick) : Phase → Place
  | .unstarted => .ready
  | .waiting (.message r) _ => .listens r.session.inbound
  | .waiting (.sleep due) _ => if due ≤ now then .ready else .away
  | .waiting .turn _ => .ready
  | .ended _ => .away

/-- Only a body that waits for a message is at a queue. -/
theorem Phase.message_of_listens {phase : Phase} {q : QueueId}
    (h : phase.place now = .listens q) :
    ∃ r tolerant, phase = .waiting (.message r) tolerant ∧ r.session.inbound = q := by
  cases phase with
  | unstarted => cases h
  | ended => cases h
  | waiting wait tolerant =>
    cases wait with
    | message r => exact ⟨r, tolerant, rfl, by simpa [place] using h⟩
    | turn => cases h
    | sleep due =>
      simp only [place] at h
      split at h <;> cases h

/-- An action that waits is still to be finished. -/
def Phase.load : Phase → Nat
  | .waiting _ _ => 1
  | _ => 0

namespace World

theorem Awaits.still {wait : Wait} {w w' : World} (h : Awaits me now wait w w') : w.Still w' := by
  cases h with
  | message _ missed => exact still_of_lookFor_none missed
  | sleep => exact .refl w
  | turn => exact still_ready w _

namespace Works

variable {w w' w'' : World} {ts us : List Transfer} {phase : Phase}

theorem after (acts : Acts me w ts w') (works : Works me now w' us phase w'') :
    Works me now w (ts ++ us) phase w'' := by
  cases works with
  | ends acts' result => exact .ends (acts.trans acts') result
  | waits acts' awaits tolerant => exact .waits (acts.trans acts') awaits tolerant

theorem exchange (works : Works me now w ts phase w') : Exchange w ts w' := by
  cases works with
  | ends acts => exact acts.exchange
  | waits acts awaits => exact acts.exchange.before awaits.still

/-- Whatever a body waits for comes from a link of the world. -/
theorem made (works : Works me now w ts phase w') {r : Reception} {tolerant : Bool}
    (waits : phase = .waiting (.message r) tolerant) : r.Made w' := by
  cases works with
  | ends => cases waits
  | waits acts awaits =>
    cases waits
    cases awaits with
    | message made missed => exact made.mono (still_of_lookFor_none missed).links

/-- A body that was away is afterwards where its phase says, and everybody else is where they were.
Each message that was sent made at most one other body ready. -/
theorem places {place : Waiter → Place} (works : Works me now w ts phase w')
    (h : w.Places place) (away : place me = .away) :
    w'.Places (Function.update place me (phase.place now)) ∧
      w'.ready.length ≤ w.ready.length + Transfer.sends ts + phase.load := by
  cases works with
  | ends acts =>
    obtain ⟨places, bound⟩ := h.acts acts away
    refine ⟨?_, bound⟩
    rwa [Phase.place, ← away, Function.update_eq_self]
  | waits acts awaits tolerant =>
    obtain ⟨places, bound⟩ := h.acts acts away
    cases awaits with
    | message made missed =>
      have ready := ready_of_lookFor missed
      exact ⟨places.park away missed, by rw [ready]; omega⟩
    | sleep later =>
      refine ⟨?_, by omega⟩
      rwa [Phase.place, if_neg (Nat.not_le.mpr later), ← away, Function.update_eq_self]
    | turn =>
      refine ⟨places.pause away, ?_⟩
      simp only [List.length_append, List.length_singleton, Phase.load]
      omega

end Works

end World

/-! ## Starting an action -/

/-- What starting an action does to the stage. -/
inductive Stage.Starts (me : Waiter) (now : Tick) (stage : Stage) : Started → Stage → Prop where
  | ended {stage' : Stage} (moves : Stage.Moves me 1 stage stage') (report : Report) :
      Starts me now stage (.ended report) stage'
  | waits {stage' : Stage} {wait : Wait} {w : World} (genuine : stage'.Genuine)
      (quiet : stage.world.Quiet w) (awaits : World.Awaits me now wait w stage'.world) :
      Starts me now stage (.waits wait) stage'

/-- An action may start with something quiet. -/
theorem Stage.Starts.after {stage stage' last : Stage} {started : Started}
    (quiet : stage.Quiet stage') (starts : Stage.Starts me now stage' started last) :
    Stage.Starts me now stage started last := by
  cases starts with
  | ended moves report => exact .ended (quiet.before moves) report
  | waits genuine still awaits => exact .waits genuine (quiet.world.trans still) awaits

namespace Action

/-- What comes of an action that is started, whether it fails or not. -/
def concluded : Except Failure Started × Stage → Started × Stage
  | (.ok started, stage) => (started, stage)
  | (.error failure, stage) => (.ended (.error failure), stage)

theorem start_eq (now : Tick) (a : Action) (stage : Stage) :
    a.start me now stage = concluded (a.play me now stage) := by
  unfold start concluded
  rfl

/-- An action of the stage starts like this. -/
def StartsAt (me : Waiter) (now : Tick) (stage : Stage) (x : Play Started) : Prop :=
  Stage.Starts me now stage (concluded (x stage)).1 (concluded (x stage)).2

/-- What fails or goes on after a quiet action. -/
theorem startsAt_bind {α : Type} {stage : Stage} {x : Play α} {f : α → Play Started}
    (hx : stage.Quiet (x stage).2)
    (hf : ∀ a, (x stage).1 = .ok a → StartsAt me now (x stage).2 (f a)) :
    StartsAt me now stage (x >>= f) := by
  unfold StartsAt
  rw [bind_apply]
  cases h : x stage with
  | mk r stage' =>
    rw [h] at hx hf
    cases r with
    | error failure => exact .ended (hx.moves 1) _
    | ok a => exact .after hx (hf a rfl)

/-- A reception starts with a look. -/
theorem startsAt_receiving {stage : Stage} {r : Reception} (genuine : stage.Genuine)
    (made : r.Made stage.world) : StartsAt me now stage (receiving me r) := by
  have begun := Reception.quiet_start r stage.world
  have made' := made.mono begun.links
  have genuine' := genuine.mapWorld (begun.linked genuine.linked) begun.links
  unfold StartsAt receiving
  split
  · next a w found =>
    have moves := World.Moves.after begun (Reception.moves_of_look_some made' found)
    exact .ended (genuine.moves moves) _
  · next e w found =>
    have moves := World.Moves.after begun (Reception.moves_of_look_some made' found)
    exact .ended (genuine.moves moves) _
  · next w nothing =>
    have missed := Reception.lookFor_of_look_none nothing
    have still := World.still_of_lookFor_none missed
    exact .waits (genuine'.mapWorld (still.linked genuine'.linked) still.links) begun
      (.message made' missed)

/-- Every action starts without waiting, or waits for one thing. -/
theorem starts_play (a : Action) {stage : Stage} (genuine : stage.Genuine) :
    StartsAt me now stage (a.play me now) := by
  cases a with
  | command c =>
    have moves : Stage.Moves me 1 stage _ := c.moves_run genuine
    rw [StartsAt, play, bind_apply]
    cases h : c.run me stage with
    | mk r stage' =>
      rw [h] at moves
      cases r with
      | ok a => exact .ended moves _
      | error failure => exact .ended moves _
  | receive name k =>
    have named := Play.quiet_resolve (·.sessions) name stage genuine
    refine startsAt_bind named fun s found => ?_
    exact startsAt_receiving named.genuine (Play.made_of_session genuine found)
  | relay name target k =>
    have named := Play.quiet_resolve (·.sessions) name stage genuine
    refine startsAt_bind named fun s found => ?_
    have named' := Play.quiet_resolve (·.sessions) target _ named.genuine
    refine startsAt_bind named' fun s' found' => ?_
    have made := (Play.made_of_session genuine found).mono named'.world.links
    exact startsAt_receiving named'.genuine ⟨made, Play.made_of_session named.genuine found'⟩
  | call flow input =>
    have calls : Play.Calls me stage _ _ := Play.calls_call flow input genuine
    rw [StartsAt, play, bind_apply]
    cases h : Play.call flow input stage with
    | mk r stage' =>
      rw [h] at calls
      rcases r with failure | answer | reception
      · exact .ended calls.moves _
      · exact .ended calls.moves _
      · obtain ⟨quiet, made⟩ := calls.receives reception rfl
        exact .after quiet (startsAt_receiving quiet.genuine made)
  | sleep millis =>
    cases millis with
    | zero => exact .ended (genuine.quiet.moves 1) _
    | succ n =>
      have some_time : 0 < min (n + 1) Tick.farFuture :=
        Nat.lt_min.mpr ⟨n.succ_pos, Nat.succ_pos _⟩
      exact .waits genuine (.refl _) (.sleep (Nat.lt_add_of_pos_right some_time))
  | pause =>
    exact .waits ⟨⟨genuine.linked.numbers, genuine.linked.attached⟩, genuine.links,
      genuine.sessions⟩ (.refl _) .turn
  | fail e => exact .ended (genuine.quiet.moves 1) _
  | panic payload => exact .ended (genuine.quiet.moves 1) _

end Action

/-! ## Turns -/

namespace Task

/-- A task went from a world to a stage, started no more than so many lines, and sent no more
messages than it started lines and may send besides. -/
structure Turned (me : Waiter) (now : Tick) (w : World) (lines credit : Nat) (t : Task)
    (stage : Stage) : Prop where
  genuine : stage.Genuine
  left : t.phase.load + t.script.length ≤ lines
  works : ∃ ts, World.Works me now w ts t.phase stage.world ∧
    Transfer.sends ts + t.phase.load + t.script.length ≤ lines + credit

/-- A line that is finished, or a message that was waited for, gives leave to send one. -/
theorem Turned.after {stage : Stage} {w w' : World} {ts : List Transfer} {t : Task}
    {lines lines' credit : Nat} (acts : World.Acts me w ts w')
    (turned : Turned me now w' lines 0 t stage) (more : lines ≤ lines')
    (bound : Transfer.sends ts + lines ≤ lines' + credit) :
    Turned me now w lines' credit t stage := by
  obtain ⟨us, works, load⟩ := turned.works
  refine ⟨turned.genuine, by have := turned.left; omega, ts ++ us, works.after acts, ?_⟩
  rw [Transfer.sends_append]
  omega

/-- What a body does from a place in its script on. -/
theorem turned_proceed (script : List Line) (log : List Report) {stage : Stage}
    (genuine : stage.Genuine) : Turned me now stage.world script.length 0
      (proceed me now script log stage).1 (proceed me now script log stage).2 := by
  induction script generalizing log stage with
  | nil => exact ⟨genuine, Nat.le_refl 0, [], .ends (.refl _) _, Nat.le_refl 0⟩
  | cons line script ih =>
    have starts : Action.StartsAt me now stage _ := Action.starts_play line.action genuine
    unfold Action.StartsAt at starts
    rw [← Action.start_eq] at starts
    rw [proceed]
    rcases h : line.action.start me now stage with ⟨report | wait, stage'⟩
    · rw [h] at starts
      obtain ⟨genuine', ts, acts, bound⟩ : Stage.Moves me 1 stage stage' := by
        cases starts with
        | ended moves => exact moves
      dsimp only
      rcases conclude log line.tolerant report with ⟨log', _ | result⟩
      · exact .after acts (ih log' genuine') (by simp) (by rw [List.length_cons]; omega)
      · refine ⟨genuine', by simp [Phase.load], ts, .ends acts result, ?_⟩
        simp only [Phase.load, List.length_cons]
        omega
    · rw [h] at starts
      cases starts with
      | waits genuine' quiet awaits =>
        have left : (Phase.waiting wait line.tolerant).load + script.length ≤
            (line :: script).length := by
          rw [Phase.load, List.length_cons]
          omega
        exact ⟨genuine', left, [], .waits (.quiet quiet) awaits line.tolerant, by simpa using left⟩

/-- What a body does once what it waited for has come. -/
def goOn (me : Waiter) (now : Tick) (t : Task) (tolerant : Bool) (report : Report)
    (stage : Stage) : Task × Stage :=
  match conclude t.log tolerant report with
  | (log, some result) => ({ t with phase := .ended result, log }, stage)
  | (log, none) => proceed me now t.script log stage

theorem poll_unstarted {t : Task} (h : t.phase = .unstarted) (stage : Stage) :
    t.poll me now stage = proceed me now t.script t.log stage := by
  rw [poll, h]

theorem poll_waiting {t : Task} {wait : Wait} {tolerant : Bool}
    (h : t.phase = .waiting wait tolerant) (stage : Stage) : t.poll me now stage =
      match wait.resume me stage with
      | (none, stage) => (t, stage)
      | (some report, stage) => t.goOn me now tolerant report stage := by
  rw [poll, h]
  rfl

theorem turned_goOn (t : Task) (tolerant : Bool) (report : Report) {stage : Stage}
    (genuine : stage.Genuine) : Turned me now stage.world t.script.length 0
      (t.goOn me now tolerant report stage).1 (t.goOn me now tolerant report stage).2 := by
  rw [goOn]
  rcases conclude t.log tolerant report with ⟨log, _ | result⟩
  · exact turned_proceed t.script log genuine
  · exact ⟨genuine, by simp [Phase.load], [], .ends (.refl _) result, by simp [Phase.load]⟩

/-- A body that waits for no message goes on. -/
theorem turned_ready {t : Task} (h : t.phase.place now = .ready) {stage : Stage}
    (genuine : stage.Genuine) : Turned me now stage.world t.script.length 0
      (t.poll me now stage).1 (t.poll me now stage).2 := by
  cases hp : t.phase with
  | unstarted =>
    rw [poll_unstarted hp]
    exact turned_proceed _ _ genuine
  | waiting wait tolerant =>
    rw [poll_waiting hp]
    cases wait with
    | message r =>
      rw [hp] at h
      cases h
    | sleep due => exact turned_goOn _ _ _ genuine
    | turn => exact turned_goOn _ _ _ genuine
  | ended result =>
    rw [hp] at h
    cases h

variable (me now) in
/-- A body that comes back to a queue finds a message there or stays. -/
theorem poll_message {t : Task} {r : Reception} {tolerant : Bool}
    (h : t.phase = .waiting (.message r) tolerant) {stage : Stage} (genuine : stage.Genuine)
    (made : r.Made stage.world) :
    (∃ w, (stage.world.answerCall me r.session).lookFor me r.session = (none, w) ∧
      t.poll me now stage = (t, { stage with world := w })) ∨
    ∃ e w, (stage.world.answerCall me r.session).lookFor me r.session = (some e, w) ∧
      Turned me now w t.script.length 1 (t.poll me now stage).1 (t.poll me now stage).2 := by
  have answered := World.still_answerCall stage.world me r.session
  have made' := made.mono answered.links
  rw [poll_waiting h, Wait.resume]
  rcases looked : r.look me (stage.world.answerCall me r.session) with ⟨_ | result, w⟩
  · exact .inl ⟨w, Reception.lookFor_of_look_none looked, rfl⟩
  · obtain ⟨e, w', found, moves⟩ := Reception.lookFor_of_look_some made' looked
    have taken := World.Exchange.take made'.session found
    have linked := taken.linked (answered.linked genuine.linked)
    obtain ⟨ts, acts, bound⟩ := moves linked
    have genuine' : ({ stage with world := w } : Stage).Genuine :=
      genuine.mapWorld (acts.exchange.linked linked)
        ((answered.links.trans taken.links).trans acts.exchange.links)
    refine .inr ⟨e, w', found, ?_⟩
    cases result with
    | ok a => exact .after acts (turned_goOn t tolerant _ genuine') (Nat.le_refl _) (by omega)
    | error e => exact .after acts (turned_goOn t tolerant _ genuine') (Nat.le_refl _) (by omega)

end Task

end Rehearsal
