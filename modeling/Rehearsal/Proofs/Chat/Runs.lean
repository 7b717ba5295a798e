import Rehearsal.Proofs.Chat.Rounds
import Rehearsal.Proofs.Wakeups

/-!
# Runs of the chat flows

However the participants of a round take turns, its message is unsent, on its way or recorded, and
the bodies are where that says. So nobody fails, nobody is stuck when the run is over, and the run
is a success with the message recorded on both sides.
-/

namespace Rehearsal

namespace Run

variable {r : Run}

theorem length_put (i : Nat) (t' : Task) (stage : Stage) :
    (r.put i t' stage).tasks.length = r.tasks.length :=
  List.length_set ..

end Run

namespace Chat

/-! ## Where the bodies are -/

/-- A body that has not come to its action: it is not started, or asleep. -/
inductive Delayed (sleeps : Option Nat) (a : Action) (now : Tick) : Task → Prop where
  | unstarted (log : List Report) (opening : now = 0) :
    Delayed sleeps a now { script := late sleeps a, phase := .unstarted, log }
  | asleep (log : List Report) {millis : Nat} (sleeping : sleeps = some millis) :
    Delayed sleeps a now
      { script := [⟨a, false⟩], phase := .waiting (.sleep (Tick.wakes 0 millis)) false, log }

/-- A body that is not over. -/
theorem Delayed.going {sleeps : Option Nat} {a : Action} {now : Tick} {t : Task}
    (h : Delayed sleeps a now t) : t.result? = none := by
  cases h <;> rfl

/-- The turn of a body that has not come to its action sends it to sleep, or it comes to it. -/
theorem Delayed.poll {sleeps : Option Nat} {a : Action} {now : Tick} {t : Task}
    (h : Delayed sleeps a now t) (me : Waiter) (stage : Stage) :
    (∃ t', t.poll me now stage = (t', stage) ∧ Delayed sleeps a now t') ∨
      ∃ log, t.poll me now stage = Task.proceed me now [⟨a, false⟩] log stage := by
  cases h with
  | asleep log sleeping => exact .inr ⟨log ++ [.ok .nothing], rfl⟩
  | unstarted log opening =>
    subst opening
    cases sleeps with
    | none => exact .inr ⟨log, rfl⟩
    | some millis =>
      cases millis with
      | zero => exact .inr ⟨log ++ [.ok .nothing], rfl⟩
      | succ millis =>
        exact .inl ⟨_, rfl, .asleep log rfl⟩

/-- How far the message of a run has come. -/
inductive Leg where
  | unsent
  | onWay
  | recorded

namespace Leg

/-- What of the run's message is recorded. -/
def done (message : String) : Leg → List String
  | recorded => [message]
  | _ => []

/-- What of the run's message is on its way. -/
def left (message : String) : Leg → List String
  | onWay => [message]
  | _ => []

end Leg

namespace Round

/-- Where the initiator is. -/
inductive Initiates (round : Round) (now : Tick) : Leg → Task → Prop where
  | delayed {t : Task} (delayed : Delayed round.initiatorSleeps round.sends now t) :
    Initiates round now .unsent t
  | sent {t : Task} (phase : t.phase = .ended (.ok ())) : Initiates round now .onWay t
  | done {t : Task} (phase : t.phase = .ended (.ok ())) : Initiates round now .recorded t

/-- Where the responder is. -/
inductive Responds (round : Round) (x : Reception) (now : Tick) : Leg → Task → Prop where
  | delayed {leg : Leg} {t : Task} (unrecorded : leg ≠ .recorded)
      (delayed : Delayed round.responderSleeps round.receives now t) : Responds round x now leg t
  | waiting {leg : Leg} (unrecorded : leg ≠ .recorded) (log : List Report) :
    Responds round x now leg { script := [], phase := .waiting (.message x) false, log }
  | done {t : Task} (phase : t.phase = .ended (.ok ())) : Responds round x now .recorded t

variable {round : Round} {c : Couple} {l : Link} {first : Stage} {past : List String} {leg : Leg}
  {r : Run}

theorem sender_ne_receiver (round : Round) : round.sender ≠ round.receiver := by
  unfold sender receiver
  split <;> decide

theorem sender_or_receiver (round : Round) {i : Nat} (h : i < 2) :
    i = round.sender ∨ i = round.receiver := by
  unfold sender receiver
  split <;> omega

/-- Once the message is recorded, the initiator has sent it before. -/
theorem Initiates.recorded {now : Tick} {t : Task} (h : round.Initiates now .onWay t) :
    round.Initiates now .recorded t := by
  cases h with
  | sent phase => exact .done phase

/-- Where nobody can go on, a body that has not come to its action is asleep. -/
theorem asleep_of_idle {sleeps : Option Nat} {a : Action} {t : Task} (sound : r.Sound)
    (idle : r.ready = []) (ht : t ∈ r.tasks) (delayed : Delayed sleeps a r.now t) :
    (∃ millis, sleeps = some millis ∧ t.due? = some (Tick.wakes 0 millis)) ∧
      ∀ now, Delayed sleeps a now t := by
  cases delayed with
  | unstarted => exact absurd rfl (sound.not_ready_of_idle idle ht)
  | asleep log sleeping => exact ⟨⟨_, sleeping, rfl⟩, fun now => .asleep log sleeping⟩

variable [Clock]

/-- A run of the chat flows whose message has come so far, with all before it recorded. -/
structure At (round : Round) (c : Couple) (l : Link) (first : Stage) (past : List String)
    (leg : Leg) (r : Run) : Prop where
  fits : round.Fits c l first
  stands : c.Stands l first (past ++ leg.done round.message) (leg.left round.message) r.stage
  size : r.tasks.length = 2
  initiator : ∃ t, r.tasks[round.sender]? = some t ∧ round.Initiates r.now leg t
  responder : ∃ t, r.tasks[round.receiver]? = some t ∧
    round.Responds (c.reception l) r.now leg t
  early : r.now < Tick.after 0 round.config.timeout

/-- Nobody has failed. -/
theorem At.well (h : round.At c l first past leg r) {i : Nat} {result : Except Failure Unit}
    (ended : r.tasks[i]?.bind Task.result? = some result) : result = .ok () := by
  have inside : i < 2 := by
    rw [← h.size]
    by_contra outside
    rw [List.getElem?_eq_none (Nat.le_of_not_lt outside)] at ended
    cases ended
  rcases round.sender_or_receiver inside with rfl | rfl
  · obtain ⟨t, ht, initiates⟩ := h.initiator
    rw [ht, Option.bind_some] at ended
    cases initiates with
    | delayed delayed =>
      rw [delayed.going] at ended
      cases ended
    | sent phase | done phase =>
      rw [Task.result?, phase] at ended
      cases ended
      rfl
  · obtain ⟨t, ht, responds⟩ := h.responder
    rw [ht, Option.bind_some] at ended
    cases responds with
    | delayed _ delayed =>
      rw [delayed.going] at ended
      cases ended
    | waiting => cases ended
    | done phase =>
      rw [Task.result?, phase] at ended
      cases ended
      rfl

/-! ## What happens in a run -/

/-- Before anybody takes a turn, the message is unsent. -/
theorem Fits.at_opened {stage : Stage} (fits : round.Fits c l first)
    (stands : c.Stands l first past [] stage) :
    round.At c l first past .unsent (Run.opened round.participants stage) := by
  have tasks : (Run.opened round.participants stage).tasks =
      (round.both.map (·.script)).map fun script => { script } := by
    rw [← round.map_script_participants, List.map_map]
    rfl
  refine ⟨fits, ⟨stands.flows, stands.sessions, ?_⟩, ?_, ⟨{ script := round.initiator.script }, ?_,
    .delayed (.unstarted [] rfl)⟩, ⟨{ script := round.responder.script }, ?_,
    .delayed Leg.noConfusion (.unstarted [] rfl)⟩, Nat.zero_lt_of_lt fits.initiatorWakes⟩
  · rw [Run.opened_eq]
    show c.Along l first.world (past ++ []) [] (List.foldl World.note _ _)
    rw [Run.notes_eq, List.append_nil]
    exact stands.along.of_same rfl rfl rfl rfl fun _ => rfl
  · rw [tasks, both]
    split <;> rfl
  · rw [tasks, both, sender]
    split <;> rfl
  · rw [tasks, both, receiver]
    split <;> rfl

theorem At.begun (h : round.At c l first past leg r) (i : Nat) :
    c.Stands l first (past ++ leg.done round.message) (leg.left round.message) (r.begun i) :=
  ⟨h.stands.flows, h.stands.sessions, h.stands.along.of_same rfl rfl rfl rfl fun _ => rfl⟩

/-- After a turn of the initiator, the responder is where it was. -/
theorem At.put_sender (h : round.At c l first past leg r) {leg' : Leg} {t : Task} {stage : Stage}
    (stands : c.Stands l first (past ++ leg'.done round.message) (leg'.left round.message) stage)
    (initiates : round.Initiates r.now leg' t)
    (onward : ∀ {u}, round.Responds (c.reception l) r.now leg u →
      round.Responds (c.reception l) r.now leg' u) :
    round.At c l first past leg' (r.put round.sender t stage) := by
  obtain ⟨t', ht, -⟩ := h.initiator
  obtain ⟨u, hu, responds⟩ := h.responder
  exact ⟨h.fits, stands, (Run.length_put ..).trans h.size,
    ⟨t, Run.tasks_put_self ht t stage, initiates⟩,
    ⟨u, (Run.tasks_put_of_ne round.sender_ne_receiver t stage).trans hu, onward responds⟩, h.early⟩

/-- After a turn of the responder, the initiator is where it was. -/
theorem At.put_receiver (h : round.At c l first past leg r) {leg' : Leg} {u : Task} {stage : Stage}
    (stands : c.Stands l first (past ++ leg'.done round.message) (leg'.left round.message) stage)
    (responds : round.Responds (c.reception l) r.now leg' u)
    (onward : ∀ {t}, round.Initiates r.now leg t → round.Initiates r.now leg' t) :
    round.At c l first past leg' (r.put round.receiver u stage) := by
  obtain ⟨t, ht, initiates⟩ := h.initiator
  obtain ⟨u', hu, -⟩ := h.responder
  exact ⟨h.fits, stands, (Run.length_put ..).trans h.size,
    ⟨t, (Run.tasks_put_of_ne round.sender_ne_receiver.symm u stage).trans ht, onward initiates⟩,
    ⟨u, Run.tasks_put_self hu u stage, responds⟩, h.early⟩

/-- A turn of the initiator, who has not ended. -/
theorem At.turn_sender (h : round.At c l first past leg r) (joined : c.Joined l first.world)
    (apart : c.outgoing.persistence ≠ c.incoming.persistence)
    (going : r.tasks[round.sender]?.bind Task.result? = none) :
    ∃ leg', round.At c l first past leg' (r.turn round.sender) := by
  obtain ⟨t, ht, initiates⟩ := h.initiator
  have begun := h.begun round.sender
  rw [Run.turn_eq ht]
  rw [ht, Option.bind_some] at going
  cases initiates with
  | sent phase | done phase =>
    rw [Task.result?, phase] at going
    cases going
  | delayed delayed =>
    rcases delayed.poll round.sender (r.begun round.sender) with ⟨t', polled, still⟩ | ⟨log, polled⟩
    · rw [polled]
      exact ⟨.unsent, h.put_sender begun (.delayed still) id⟩
    · rw [polled, Task.proceed, (h.fits.at begun).start_sends begun.along joined]
      have after := begun.along.afterCall apart round.message
      refine ⟨.onWay, h.put_sender (begun.world after) (.sent rfl) fun responds => ?_⟩
      cases responds with
      | delayed _ delayed => exact .delayed Leg.noConfusion delayed
      | waiting _ log => exact .waiting Leg.noConfusion log

/-- A look of the responder takes the message if it is on its way, and leaves it waiting if not. -/
theorem At.looks (h : round.At c l first past leg r) (joined : c.Joined l first.world)
    (apart : c.outgoing.persistence ≠ c.incoming.persistence) (unrecorded : leg ≠ .recorded)
    {w : World}
    (along : c.Along l first.world (past ++ leg.done round.message) (leg.left round.message) w) :
    ∃ w', ((c.reception l).look round.receiver w = (none, w') ∧
        ∀ log, round.At c l first past leg (r.put round.receiver
          { script := [], phase := .waiting (.message (c.reception l)) false, log }
          { r.begun round.receiver with world := w' })) ∨
      ((c.reception l).look round.receiver w = (some (.ok .nothing), w') ∧
        ∀ log, round.At c l first past .recorded (r.put round.receiver
          { script := [], phase := .ended (.ok ()), log }
          { r.begun round.receiver with world := w' })) := by
  have begun := h.begun round.receiver
  cases leg with
  | recorded => exact absurd rfl unrecorded
  | unsent =>
    obtain ⟨w', looked, after⟩ := along.look_nil round.receiver
    refine ⟨w', .inl ⟨looked, fun log => ?_⟩⟩
    exact h.put_receiver (begun.world after) (.waiting unrecorded log) id
  | onWay =>
    obtain ⟨w', looked, after⟩ := along.look_cons apart joined.a round.receiver
    rw [show past ++ Leg.done round.message .onWay = past from List.append_nil _] at after
    refine ⟨w', .inr ⟨looked, fun log => ?_⟩⟩
    exact h.put_receiver (begun.world after) (.done rfl) Initiates.recorded

/-- The responder comes to its action. -/
theorem At.receives (h : round.At c l first past leg r) (joined : c.Joined l first.world)
    (apart : c.outgoing.persistence ≠ c.incoming.persistence) (unrecorded : leg ≠ .recorded)
    (log : List Report) : ∃ leg', round.At c l first past leg' (r.put round.receiver
      (Task.proceed round.receiver r.now [⟨round.receives, false⟩] log
        (r.begun round.receiver)).1
      (Task.proceed round.receiver r.now [⟨round.receives, false⟩] log
        (r.begun round.receiver)).2) := by
  have begun := h.begun round.receiver
  rw [Task.proceed, Action.start, (h.fits.at begun).play_receives begun.along joined,
    Action.receiving]
  obtain ⟨w, ⟨looked, after⟩ | ⟨looked, after⟩⟩ :=
    h.looks joined apart unrecorded (begun.along.start (c.reception l))
  all_goals
    rw [looked]
    exact ⟨_, after _⟩

/-- The responder, who waits for the message, looks again. -/
theorem At.looksAgain (h : round.At c l first past leg r) (joined : c.Joined l first.world)
    (apart : c.outgoing.persistence ≠ c.incoming.persistence) (unrecorded : leg ≠ .recorded)
    {t : Task} {log : List Report}
    (waits : t = { script := [], phase := .waiting (.message (c.reception l)) false, log }) :
    ∃ leg', round.At c l first past leg' (r.put round.receiver
      (t.poll round.receiver r.now (r.begun round.receiver)).1
      (t.poll round.receiver r.now (r.begun round.receiver)).2) := by
  subst waits
  have back := (h.begun round.receiver).along.answerCall round.receiver (l.session .b)
  have session : (c.reception l).session = l.session .b := rfl
  obtain ⟨w, ⟨looked, after⟩ | ⟨looked, after⟩⟩ := h.looks joined apart unrecorded back
  all_goals
    simp only [Task.poll, Wait.resume, session, looked]
    exact ⟨_, after _⟩

/-- A turn of the responder, who has not ended. -/
theorem At.turn_receiver (h : round.At c l first past leg r) (joined : c.Joined l first.world)
    (apart : c.outgoing.persistence ≠ c.incoming.persistence)
    (going : r.tasks[round.receiver]?.bind Task.result? = none) :
    ∃ leg', round.At c l first past leg' (r.turn round.receiver) := by
  obtain ⟨u, hu, responds⟩ := h.responder
  rw [Run.turn_eq hu]
  rw [hu, Option.bind_some] at going
  cases responds with
  | done phase =>
    rw [Task.result?, phase] at going
    cases going
  | waiting unrecorded log => exact h.looksAgain joined apart unrecorded rfl
  | delayed unrecorded delayed =>
    rcases delayed.poll round.receiver (r.begun round.receiver) with
      ⟨u', polled, still⟩ | ⟨log, polled⟩
    · rw [polled]
      exact ⟨leg, h.put_receiver (h.begun _) (.delayed unrecorded still) id⟩
    · rw [polled]
      exact h.receives joined apart unrecorded log

/-- A turn of anybody who can go on. -/
theorem At.turn (h : round.At c l first past leg r) (joined : c.Joined l first.world)
    (apart : c.outgoing.persistence ≠ c.incoming.persistence) (sound : r.Sound) {i : Nat}
    (hi : i ∈ r.ready) : ∃ leg', round.At c l first past leg' (r.turn i) := by
  have going := sound.going_of_ready hi
  obtain ⟨t, t', stage', took⟩ := sound.took hi
  have inside : i < 2 := h.size ▸ (List.getElem?_eq_some_iff.mp took.before).1
  rcases round.sender_or_receiver inside with rfl | rfl
  · exact h.turn_sender joined apart going
  · exact h.turn_receiver joined apart going

/-- Looking at those who ended changes nothing but the log. -/
theorem At.notes (h : round.At c l first past leg r) (events : List Event) (ended : List Nat) :
    round.At c l first past leg
      { r.mapWorld fun w => events.foldl World.note w with ended } := by
  refine ⟨h.fits, ⟨h.stands.flows, h.stands.sessions, ?_⟩, h.size, h.initiator, h.responder,
    h.early⟩
  show c.Along l first.world _ _ (events.foldl World.note r.stage.world)
  rw [Run.notes_eq]
  exact h.stands.along.of_same rfl rfl rfl rfl fun _ => rfl

/-- The driver looks. -/
theorem At.look (h : round.At c l first past leg r) {names : List String} {w w' : Watch} {r' : Run}
    (looked : r.observeAll round.config names w = (w', r')) :
    round.At c l first past leg r' := by
  obtain ⟨events, -, same⟩ := Run.observeAll_eq round.config names w r
  rw [looked] at same
  rw [show r' = _ from same]
  exact h.notes events []

/-- Whoever sleeps wakes before the deadline. -/
theorem At.due_lt (h : round.At c l first past leg r) (sound : r.Sound) (idle : r.ready = [])
    {t : Task} (ht : t ∈ r.tasks) {due : Tick} (hd : t.due? = some due) :
    due < Tick.after 0 round.config.timeout := by
  obtain ⟨i, hi⟩ := List.mem_iff_getElem?.mp ht
  have inside : i < 2 := h.size ▸ (List.getElem?_eq_some_iff.mp hi).1
  rcases round.sender_or_receiver inside with rfl | rfl
  · obtain ⟨t, ht', initiates⟩ := h.initiator
    rw [hi] at ht'
    cases ht'
    cases initiates with
    | delayed delayed =>
      obtain ⟨⟨millis, sleeps, same⟩, -⟩ := asleep_of_idle sound idle ht delayed
      rw [hd] at same
      cases same
      simpa [sleeps] using h.fits.initiatorWakes
    | sent phase | done phase =>
      rw [Task.due?, phase] at hd
      cases hd
  · obtain ⟨t, ht', responds⟩ := h.responder
    rw [hi] at ht'
    cases ht'
    cases responds with
    | delayed _ delayed =>
      obtain ⟨⟨millis, sleeps, same⟩, -⟩ := asleep_of_idle sound idle ht delayed
      rw [hd] at same
      cases same
      simpa [sleeps] using h.fits.responderWakes
    | waiting => cases hd
    | done phase =>
      rw [Task.due?, phase] at hd
      cases hd

/-- The clock moves on to somebody who sleeps. -/
theorem At.advance (h : round.At c l first past leg r) (sound : r.Sound) (idle : r.ready = [])
    {due : Tick} (next : r.nextDue? = some due) :
    round.At c l first past leg (r.advance due) := by
  obtain ⟨⟨t, ht, hd⟩, -⟩ := Run.nextDue_spec next
  refine ⟨h.fits, ⟨h.stands.flows, h.stands.sessions,
    h.stands.along.of_same rfl rfl rfl rfl fun _ => rfl⟩, h.size, ?_, ?_,
    h.due_lt sound idle ht hd⟩
  · obtain ⟨t, ht, initiates⟩ := h.initiator
    refine ⟨t, ht, ?_⟩
    cases initiates with
    | delayed delayed =>
      exact .delayed ((asleep_of_idle sound idle (List.mem_of_getElem? ht) delayed).2 due)
    | sent phase => exact .sent phase
    | done phase => exact .done phase
  · obtain ⟨t, ht, responds⟩ := h.responder
    refine ⟨t, ht, ?_⟩
    cases responds with
    | delayed unrecorded delayed =>
      exact .delayed unrecorded
        ((asleep_of_idle sound idle (List.mem_of_getElem? ht) delayed).2 due)
    | waiting unrecorded log => exact .waiting unrecorded log
    | done phase => exact .done phase

/-- Where nobody can go on and nobody sleeps, the message is recorded and everybody has ended. -/
theorem At.recorded_of_idle (h : round.At c l first past leg r) (sound : r.Sound)
    (idle : r.ready = []) (awake : ∀ t ∈ r.tasks, t.due? = none) : leg = .recorded := by
  obtain ⟨t, ht, initiates⟩ := h.initiator
  obtain ⟨u, hu, responds⟩ := h.responder
  have sleepless : ∀ {sleeps a} {t : Task}, t ∈ r.tasks → ¬ Delayed sleeps a r.now t := by
    intro sleeps a t ht delayed
    obtain ⟨⟨millis, -, due⟩, -⟩ := asleep_of_idle sound idle ht delayed
    rw [awake t ht] at due
    cases due
  cases responds with
  | delayed _ delayed => exact absurd delayed (sleepless (List.mem_of_getElem? hu))
  | done => rfl
  | waiting unrecorded log =>
    have empty := sound.empty_of_idle idle ⟨_, c.reception l, false, hu, rfl, rfl⟩
    cases initiates with
    | delayed delayed => exact absurd delayed (sleepless (List.mem_of_getElem? ht))
    | done => rfl
    | sent =>
      -- The message is in the queue at which the responder would be waiting.
      have queued := h.stands.along.forth
      rw [show l.queue .a = (c.reception l).session.inbound from rfl, empty] at queued
      cases queued

/-! ## The whole run -/

variable {stage : Stage} {marks : List Mark} {w : Watch}

/-- While a run of the chat flows goes on, its message has come so far. -/
theorem Fits.at_underway (fits : round.Fits c l first) (reached : stage.Reached)
    (joined : c.Joined l first.world) (apart : c.outgoing.persistence ≠ c.incoming.persistence)
    (stands : c.Stands l first past [] stage)
    (under : Underway round.config round.participants stage marks w r) :
    ∃ leg, round.At c l first past leg r := by
  induction under with
  | opened => exact ⟨.unsent, fits.at_opened stands⟩
  | turn under ready ih =>
    obtain ⟨leg, here⟩ := ih
    exact here.turn joined apart (under.reached reached).sound ready
  | look _ looked _ _ ih =>
    obtain ⟨leg, here⟩ := ih
    exact ⟨leg, here.look looked⟩
  | sleep under idle _ next _ ih =>
    obtain ⟨leg, here⟩ := ih
    exact ⟨leg, here.advance (under.reached reached).sound idle next⟩

/-- Nobody settles but well. -/
theorem At.settled_well (h : round.At c l first past leg r)
    (ledger : Ledger round.config round.participants marks w r) :
    ∀ s ∈ settlements marks, s.result = .ok () := fun s hs =>
  h.well ((ledger.results s.index s.result).mpr ⟨s, hs, rfl, rfl⟩)

/-- So the deadline is that of the timeout. -/
theorem At.deadline (h : round.At c l first past leg r)
    (ledger : Ledger round.config round.participants marks w r) :
    w.deadline = Tick.after 0 round.config.timeout := by
  have well := h.settled_well ledger
  obtain ⟨seen, unseen, all, rfl, -, -⟩ := ledger.seen
  refine deadlineAfter_of_no_failure (fun s hs => well s ?_) round.config
  rw [all]
  exact List.mem_append_left _ hs

/-- Where everybody has ended, the responder has recorded the message. -/
theorem At.recorded_of_ended (h : round.At c l first past leg r)
    (ended : ∀ t ∈ r.tasks, ∃ result, t.phase = .ended result) : leg = .recorded := by
  obtain ⟨u, hu, responds⟩ := h.responder
  obtain ⟨result, phase⟩ := ended u (List.mem_of_getElem? hu)
  cases responds with
  | delayed _ delayed =>
    have going := delayed.going
    rw [Task.result?, phase] at going
    cases going
  | waiting => cases phase
  | done => rfl

/-- Where nobody wakes before the deadline, nobody sleeps. -/
theorem At.awake (h : round.At c l first past leg r) (sound : r.Sound) (idle : r.ready = [])
    (late : ∀ due, r.nextDue? = some due → Tick.after 0 round.config.timeout ≤ due) :
    ∀ t ∈ r.tasks, t.due? = none := by
  have nobody : r.nextDue? = none := by
    cases next : r.nextDue? with
    | none => rfl
    | some due =>
      obtain ⟨⟨t, ht, hd⟩, -⟩ := Run.nextDue_spec next
      exact absurd (h.due_lt sound idle ht hd) (Nat.not_lt.mpr (late due next))
  rw [Run.nextDue?, List.min?_eq_none_iff, List.filterMap_eq_nil_iff] at nobody
  exact nobody

/-- Once a run of the chat flows is over, its message is recorded. -/
theorem Fits.at_over (fits : round.Fits c l first) (reached : stage.Reached)
    (joined : c.Joined l first.world) (apart : c.outgoing.persistence ≠ c.incoming.persistence)
    (stands : c.Stands l first past [] stage)
    (atEnd : Over round.config round.participants stage marks w r) :
    ∃ now, round.At c l first past .recorded { r with now } := by
  have closed := atEnd.closed reached
  cases atEnd with
  | unopened no_time =>
    have some_time := fits.initiatorWakes
    rw [no_time] at some_time
    exact absurd some_time (Nat.not_lt_zero _)
  | looked under looked ends =>
    obtain ⟨leg, before_look⟩ := fits.at_underway reached joined apart stands under
    obtain ⟨ledger, -⟩ := (under.ledger reached).look looked
    have here := before_look.look looked
    rcases ends with all | late
    · cases here.recorded_of_ended (closed.all_ended (closed.many_settled all))
      exact ⟨r.now, here⟩
    · rw [here.deadline ledger] at late
      exact absurd here.early (Nat.not_lt.mpr late)
  | @late marks w r under idle seen none_due =>
    obtain ⟨leg, here⟩ := fits.at_underway reached joined apart stands under
    have sound := (under.reached reached).sound
    rw [here.deadline (under.ledger reached)] at none_due
    cases here.recorded_of_idle sound idle (here.awake sound idle none_due)
    exact ⟨r.now, here⟩

/-- Whoever is over when the message is recorded has ended well. -/
theorem At.ended (h : round.At c l first past .recorded r) {i : Nat} (inside : i < 2) :
    ∃ t, r.tasks[i]? = some t ∧ t.phase = .ended (.ok ()) := by
  rcases round.sender_or_receiver inside with rfl | rfl
  · obtain ⟨t, ht, initiates⟩ := h.initiator
    cases initiates with
    | done phase => exact ⟨t, ht, phase⟩
  · obtain ⟨t, ht, responds⟩ := h.responder
    cases responds with
    | delayed unrecorded => exact absurd rfl unrecorded
    | waiting unrecorded => exact absurd rfl unrecorded
    | done phase => exact ⟨t, ht, phase⟩

/-- Aborting a run in which everybody has ended changes at most who is ready. -/
theorem At.abort (h : round.At c l first past .recorded r) :
    r.abort = r.mapWorld fun w => { w with ready := [] } := by
  -- Whoever has ended waits for nothing that it could withdraw.
  have silent : ∀ p ∈ r.tasks.zipIdx, ∀ w, p.1.withdraw p.2 w = w := by
    intro p hp w
    have hi := List.mem_zipIdx_iff_getElem?.mp hp
    obtain ⟨t, ht, phase⟩ := h.ended (h.size ▸ (List.getElem?_eq_some_iff.mp hi).1)
    rw [hi] at ht
    cases ht
    exact Run.withdraw_of_silent (by simp [phase]) w
  have nobody : ∀ (ps : List (Task × Nat)), (∀ p ∈ ps, ∀ w, p.1.withdraw p.2 w = w) →
      ∀ w, ps.foldl (fun w p => p.1.withdraw p.2 w) w = w := by
    intro ps
    induction ps with
    | nil => exact fun _ _ => rfl
    | cons p ps ih =>
      intro silent w
      rw [List.foldl_cons, silent p (List.mem_cons_self ..)]
      exact ih (fun p hp => silent p (List.mem_cons_of_mem _ hp)) w
  rw [Run.abort]
  simp only [Run.mapWorld, nobody _ silent]

/-- **A run of the chat flows**, however its participants take turns, is a success and brings its
message to the end. -/
theorem Fits.concluded (fits : round.Fits c l first) (reached : stage.Reached)
    (joined : c.Joined l first.world) (apart : c.outgoing.persistence ≠ c.incoming.persistence)
    (stands : c.Stands l first past [] stage)
    (atEnd : Over round.config round.participants stage marks w r) :
    (concluded round.config round.participants w r).1.result = .ok () ∧
      c.Stands l first (past ++ [round.message]) []
        (Rehearsal.concluded round.config round.participants w r).2 := by
  have closed := atEnd.closed reached
  obtain ⟨now, here⟩ := fits.at_over reached joined apart stands atEnd
  have well : ∀ s ∈ settlements marks, s.result = .ok () := fun s hs =>
    here.well ((closed.results s.index s.result).mpr ⟨s, hs, rfl, rfl⟩)
  have all : unsettled round.participants (settlements marks) = [] := by
    refine (unsettled_eq_nil_iff _ _).mpr fun i hi => ?_
    obtain ⟨t, ht, phase⟩ := here.ended (round.length_participants ▸ hi)
    have result : r.tasks[i]?.bind Task.result? = some (.ok ()) := by
      rw [show r.tasks[i]? = some t from ht, Option.bind_some, Task.result?, phase]
    obtain ⟨s, hs, rfl, -⟩ := (closed.results i _).mp result
    exact List.mem_map_of_mem hs
  constructor
  · show w.verdict round.config (round.participants.map (·.name)) = .ok ()
    rw [closed.watch, verdict_of_well round.config well, if_pos all]
  · have aborted : r.abort.stage.world = { r.stage.world with ready := [] } :=
      congrArg (fun r : Run => r.stage.world) here.abort
    refine ⟨here.stands.flows, here.stands.sessions, ?_⟩
    show c.Along l first.world _ [] ((w.closing round.config
      (round.participants.map (·.name))).foldl World.note r.abort.stage.world)
    rw [Run.notes_eq, aborted]
    exact here.stands.along.of_same rfl rfl rfl rfl fun _ => rfl

end Round

end Chat

end Rehearsal
