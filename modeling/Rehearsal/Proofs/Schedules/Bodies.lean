import Rehearsal.Proofs.Drive.Tasks
import Rehearsal.Proofs.Schedules.Networks

/-!
# Bodies as processes

A body that only sends and receives is a process of a network: what comes next is settled by its own
task, and a turn of it is a row of steps. That an action begins to wait for a message is a step of
its own, so that it makes no difference whether the message was there when the action was started.
-/

namespace Rehearsal

open Relation

/-- A message as it leaves through a session. -/
def Session.dispatch (s : Session) (p : Payload) : Dispatch := (s.outbound, s.owner, p)

namespace Action

/-- Whether an action sends, receives, or ends the body. -/
def isPlain : Action → Bool
  | command (.send _ _) | receive _ _ | relay _ _ _ | fail _ | panic _ => true
  | _ => false

/-- The names of the sessions that a plain action uses. -/
def sessionNames : Action → List String
  | command (.send name _) => [name]
  | receive name _ => [name]
  | relay name target _ => [name, target]
  | _ => []

/-- What a plain action sends as it is started, and whether it has ended with that or waits. -/
def plan (sessions : Names Session) : Action → List Dispatch × Started
  | command (.send name p) =>
    match sessions.lookup name with
    | some s => ([s.dispatch p], .ended (.ok .nothing))
    | none => ([], .ended (.error (.unknown name)))
  | receive name k =>
    match sessions.lookup name with
    | some s => ([], .waits (.message (.keep s k)))
    | none => ([], .ended (.error (.unknown name)))
  | relay name target k =>
    match sessions.lookup name, sessions.lookup target with
    | some s, some s' => ([], .waits (.message (.relay s s' k)))
    | some _, none => ([], .ended (.error (.unknown target)))
    | none, _ => ([], .ended (.error (.unknown name)))
  | fail e => ([], .ended (.error (.error e)))
  | panic payload => ([], .ended (.error (.panic payload)))
  -- No other action is plain.
  | _ => ([], .waits .turn)

end Action

/-- The report of an action that ended like this. -/
def Report.of : Except Error Answer → Report
  | .ok a => .ok a
  | .error e => .error (.error e)

/-- What a reception sends once it has its message, and what it reports. -/
def Reception.used : Reception → Envelope → List Dispatch × Report
  | keep _ k, e =>
    match e.parcel.receive k with
    | .ok v => ([], .ok (.text (k.shown v)))
    | .error err => ([], .error (.error err))
  | relay _ target k, e =>
    match e.parcel.receive k with
    | .ok v => ([target.dispatch ⟨k, v⟩], .ok (.text (k.shown v)))
    | .error err => ([], .error (.error err))
  -- No plain action keeps a record.
  | record _ _ _, _ => ([], .ok .nothing)

namespace Task

/-- A task as one of its actions has ended. -/
def settle (t : Task) (tolerant : Bool) (report : Report) : Task :=
  match conclude t.log tolerant report with
  | (log, some result) => { t with phase := .ended result, log }
  | (log, none) => { t with phase := .unstarted, log }

/-- A task as one of its actions was started. -/
def follow (t : Task) (tolerant : Bool) : Started → Task
  | .ended report => t.settle tolerant report
  | .waits wait => { t with phase := .waiting wait tolerant }

/-- What comes next for a plain body. -/
def next (sessions : Names Session) (t : Task) : Next Task :=
  match t.phase, t.script with
  | .unstarted, [] => .acts [] { t with phase := .ended (.ok ()) }
  | .unstarted, line :: script =>
    .acts (line.action.plan sessions).1
      ({ t with script }.follow line.tolerant (line.action.plan sessions).2)
  | .waiting (.message r) tolerant, _ =>
    .waits r.session.inbound fun e => ((r.used e).1, t.settle tolerant (r.used e).2)
  | _, _ => .over

end Task

/-! ## Bodies that keep to their sessions -/

/-- A reception of a plain action through these sessions. -/
def Reception.Within (own : Session → Prop) : Reception → Prop
  | keep s _ => own s
  | relay s target _ => own s ∧ own target
  | record _ _ _ => False

/-- A plain body that uses only these sessions from where it is on. -/
structure Task.Within (sessions : Names Session) (own : Session → Prop) (t : Task) : Prop where
  plain : ∀ line ∈ t.script, line.action.isPlain
  named : ∀ line ∈ t.script, ∀ name ∈ line.action.sessionNames, ∀ s,
    sessions.lookup name = some s → own s
  waits : ∀ wait tolerant, t.phase = .waiting wait tolerant →
    ∃ r, wait = .message r ∧ r.Within own

variable {sessions : Names Session} {own : Session → Prop}

theorem Reception.Within.session {r : Reception} (h : r.Within own) : own r.session := by
  cases r with
  | keep => exact h
  | relay => exact h.1
  | record => exact h.elim

/-- A reception sends through its sessions. -/
theorem Reception.Within.sends {r : Reception} (h : r.Within own) (e : Envelope) :
    ∀ d ∈ (r.used e).1, ∃ s, own s ∧ d.1 = s.outbound := by
  intro d hd
  cases r with
  | keep s k =>
    unfold used at hd
    dsimp only at hd
    split at hd <;> cases hd
  | relay s target k =>
    unfold used at hd
    dsimp only at hd
    split at hd
    · rw [List.mem_singleton.mp hd]
      exact ⟨target, h.2, rfl⟩
    · cases hd
  | record => exact h.elim

/-- What an action does that sends through these sessions and may then wait for a message of one. -/
structure Planned (own : Session → Prop) (plan : List Dispatch × Started) : Prop where
  sends : ∀ d ∈ plan.1, ∃ s, own s ∧ d.1 = s.outbound
  waits : ∀ wait, plan.2 = .waits wait → ∃ r, wait = .message r ∧ r.Within own

theorem Planned.ended (own : Session → Prop) (report : Report) :
    Planned own ([], .ended report) :=
  ⟨by simp, fun wait hw => by cases hw⟩

theorem Planned.message {r : Reception} (h : r.Within own) :
    Planned own ([], .waits (.message r)) := by
  refine ⟨by simp, fun wait hw => ?_⟩
  cases hw
  exact ⟨r, rfl, h⟩

/-- A plain action uses the sessions that it names. -/
theorem Action.planned {a : Action} (plain : a.isPlain)
    (named : ∀ name ∈ a.sessionNames, ∀ s, sessions.lookup name = some s → own s) :
    Planned own (a.plan sessions) := by
  cases a with
  | command c =>
    cases c with
    | send name p =>
      simp only [plan]
      split
      · next s found =>
        refine ⟨fun d hd => ?_, fun wait hw => by cases hw⟩
        rw [List.mem_singleton.mp hd]
        exact ⟨s, named name (by simp [sessionNames]) s found, rfl⟩
      · exact .ended own _
    | _ => exact Bool.noConfusion plain
  | receive name k =>
    simp only [plan]
    split
    · next s found => exact .message (named name (by simp [sessionNames]) s found)
    · exact .ended own _
  | relay name target k =>
    simp only [plan]
    split
    · next s s' found found' =>
      exact .message ⟨named name (by simp [sessionNames]) s found,
        named target (by simp [sessionNames]) s' found'⟩
    · exact .ended own _
    · exact .ended own _
  | fail e => exact .ended own _
  | panic payload => exact .ended own _
  | _ => exact Bool.noConfusion plain

namespace Task.Within

variable {t : Task}

theorem settle (h : t.Within sessions own) (tolerant : Bool) (report : Report) :
    (t.settle tolerant report).Within sessions own := by
  unfold Task.settle
  split
  · exact ⟨h.plain, h.named, fun wait tolerant phase => by cases phase⟩
  · exact ⟨h.plain, h.named, fun wait tolerant phase => by cases phase⟩

/-- The next action is started. -/
theorem follow (h : t.Within sessions own) {line : Line} {script : List Line}
    (same : t.script = line :: script) : Task.Within sessions own
      ({ t with script }.follow line.tolerant (line.action.plan sessions).2) := by
  have here : line ∈ t.script := by simp [same]
  have later : ∀ other ∈ script, other ∈ t.script := fun other ho => by simp [same, ho]
  have rest : Task.Within sessions own { t with script } :=
    ⟨fun other ho => h.plain other (later other ho), fun other ho => h.named other (later other ho),
      h.waits⟩
  have planned := Action.planned (h.plain line here) (h.named line here)
  cases started : (line.action.plan sessions).2 with
  | ended report => exact rest.settle line.tolerant report
  | waits wait =>
    refine ⟨rest.plain, rest.named, fun wait' tolerant phase => ?_⟩
    cases phase
    exact planned.waits wait started

end Task.Within

/-- The wiring of plain bodies whose sessions each belong to one of them. -/
def wiring (sessions : Names Session) (owner : QueueId → Nat) :
    Network.Wiring (Task.next sessions) where
  sender := owner
  receiver q := owner ⟨q.link, q.sender.other⟩
  keeps i t := t.Within sessions fun s => owner s.outbound = i
  of_acts := by
    intro i t t' sends h asked
    unfold Task.next at asked
    split at asked
    · cases asked
      exact ⟨by simp, h.plain, h.named, fun wait tolerant phase => by cases phase⟩
    · next line script phase same =>
      cases asked
      have here : line ∈ t.script := by simp [same]
      refine ⟨fun d hd => ?_, h.follow same⟩
      obtain ⟨s, mine, queue⟩ := (Action.planned (h.plain line here) (h.named line here)).sends d hd
      rw [queue, mine]
    · cases asked
    · cases asked
  of_waits := by
    intro i t q use h asked
    unfold Task.next at asked
    split at asked
    · cases asked
    · cases asked
    · next r tolerant phase =>
      cases asked
      obtain ⟨r', same, within⟩ := h.waits _ _ phase
      cases same
      refine ⟨?_, fun e => ⟨fun d hd => ?_, h.settle _ _⟩⟩
      · show owner ⟨r.session.link, r.session.side.other.other⟩ = i
        rw [Side.other_other]
        exact within.session
      · obtain ⟨s, mine, queue⟩ := within.sends e d hd
        rw [queue, mine]
    · cases asked

/-! ## What the world knows of a network -/

namespace World

/-- The network of these bodies and the messages of a world. -/
def network (w : World) (tasks : Nat → Option Task) : Network Task where
  processes := tasks
  queued q := (w.queue q).envelopes
  nextSequence q := (w.queue q).nextSequence
  sent := w.sent

variable {w w' : World} {tasks : Nat → Option Task} {me : Waiter} {s : Session} {e : Envelope}

/-- Where no message moves, the network stays. -/
theorem Still.network (h : w.Still w') : w'.network tasks = w.network tasks :=
  Network.ext rfl (funext h.envelopes) (funext h.nextSequence) (funext h.sent)

/-- A body goes on without a message. -/
theorem network_update (i : Nat) (t : Task) :
    w.network (Function.update tasks i (some t)) = (w.network tasks).send i [] t := by
  refine Network.ext rfl ?_ ?_ ?_ <;> funext q <;> simp [network, Network.send, sentTo]

/-- A body sends a message and goes on. -/
theorem network_send (i : Nat) (t : Task) (s : Session) (p : Payload) :
    (w.send s p).network (Function.update tasks i (some t)) =
      (w.network tasks).send i [s.dispatch p] t := by
  refine Network.ext rfl ?_ ?_ ?_
  · funext q
    by_cases hq : s.outbound = q
    · subst hq
      simp [network, Network.send, sentTo, Session.dispatch, queue_send_self, Queue.nextEnvelope]
    · have same := queue_send_of_ne w s p (Ne.symm hq)
      simp [network, Network.send, sentTo, Session.dispatch, hq, same]
  · funext q
    by_cases hq : s.outbound = q
    · subst hq
      simp [network, Network.send, sentTo, Session.dispatch, queue_send_self]
    · have same := queue_send_of_ne w s p (Ne.symm hq)
      simp [network, Network.send, sentTo, Session.dispatch, hq, same]
  · funext q
    by_cases hq : s.outbound = q
    · subst hq
      simp [network, Network.send, sentTo, Session.dispatch, sent_send, Queue.nextEnvelope]
    · simp [network, Network.send, sentTo, Session.dispatch, hq, sent_send]

/-- A message that is found is the oldest, and is taken out. -/
theorem network_take (tasks : Nat → Option Task) (found : w.lookFor me s = (some e, w')) :
    ((w.network tasks).queued s.inbound).head? = some e ∧
      w'.network tasks = (w.network tasks).pop s.inbound := by
  obtain ⟨rest, queued, left⟩ := queue_of_lookFor_some found
  have sent := sent_lookFor w me s
  rw [found] at sent
  refine ⟨by simp [network, queued], Network.ext rfl ?_ ?_ (funext sent)⟩
  · funext q
    by_cases hq : q = s.inbound
    · subst hq
      simp [network, Network.pop, queued, left]
    · simp [network, Network.pop, hq, queue_of_lookFor_ne found hq]
  · funext q
    by_cases hq : q = s.inbound
    · subst hq
      simp [network, Network.pop, left]
    · simp [network, Network.pop, queue_of_lookFor_ne found hq]

end World

end Rehearsal
