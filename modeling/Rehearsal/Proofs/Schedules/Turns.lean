import Rehearsal.Proofs.Schedules.Bodies

/-!
# Turns as steps of a network

Whatever a plain body does in its turn, the network of all bodies can do step by step. A turn may
also come to nothing, when the message that a body was called for has been taken by somebody else;
then the network stays where it is.
-/

namespace Rehearsal

open Relation

/-- The network goes the way from one stage to another, on which a body becomes this task. -/
structure Follows (i : Nat) (tasks : Nat → Option Task) (stage : Stage) (t : Task)
    (stage' : Stage) : Prop where
  names : stage'.sessions = stage.sessions
  steps : ReflTransGen (Network.Step (Task.next stage.sessions)) (stage.world.network tasks)
    (stage'.world.network (Function.update tasks i (some t)))

variable {me : Waiter} {now : Tick} {own : Session → Prop} {stage stage' stage'' : Stage} {i : Nat}
  {tasks : Nat → Option Task} {t t' : Task}

namespace Follows

/-- Nothing has happened to the body or to any message. -/
theorem still (here : tasks i = some t) {w : World} (h : stage.world.Still w) :
    Follows i tasks stage t { stage with world := w } := by
  refine ⟨rfl, ?_⟩
  rw [← here, Function.update_eq_self, h.network]

theorem trans (h : Follows i tasks stage t stage')
    (h' : Follows i (Function.update tasks i (some t)) stage' t' stage'') :
    Follows i tasks stage t' stage'' := by
  obtain ⟨names, steps⟩ := h'
  rw [h.names, Function.update_idem] at steps
  exact ⟨names.trans h.names, h.steps.trans steps⟩

theorem after_still {w : World} (h : stage.world.Still w)
    (follows : Follows i tasks { stage with world := w } t stage') :
    Follows i tasks stage t stage' := by
  obtain ⟨names, steps⟩ := follows
  rw [h.network] at steps
  exact ⟨names, steps⟩

/-- One step of the body, on its own. -/
theorem acts {sends : List Dispatch} (here : tasks i = some t)
    (asked : t.next stage.sessions = .acts sends t') (names : stage'.sessions = stage.sessions)
    (sent : stage'.world.network (Function.update tasks i (some t')) =
      (stage.world.network tasks).send i sends t') : Follows i tasks stage t' stage' := by
  refine ⟨names, .single ⟨i, ?_⟩⟩
  rw [sent]
  exact .acts here asked

end Follows

/-! ## Looking for a message -/

/-- What is done with a message that was found. -/
theorem Reception.Within.used {r : Reception} (h : r.Within own) {w w' w'' : World} {e : Envelope}
    {result : Except Error Answer} (i : Nat) (tasks : Nat → Option Task) (t : Task)
    (found : w.lookFor me r.session = (some e, w''))
    (looked : r.look me w = (some result, w')) : .of result = (r.used e).2 ∧
      w'.network (Function.update tasks i (some t)) =
        (w''.network tasks).send i (r.used e).1 t := by
  rw [look, found] at looked
  dsimp only at looked
  cases r with
  | keep s k =>
    split at looked
    · next err wrong =>
      cases looked
      have other : e.parcel.receive k = .error err := wrong
      rw [Reception.used, other]
      exact ⟨rfl, World.network_update i t⟩
    · next v right =>
      cases looked
      have fits : e.parcel.receive k = .ok v := right
      rw [Reception.used, fits]
      exact ⟨rfl, World.network_update i t⟩
  | relay s target k =>
    split at looked
    · next err wrong =>
      cases looked
      have other : e.parcel.receive k = .error err := wrong
      rw [Reception.used, other]
      exact ⟨rfl, World.network_update i t⟩
    · next v right =>
      cases looked
      have fits : e.parcel.receive k = .ok v := right
      rw [Reception.used, fits]
      exact ⟨rfl, World.network_send i t target ⟨k, v⟩⟩
  | record => exact h.elim

/-- A body finds the message that it waits for. -/
theorem Reception.Within.follows {r : Reception} (h : r.Within own) {tolerant : Bool} {w : World}
    {result : Except Error Answer} (here : tasks i = some t)
    (phase : t.phase = .waiting (.message r) tolerant)
    (looked : r.look me stage.world = (some result, w)) :
    Follows i tasks stage (t.settle tolerant (.of result)) { stage with world := w } := by
  rcases found : stage.world.lookFor me r.session with ⟨_ | e, w'⟩
  · rw [look, found] at looked
    cases looked
  · obtain ⟨oldest, taken⟩ := World.network_take tasks found
    obtain ⟨report, sent⟩ := h.used i tasks (t.settle tolerant (.of result)) found looked
    have asked : t.next stage.sessions = .waits r.session.inbound fun e =>
        ((r.used e).1, t.settle tolerant (r.used e).2) := by
      unfold Task.next
      rw [phase]
    refine ⟨rfl, .single ⟨i, ?_⟩⟩
    show Network.Act _ i _ (w.network _)
    rw [sent, taken, report]
    exact .takes here asked oldest

/-! ## Starting an action -/

namespace Action

theorem concluded_receiving (r : Reception) : concluded (receiving me r stage) =
    match r.look me (r.start stage.world) with
    | (some result, world) => (.ended (.of result), { stage with world })
    | (none, world) => (.waits (.message r), { stage with world }) := by
  unfold receiving
  rcases r.look me (r.start stage.world) with ⟨_ | result, w⟩
  · rfl
  · cases result <;> rfl

/-- What a plain action does as it is started, beside its plan. -/
inductive Does (me : Waiter) (stage : Stage) :
    List Dispatch × Started → Started × Stage → Prop where
  | ended (report : Report) : Does me stage ([], .ended report) (.ended report, stage)
  | sends (s : Session) (p : Payload) (report : Report) :
    Does me stage ([s.dispatch p], .ended report)
      (.ended report, { stage with world := stage.world.send s p })
  | receives (r : Reception) :
    Does me stage ([], .waits (.message r)) (concluded (receiving me r stage))

variable (me now stage) in
/-- A plain action does what it plans. -/
theorem does {a : Action} (plain : a.isPlain) :
    Does me stage (a.plan stage.sessions) (a.start me now stage) := by
  rw [start_eq]
  cases a with
  | command c =>
    cases c with
    | send name p =>
      simp only [plan, play, Command.run, bind_apply, Play.session, Play.resolve_apply]
      cases stage.sessions.lookup name with
      | some s => exact .sends s p _
      | none => exact .ended _
    | _ => exact Bool.noConfusion plain
  | receive name k =>
    simp only [plan, play, bind_apply, Play.session, Play.resolve_apply]
    cases stage.sessions.lookup name with
    | some s => exact .receives _
    | none => exact .ended _
  | relay name target k =>
    simp only [plan, play, bind_apply, Play.session, Play.resolve_apply]
    cases stage.sessions.lookup name with
    | some s =>
      dsimp only
      cases stage.sessions.lookup target with
      | some s' => exact .receives _
      | none => exact .ended _
    | none => exact .ended _
  | fail e => exact .ended _
  | panic payload => exact .ended _
  | _ => exact Bool.noConfusion plain

end Action

/-- A body begins to wait for a message, and may find it at once. -/
theorem Reception.Within.follows_receiving {r : Reception} (h : r.Within own) {tolerant : Bool}
    {u : Task} (here : tasks i = some t)
    (asked : t.next stage.sessions = .acts [] { u with phase := .waiting (.message r) tolerant }) :
    Follows i tasks stage
      (u.follow tolerant (Action.concluded (Action.receiving me r stage)).1)
      (Action.concluded (Action.receiving me r stage)).2 := by
  have waits : Follows i tasks stage { u with phase := .waiting (.message r) tolerant } stage :=
    .acts here asked rfl (World.network_update i _)
  have begun := (r.quiet_start stage.world).still
  rw [Action.concluded_receiving]
  rcases looked : r.look me (r.start stage.world) with ⟨_ | result, w⟩
  · have missed := World.still_of_lookFor_none (lookFor_of_look_none looked)
    exact waits.trans (.still (Function.update_self ..) (begun.trans missed))
  · -- The message was there, so the body has waited for no time at all.
    have here' := Function.update_self i
      (some { u with phase := .waiting (.message r) tolerant }) tasks
    have finds : Follows i _ { stage with world := r.start stage.world } _
        { stage with world := w } := h.follows here' rfl looked
    exact waits.trans (.after_still begun finds)

variable (me now) in
/-- A body starts its next action. -/
theorem Task.Within.follows_start (h : t.Within stage.sessions own) (here : tasks i = some t)
    (unstarted : t.phase = .unstarted) {line : Line} {script : List Line}
    (same : t.script = line :: script) :
    Follows i tasks stage ({ t with script }.follow line.tolerant
      (line.action.start me now stage).1) (line.action.start me now stage).2 := by
  have member : line ∈ t.script := by simp [same]
  have planned := Action.planned (h.plain line member) (h.named line member)
  have does := Action.does me now stage (h.plain line member)
  have asked : t.next stage.sessions = .acts (line.action.plan stage.sessions).1
      ({ t with script }.follow line.tolerant (line.action.plan stage.sessions).2) := by
    unfold Task.next
    rw [unstarted, same]
  revert does planned asked
  generalize line.action.plan stage.sessions = plan
  generalize line.action.start me now stage = start
  intro planned does asked
  cases does with
  | ended report => exact .acts here asked rfl (World.network_update i _)
  | sends s p report => exact .acts here asked rfl (World.network_send i _ s p)
  | receives r =>
    obtain ⟨r', message, within⟩ := planned.waits _ rfl
    cases message
    exact within.follows_receiving here asked

/-! ## Turns -/

namespace Task

theorem goOn_eq (t : Task) (tolerant : Bool) (report : Report) (stage : Stage) :
    t.goOn me now tolerant report stage = (t.settle tolerant report).poll me now stage := by
  unfold goOn settle
  rcases conclude t.log tolerant report with ⟨log, _ | result⟩ <;> rfl

theorem proceed_cons (line : Line) (script : List Line) (log : List Report) (stage : Stage) :
    proceed me now (line :: script) log stage =
      match line.action.start me now stage with
      | (.waits wait, stage) => ({ script, phase := .waiting wait line.tolerant, log }, stage)
      | (.ended report, stage) =>
        ({ script, log : Task }.settle line.tolerant report).poll me now stage := by
  rw [proceed]
  rcases line.action.start me now stage with ⟨report | wait, stage'⟩
  · unfold settle
    dsimp only
    rcases conclude log line.tolerant report with ⟨log', _ | result⟩ <;> rfl
  · rfl

theorem script_settle (t : Task) (tolerant : Bool) (report : Report) :
    (t.settle tolerant report).script = t.script := by
  unfold settle
  split <;> rfl

/-- Whatever an action comes to, the body does not wait for it any more. -/
theorem settle_not_waiting (t : Task) (tolerant : Bool) (report : Report) (wait : Wait)
    (tolerant' : Bool) : (t.settle tolerant report).phase ≠ .waiting wait tolerant' := by
  unfold settle
  split <;> exact Phase.noConfusion

variable (me now) in
/-- From a place in its script on, a body goes on step by step. -/
theorem Within.follows_going (h : t.Within stage.sessions own) (here : tasks i = some t)
    (going : ∀ wait tolerant, t.phase ≠ .waiting wait tolerant) :
    Follows i tasks stage (t.poll me now stage).1 (t.poll me now stage).2 := by
  obtain ⟨script, phase, log⟩ := t
  induction script generalizing phase log stage tasks with
  | nil =>
    cases phase with
    | unstarted => exact .acts here rfl rfl (World.network_update i _)
    | ended result => exact .still here (.refl _)
    | waiting wait tolerant => exact absurd rfl (going wait tolerant)
  | cons line script ih =>
    cases phase with
    | ended result => exact .still here (.refl _)
    | waiting wait tolerant => exact absurd rfl (going wait tolerant)
    | unstarted =>
      have starts := h.follows_start me now here rfl rfl
      have rest : Task.Within stage.sessions own { script, log } :=
        ⟨fun other ho => h.plain other (List.mem_cons_of_mem _ ho),
          fun other ho => h.named other (List.mem_cons_of_mem _ ho),
          fun wait tolerant phase => by cases phase⟩
      rw [poll_unstarted rfl, proceed_cons]
      rcases start : line.action.start me now stage with ⟨report | wait, stage'⟩
      · rw [start] at starts
        refine starts.trans ?_
        -- The body goes on as a task with a shorter script, or has ended.
        have settled := rest.settle line.tolerant report
        have same := script_settle { script, log } line.tolerant report
        have going' := settle_not_waiting { script, log } line.tolerant report
        have here' := Function.update_self i
          (some (Task.settle { script, log } line.tolerant report)) tasks
        rw [← starts.names] at settled
        show Follows i (Function.update tasks i
          (some (Task.settle { script, log } line.tolerant report))) stage'
          ((Task.settle { script, log } line.tolerant report).poll me now stage').1
          ((Task.settle { script, log } line.tolerant report).poll me now stage').2
        rcases after : Task.settle { script, log } line.tolerant report with ⟨script', phase', log'⟩
        rw [after] at settled same going' here'
        cases same
        exact ih phase' log' settled here' going'
      · rw [start] at starts
        exact starts

variable (me now) in
/-- **A turn** of a plain body is a row of steps of the network, which may be empty. -/
theorem Within.follows_poll (h : t.Within stage.sessions own) (here : tasks i = some t) :
    Follows i tasks stage (t.poll me now stage).1 (t.poll me now stage).2 := by
  cases phase : t.phase with
  | unstarted => exact h.follows_going me now here (by simp [phase])
  | ended result => exact h.follows_going me now here (by simp [phase])
  | waiting wait tolerant =>
    obtain ⟨r, rfl, within⟩ := h.waits wait tolerant phase
    have answered := World.still_answerCall stage.world me r.session
    rw [poll_waiting phase, Wait.resume]
    rcases looked : r.look me (stage.world.answerCall me r.session) with ⟨_ | result, w⟩
    · have missed := World.still_of_lookFor_none (Reception.lookFor_of_look_none looked)
      exact .still here (answered.trans missed)
    · have found : Follows i tasks { stage with world := stage.world.answerCall me r.session } _
          { stage with world := w } := within.follows here phase looked
      have settled : Task.Within ({ stage with world := w } : Stage).sessions own
          (t.settle tolerant (.of result)) := h.settle tolerant _
      have went := settled.follows_going me now (Function.update_self i (some _) tasks)
        (settle_not_waiting t tolerant _)
      rw [← goOn_eq] at went
      have follows := (found.after_still answered).trans went
      cases result with
      | ok a => exact follows
      | error e => exact follows

end Task

end Rehearsal
