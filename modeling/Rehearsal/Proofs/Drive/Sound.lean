import Rehearsal.Drive.Run
import Rehearsal.Proofs.Drive.Tasks

/-!
# The invariant of a run

Between two turns every participant is where its task says it is, and what it waits for comes from a
link. A turn of anybody who can go on keeps this and uses up some of the run's potential, whatever
the order of turns.
-/

namespace Rehearsal

namespace Run

/-- Where a participant is; whoever takes no part is away. -/
def place (r : Run) (i : Waiter) : Place :=
  match r.tasks[i]? with
  | some t => t.phase.place r.now
  | none => .away

/-- The invariant of a run. -/
structure Sound (r : Run) : Prop where
  genuine : r.stage.Genuine
  made : ∀ t ∈ r.tasks, ∀ x tolerant, t.phase = .waiting (.message x) tolerant →
    x.Made r.stage.world
  places : r.stage.world.Places r.place

/-! ## What a turn replaces -/

/-- The stage as the turn of a participant begins. -/
def begun (i : Nat) (r : Run) : Stage :=
  { r.stage with world := { r.stage.world with ready := r.stage.world.ready.erase i } }

/-- The run after a turn that left a participant with this task on this stage. -/
def put (i : Nat) (t : Task) (stage : Stage) (r : Run) : Run :=
  { r with
    stage
    tasks := r.tasks.set i t
    ended := if t.isEnded then r.ended ++ [i] else r.ended }

theorem turn_eq {r : Run} {i : Nat} {t : Task} (h : r.tasks[i]? = some t) : r.turn i =
    r.put i (t.poll i r.now (r.begun i)).1 (t.poll i r.now (r.begun i)).2 := by
  unfold turn poll
  rw [show (r.mapWorld fun w => { w with ready := w.ready.erase i }).tasks[i]? = some t from h]
  rfl

theorem tasks_put_self {r : Run} {i : Nat} {t : Task} (h : r.tasks[i]? = some t) (t' : Task)
    (stage : Stage) : (r.put i t' stage).tasks[i]? = some t' :=
  List.getElem?_set_self (List.getElem?_eq_some_iff.mp h).1

theorem tasks_put_of_ne {r : Run} {i j : Nat} (h : i ≠ j) (t' : Task) (stage : Stage) :
    (r.put i t' stage).tasks[j]? = r.tasks[j]? :=
  List.getElem?_set_ne h

/-- The turn of nobody only takes a number off the list of those who are ready. -/
theorem turn_of_none {r : Run} {i : Nat} (h : r.tasks[i]? = none) :
    r.turn i = { r with stage := r.begun i } := by
  unfold turn poll
  rw [show (r.mapWorld fun w => { w with ready := w.ready.erase i }).tasks[i]? = none from h]
  rfl

theorem begun_genuine {r : Run} (h : r.stage.Genuine) (i : Nat) : (r.begun i).Genuine :=
  ⟨⟨h.linked.numbers, h.linked.attached⟩, h.links, h.sessions⟩

theorem place_of_task {r : Run} {i : Nat} {t : Task} (h : r.tasks[i]? = some t) :
    r.place i = t.phase.place r.now := by
  rw [place, h]

/-- Only the place of the participant whose turn it was changes. -/
theorem place_put {r : Run} {i : Nat} {t : Task} (h : r.tasks[i]? = some t) (t' : Task)
    (stage : Stage) :
    (r.put i t' stage).place = Function.update r.place i (t'.phase.place r.now) := by
  have inside : i < r.tasks.length := (List.getElem?_eq_some_iff.mp h).1
  funext j
  by_cases hj : j = i
  · subst hj
    simp [place, put, inside]
  · simp [place, put, hj, List.getElem?_set_ne (Ne.symm hj)]

end Run

/-! ## What is used up -/

/-- A body that sleeps past this moment. -/
def Phase.asleep (now : Tick) : Phase → Nat
  | .waiting (.sleep due) _ => if due ≤ now then 0 else 1
  | _ => 0

theorem Phase.asleep_le_load (now : Tick) (phase : Phase) : phase.asleep now ≤ phase.load := by
  cases phase with
  | waiting wait =>
    cases wait with
    | sleep due =>
      rw [asleep, load]
      split <;> omega
    | _ => exact Nat.zero_le _
  | _ => exact Nat.zero_le _

/-- What a body may still do: a line may make somebody ready as it is started and as it is
finished. -/
def Task.potential (t : Task) : Nat := 2 * t.script.length + t.phase.load

namespace Run

/-- A turn that replaces a task and the stage. -/
structure Took (r : Run) (i : Nat) (t t' : Task) (stage : Stage) : Prop where
  before : r.tasks[i]? = some t
  after : r.turn i = r.put i t' stage
  genuine : stage.Genuine
  exchange : ∃ ts, World.Exchange r.stage.world ts stage.world
  made : ∀ x tolerant, t'.phase = .waiting (.message x) tolerant → x.Made stage.world
  places : stage.world.Places (Function.update r.place i (t'.phase.place r.now))
  left : t'.phase.asleep r.now + t'.script.length ≤ t.script.length
  spent : t'.potential + stage.world.ready.length < t.potential + r.ready.length

variable {r : Run} {i : Nat} {t : Task}

/-- A turn that gets anywhere. -/
theorem took_of_turned {credit : Nat} {ts : List Transfer} {w : World}
    (before : r.tasks[i]? = some t) (exchange : World.Exchange r.stage.world ts w)
    (places : w.Places (Function.update r.place i .away))
    (ready : w.ready.length < r.ready.length)
    (turned : Task.Turned i r.now w t.script.length credit (t.poll i r.now (r.begun i)).1
      (t.poll i r.now (r.begun i)).2) (earned : credit ≤ t.phase.load) :
    Took r i t (t.poll i r.now (r.begun i)).1 (t.poll i r.now (r.begun i)).2 := by
  obtain ⟨us, works, bound⟩ := turned.works
  obtain ⟨places', length⟩ := works.places places (by simp)
  have asleep := Phase.asleep_le_load r.now (t.poll i r.now (r.begun i)).1.phase
  have left := turned.left
  refine ⟨before, turn_eq before, turned.genuine, ⟨ts ++ us, exchange.trans works.exchange⟩,
    fun x tolerant waits => works.made waits, ?_, by omega, ?_⟩
  · rwa [Function.update_idem] at places'
  · simp only [Task.potential]
    omega

/-- **A turn** of anybody who can go on. -/
theorem Sound.took (h : r.Sound) (hi : i ∈ r.ready) : ∃ t t' stage, Took r i t t' stage := by
  have genuine := begun_genuine h.genuine i
  have still := World.still_ready r.stage.world (r.stage.world.ready.erase i)
  have fewer : (r.stage.world.ready.erase i).length < r.ready.length := by
    have one := List.length_erase_of_mem hi
    have pos := List.length_pos_of_mem hi
    rw [ready] at one pos ⊢
    omega
  rcases (h.places.ready i).mp hi with isReady | ⟨q, called⟩
  · -- The participant has not begun, was asleep, or let the others go first.
    cases before : r.tasks[i]? with
    | none =>
      rw [place, before] at isReady
      cases isReady
    | some t =>
      have phase := isReady
      rw [place_of_task before] at phase
      exact ⟨t, _, _, took_of_turned before (.still still) (h.places.leave isReady) fewer
        (Task.turned_ready phase genuine) (Nat.zero_le _)⟩
  · -- The participant was called to a queue, where somebody else may have come first.
    have listens := h.places.listens_of_called called
    cases before : r.tasks[i]? with
    | none =>
      rw [place, before] at listens
      cases listens
    | some t =>
      rw [place_of_task before] at listens
      obtain ⟨x, tolerant, phase, rfl⟩ := Phase.message_of_listens listens
      have made := h.made t (List.mem_of_getElem? before) x tolerant phase
      have answered := still.trans (World.still_answerCall (r.begun i).world i x.session)
      rcases Task.poll_message i r.now phase genuine (made.mono still.links) with
        ⟨w, missed, polled⟩ | ⟨e, w, found, turned⟩
      · -- Somebody else took the message: the participant is parked once more.
        have same : w.ready = r.stage.world.ready.erase i := World.ready_of_lookFor missed
        have waited := answered.trans (World.still_of_lookFor_none missed)
        have after := turn_eq before
        rw [polled] at after
        refine ⟨t, t, _, before, after, ?_, ⟨[], .still waited⟩, ?_, ?_, ?_, ?_⟩
        · exact h.genuine.mapWorld (waited.linked h.genuine.linked) waited.links
        · have member := List.mem_of_getElem? before
          exact fun y tolerant waits => (h.made t member y tolerant waits).mono waited.links
        · have there := h.places.resume_park called missed
          rwa [← place_of_task before, Function.update_eq_self]
        · have awake : t.phase.asleep r.now = 0 := by
            rw [phase]
            rfl
          omega
        · rw [same]
          omega
      · -- The message is taken, and the body goes on from there.
        have taken := (World.Exchange.still answered).trans
          (.take (made.mono answered.links).session found)
        have same : w.ready = r.stage.world.ready.erase i := World.ready_of_lookFor found
        exact ⟨t, _, _, took_of_turned before taken (h.places.resume_take called found)
          (by rwa [same]) turned (by rw [phase]; exact Nat.le_refl 1)⟩

theorem Took.turn_sound {t' : Task} {stage : Stage} (took : Took r i t t' stage) (h : r.Sound) :
    (r.turn i).Sound := by
  obtain ⟨ts, exchange⟩ := took.exchange
  rw [took.after]
  refine ⟨took.genuine, fun u hu x tolerant waits => ?_, ?_⟩
  · rcases List.mem_or_eq_of_mem_set hu with hu | rfl
    · exact (h.made u hu x tolerant waits).mono exchange.links
    · exact took.made x tolerant waits
  · rw [place_put took.before]
    exact took.places

namespace Took

variable {t' : Task} {stage : Stage}

theorem own (took : Took r i t t' stage) : (r.turn i).tasks[i]? = some t' := by
  rw [took.after]
  exact tasks_put_self took.before t' stage

theorem others (took : Took r i t t' stage) {j : Nat} (hj : j ≠ i) :
    (r.turn i).tasks[j]? = r.tasks[j]? := by
  rw [took.after]
  exact tasks_put_of_ne (Ne.symm hj) t' stage

theorem length (took : Took r i t t' stage) : (r.turn i).tasks.length = r.tasks.length := by
  rw [took.after]
  exact List.length_set ..

theorem now (took : Took r i t t' stage) : (r.turn i).now = r.now := by
  rw [took.after]
  rfl

theorem ended_of_going (took : Took r i t t' stage) (going : t'.result? = none) :
    (r.turn i).ended = r.ended := by
  have unended : t'.isEnded = false := by
    cases phase : t'.phase with
    | ended result => simp [Task.result?, phase] at going
    | unstarted => simp [Task.isEnded, phase]
    | waiting => simp [Task.isEnded, phase]
  rw [took.after, put, unended]
  rfl

theorem ended_of_over (took : Took r i t t' stage) {result : Except Failure Unit}
    (finished : t'.result? = some result) : (r.turn i).ended = r.ended ++ [i] := by
  have closed : t'.isEnded = true := by
    cases phase : t'.phase with
    | ended result => simp [Task.isEnded, phase]
    | unstarted => simp [Task.result?, phase] at finished
    | waiting => simp [Task.result?, phase] at finished
  rw [took.after, put, closed]
  rfl

end Took

/-- Whoever can go on has not ended. -/
theorem Sound.going_of_ready (h : r.Sound) (hi : i ∈ r.ready) :
    r.tasks[i]?.bind Task.result? = none := by
  cases ht : r.tasks[i]? with
  | none => rfl
  | some t =>
    cases phase : t.phase with
    | ended result =>
      have away : r.place i = .away := by
        rw [place_of_task ht, phase]
        rfl
      exact absurd hi (h.places.not_ready_of_away away)
    | unstarted => simp [Task.result?, phase]
    | waiting => simp [Task.result?, phase]

/-- A turn keeps the invariant. -/
theorem Sound.turn (h : r.Sound) (hi : i ∈ r.ready) : (r.turn i).Sound := by
  obtain ⟨t, t', stage, took⟩ := h.took hi
  exact took.turn_sound h

/-! ## Turns until nobody can go on -/

/-- What all participants may still do. Being ready is worth one turn. -/
def potential (r : Run) : Nat := (r.tasks.map Task.potential).sum + r.ready.length

/-- Every turn uses up some of the potential. -/
theorem Sound.potential_turn (h : r.Sound) (hi : i ∈ r.ready) :
    (r.turn i).potential < r.potential := by
  obtain ⟨t, t', stage, took⟩ := h.took hi
  have sum := sum_map_set took.before t' Task.potential
  have spent := took.spent
  rw [took.after, potential, potential]
  show ((r.tasks.set i t').map Task.potential).sum + stage.world.ready.length < _
  omega

/-- A property that every turn keeps is kept until nobody can go on. -/
theorem drain_induction {P : Run → Prop} (turn : ∀ r i, P r → i ∈ r.ready → P (r.turn i))
    (fuel : Nat) {r : Run} (h : P r) : P (r.drain fuel) := by
  induction fuel generalizing r with
  | zero => exact h
  | succ fuel ih =>
    rw [drain]
    split
    · exact h
    · next i rest hr => exact ih (turn r i h (by simp [hr]))

/-- With enough fuel, turns are taken until nobody can go on. -/
theorem Sound.ready_drain {fuel : Nat} (h : r.Sound) (enough : r.potential ≤ fuel) :
    (r.drain fuel).ready = [] := by
  induction fuel generalizing r with
  | zero =>
    rw [drain]
    refine List.eq_nil_of_length_eq_zero ?_
    rw [potential] at enough
    omega
  | succ fuel ih =>
    rw [drain]
    split
    · next hr => exact hr
    · next i rest hr =>
      have hi : i ∈ r.ready := by simp [hr]
      have spent := h.potential_turn hi
      exact ih (h.turn hi) (by omega)

theorem remaining_eq (r : Run) : r.remaining = (r.tasks.map fun t => t.script.length).sum :=
  List.sum_eq_foldl.symm

/-- There is always enough fuel. -/
theorem potential_le_turns (r : Run) : r.potential ≤ r.turns := by
  have bound : ∀ tasks : List Task, (tasks.map Task.potential).sum ≤
      2 * ((tasks.map fun t => t.script.length).sum + tasks.length) := by
    intro tasks
    induction tasks with
    | nil => exact Nat.le_refl 0
    | cons t tasks ih =>
      have one : t.phase.load ≤ 1 := by
        cases t.phase <;> simp [Phase.load]
      simp only [List.map_cons, List.sum_cons, List.length_cons, Task.potential]
      omega
  have tasks := bound r.tasks
  rw [turns, potential, remaining_eq]
  omega

end Run

end Rehearsal
