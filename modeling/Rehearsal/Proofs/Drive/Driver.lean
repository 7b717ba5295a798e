import Rehearsal.Proofs.Drive.Histories

/-!
# Driven runs in any order

A driver looks at those who ended and decides whether the run goes on; the participants take their
turns in any order, and the clock moves when nobody can go on. `Underway` collects all that can
happen until the run is over, and `Over` how it ends, so that what holds of them does not rest on
the order in which turns are taken, on when the driver looks, or on who goes first at the deadline.
The marks are kept beside a run for what is said about it: who settled, and when the clock moved.
-/

namespace Rehearsal

/-- That a participant ended: who, when, and how. -/
structure Settlement where
  index : Nat
  tick : Tick
  result : Except Failure Unit

/-- What is noted of a driven run as it happens. -/
inductive Mark where
  | settled (s : Settlement)
  /-- The clock moved to a moment at which sleepers were due. -/
  | woke (due : Tick)

/-- A settlement that was noted. -/
def Mark.settlement? : Mark → Option Settlement
  | settled s => some s
  | woke _ => none

/-- All settlements, in their order. -/
def settlements (marks : List Mark) : List Settlement := marks.filterMap Mark.settlement?

@[simp] theorem settlements_nil : settlements [] = [] := rfl

@[simp] theorem settlements_append (marks marks' : List Mark) :
    settlements (marks ++ marks') = settlements marks ++ settlements marks' :=
  List.filterMap_append ..

theorem settlements_woke (marks : List Mark) (due : Tick) :
    settlements (marks ++ [.woke due]) = settlements marks := by
  rw [settlements_append]
  exact List.append_nil _

namespace Run

/-- What the turn of a participant settles. -/
def settles (i : Nat) (r : Run) : List Mark :=
  match (r.turn i).tasks[i]?.bind Task.result? with
  | some result => [.settled ⟨i, r.now, result⟩]
  | none => []

/-- A run as its driver begins. -/
def opened (participants : List Participant) (stage : Stage) : Run :=
  (start participants stage).mapWorld fun w =>
    (participants.map (·.name)).foldl (fun w name => w.note (.participantStarted name)) w

end Run

variable (config : Config) (participants : List Participant) (stage : Stage)

section
variable [Clock]

/-- A driven run so far, up to a moment between two turns or two looks of the driver. -/
inductive Underway : List Mark → Watch → Run → Prop where
  /-- Before anybody takes a turn, the driver makes sure that there is time for it. -/
  | opened (some_time : 0 < Tick.after 0 config.timeout) :
    Underway [] (Watch.start config 0) (Run.opened participants stage)
  | turn {marks : List Mark} {w : Watch} {r : Run} {i : Nat} (under : Underway marks w r)
      (ready : i ∈ r.ready) : Underway (marks ++ r.settles i) w (r.turn i)
  /-- The driver looks, and the run goes on. -/
  | look {marks : List Mark} {w w' : Watch} {r r' : Run} (under : Underway marks w r)
      (looked : r.observeAll config (participants.map (·.name)) w = (w', r'))
      (some_left : w'.settled.length < r'.tasks.length) (early : r'.now < w'.deadline) :
      Underway marks w' r'
  /-- Nobody can go on, and sleepers are due by the deadline. -/
  | sleep {marks : List Mark} {w : Watch} {r : Run} {due : Tick} (under : Underway marks w r)
      (idle : r.ready = []) (seen : r.ended = []) (next : r.nextDue? = some due)
      (early : due ≤ w.deadline) : Underway (marks ++ [.woke due]) w (r.advance due)

/-- A driven run that is over. -/
inductive Over : List Mark → Watch → Run → Prop where
  /-- There is no time for anybody to take a turn. -/
  | unopened (no_time : Tick.after 0 config.timeout = 0) :
    Over [] (Watch.start config 0) (Run.opened participants stage)
  /-- The driver looks, and everybody has settled or the deadline is reached. -/
  | looked {marks : List Mark} {w w' : Watch} {r r' : Run}
      (under : Underway config participants stage marks w r)
      (looked : r.observeAll config (participants.map (·.name)) w = (w', r'))
      (atEnd : r'.tasks.length ≤ w'.settled.length ∨ w'.deadline ≤ r'.now) : Over marks w' r'
  /-- Nobody can go on before the deadline. -/
  | late {marks : List Mark} {w : Watch} {r : Run}
      (under : Underway config participants stage marks w r) (idle : r.ready = [])
      (seen : r.ended = []) (none_due : ∀ due, r.nextDue? = some due → w.deadline ≤ due) :
      Over marks w { r with now := w.deadline }

end

/-- What the driver does once a run is over: those who still wait are aborted, the log is closed,
and the result is handed out. -/
def concluded (w : Watch) (r : Run) : Driven × Stage :=
  let names := participants.map (·.name)
  let r := r.abort.mapWorld fun world => (w.closing config names).foldl World.note world
  let result := w.verdict config names
  ({ result
     participants := r.tasks.map fun t => (t.status, t.log)
     elapsed := r.now
     overflowed := w.overflowed }, { r.stage with lastRun := some result })

variable {config participants stage}

/-! ## What the driver does to the stage -/

namespace Run

variable {r r' : Run}

/-- Logging changes only the log. -/
theorem notes_eq (events : List Event) (w : World) :
    events.foldl World.note w = { w with log := w.log ++ events } := by
  induction events generalizing w with
  | nil => simp
  | cons e events ih => simp [ih, World.note]

theorem quiet_notes {events : List Event} (plain : ∀ e ∈ events, e.IsPlain) (w : World) :
    w.Quiet (events.foldl World.note w) := by
  induction events generalizing w with
  | nil => exact .refl w
  | cons e events ih =>
    have first := World.Quiet.note w (plain e (List.mem_cons_self ..))
    exact first.trans (ih (fun e he => plain e (List.mem_cons_of_mem _ he)) _)

/-- Logging only plain events is one history. -/
theorem steps_notes (r : Run) {events : List Event} (plain : ∀ e ∈ events, e.IsPlain) :
    Relation.ReflTransGen Step r (r.mapWorld fun w => events.foldl World.note w) := by
  induction events generalizing r with
  | nil => exact .refl
  | cons e events ih =>
    have first := Step.note (r := r) (plain e (List.mem_cons_self ..))
    exact .head first (ih (r.mapWorld (·.note e)) fun e he => plain e (List.mem_cons_of_mem _ he))

theorem opened_eq (participants : List Participant) (stage : Stage) :
    opened participants stage = (start participants stage).mapWorld fun w =>
      (participants.map fun p => Event.participantStarted p.name).foldl World.note w := by
  unfold opened
  congr 1
  funext w
  rw [List.foldl_map, List.foldl_map]

section
variable [Clock]

/-- What the driver says of one participant. -/
theorem ofDriver_observe (w : Watch) (config : Config) (now : Tick) (index : Nat) (name : String)
    (result : Except Failure Unit) : (w.observe config now index name result).2.OfDriver := by
  cases result <;> trivial

/-- Looking at some participants changes nothing but the log. -/
theorem observed_eq (config : Config) (names : List String) (indices : List Nat) (w : Watch)
    (r : Run) : ∃ events : List Event, (∀ e ∈ events, e.OfDriver) ∧
      (indices.foldl (observe config names) (w, r)).2 =
        r.mapWorld fun world => events.foldl World.note world := by
  induction indices generalizing w r with
  | nil => exact ⟨[], by simp, rfl⟩
  | cons i indices ih =>
    rw [List.foldl_cons]
    unfold observe
    dsimp only
    split
    · next result name _ _ =>
      obtain ⟨events, ofDriver, same⟩ := ih (w.observe config r.now i name result).1
        (r.mapWorld (·.note (w.observe config r.now i name result).2))
      refine ⟨(w.observe config r.now i name result).2 :: events, fun e he => ?_, same⟩
      rcases List.mem_cons.mp he with rfl | he
      · exact ofDriver_observe ..
      · exact ofDriver e he
    · exact ih w r

/-- After a look, the log tells of it and nothing else has changed. -/
theorem observeAll_eq (config : Config) (names : List String) (w : Watch) (r : Run) :
    ∃ events : List Event, (∀ e ∈ events, e.OfDriver) ∧ (r.observeAll config names w).2 =
      { r.mapWorld fun world => events.foldl World.note world with ended := [] } :=
  observed_eq config names r.ended w { r with ended := [] }

theorem steps_observeAll {names : List String} {w w' : Watch}
    (looked : r.observeAll config names w = (w', r')) : Relation.ReflTransGen Step r r' := by
  obtain ⟨events, ofDriver, same⟩ := observeAll_eq config names w r
  rw [looked] at same
  rw [show r' = _ from same]
  exact (steps_notes r fun e he => (ofDriver e he).plain).tail .looked

/-- After a look, everybody is where they were. -/
theorem of_looked {names : List String} {w w' : Watch}
    (looked : r.observeAll config names w = (w', r')) : r'.tasks = r.tasks ∧ r'.now = r.now ∧
      r'.ready = r.ready ∧ r'.ended = [] := by
  obtain ⟨events, -, same⟩ := observeAll_eq config names w r
  rw [looked] at same
  rw [show r' = _ from same]
  refine ⟨rfl, rfl, ?_, rfl⟩
  show (events.foldl World.note r.stage.world).ready = r.stage.world.ready
  rw [notes_eq]

end

/-! ## Idle runs -/

/-- Where nobody can go on, nobody's task is ready. -/
theorem Sound.not_ready_of_idle (h : r.Sound) (idle : r.ready = []) {t : Task} (ht : t ∈ r.tasks) :
    t.phase.place r.now ≠ .ready := by
  obtain ⟨i, hi⟩ := List.mem_iff_getElem?.mp ht
  intro there
  have here := (h.places.ready i).mpr (.inl ((place_of_task hi).trans there))
  rw [ready] at idle
  rw [idle] at here
  cases here

/-- Where nobody can go on, all sleepers are due later. -/
theorem Sound.lt_of_due (h : r.Sound) (idle : r.ready = []) {t : Task} (ht : t ∈ r.tasks)
    {due : Tick} (hd : t.due? = some due) : r.now < due := by
  have there := h.not_ready_of_idle idle ht
  rw [place_of_due hd] at there
  by_cases past : due ≤ r.now
  · exact absurd (if_pos past) there
  · exact Nat.lt_of_not_le past

/-- The next moment at which a sleeper is due is the first. -/
theorem nextDue_spec {due : Tick} (h : r.nextDue? = some due) :
    (∃ t ∈ r.tasks, t.due? = some due) ∧
      ∀ t ∈ r.tasks, ∀ other, t.due? = some other → due ≤ other := by
  obtain ⟨mem, least⟩ := List.min?_eq_some_iff.mp h
  obtain ⟨t, ht, hd⟩ := List.mem_filterMap.mp mem
  exact ⟨⟨t, ht, hd⟩, fun u hu other ho => least other (List.mem_filterMap.mpr ⟨u, hu, ho⟩)⟩

/-- The clock jumps to the next sleeper just as time passes. -/
theorem Sound.advance_eq (h : r.Sound) (idle : r.ready = []) {due : Tick}
    (next : r.nextDue? = some due) : r.advance due = r.pass due := by
  obtain ⟨-, least⟩ := nextDue_spec next
  have same : ∀ p ∈ r.tasks.zipIdx, (p.1.due? == some due) =
      p.1.due?.any fun other => decide (r.now < other) && decide (other ≤ due) := by
    intro p hp
    have ht : p.1 ∈ r.tasks := (List.mem_zipIdx' hp).2 ▸ List.getElem_mem ..
    cases hd : p.1.due? with
    | none => rfl
    | some other =>
      have later := h.lt_of_due idle ht hd
      have bound := least p.1 ht other hd
      by_cases ho : other = due
      · simp [ho, ho ▸ later]
      · have beyond : ¬ other ≤ due := fun le => ho (Nat.le_antisymm le bound)
        simp [ho, beyond]
  unfold advance Run.pass woken
  rw [List.filter_congr same]

theorem Sound.step_advance (h : r.Sound) (idle : r.ready = []) {due : Tick}
    (next : r.nextDue? = some due) : Step r (r.advance due) := by
  obtain ⟨⟨t, ht, hd⟩, -⟩ := nextDue_spec next
  rw [h.advance_eq idle next]
  exact .pass (Nat.le_of_lt (h.lt_of_due idle ht hd))

end Run

/-! ## Driven runs are histories -/

theorem Stage.Reached.opened (h : stage.Reached) (participants : List Participant) :
    (Run.opened participants stage).Reached := by
  rw [Run.opened_eq]
  refine (h.start participants).trans (Run.steps_notes _ fun e he => ?_)
  obtain ⟨p, -, rfl⟩ := List.mem_map.mp he
  exact ⟨rfl, fun _ => ⟨rfl, rfl⟩⟩

section
variable [Clock] {marks : List Mark} {w : Watch} {r : Run}

/-- A driven run on a reached stage is reached. -/
theorem Underway.reached (under : Underway config participants stage marks w r)
    (h : stage.Reached) : r.Reached := by
  induction under with
  | opened => exact h.opened participants
  | turn _ ready ih => exact ih.step (.turn ready)
  | look _ looked _ _ ih => exact ih.trans (Run.steps_observeAll looked)
  | sleep _ idle _ next _ ih => exact ih.step (ih.sound.step_advance idle next)

/-- A driven run that goes on was given some time. -/
theorem Underway.some_time (under : Underway config participants stage marks w r) :
    0 < Tick.after 0 config.timeout := by
  induction under with
  | opened some_time => exact some_time
  | turn _ _ ih => exact ih
  | look _ _ _ _ ih => exact ih
  | sleep _ _ _ _ _ ih => exact ih

/-- What is left as a run ends was reached. -/
theorem Over.reached (atEnd : Over config participants stage marks w r) (h : stage.Reached) :
    ∃ now, Run.Reached { r with now } := by
  cases atEnd with
  | unopened => exact ⟨_, h.opened participants⟩
  | looked under looked _ => exact ⟨_, (under.reached h).trans (Run.steps_observeAll looked)⟩
  | late under => exact ⟨_, under.reached h⟩

end

end Rehearsal
