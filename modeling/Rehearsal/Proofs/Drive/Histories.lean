import Mathlib.Logic.Relation
import Rehearsal.Proofs.Drive.Sound

/-!
# Histories

Whatever can happen to a stage, in any order: commands are given from outside, participants join and
take turns, time passes, participants are dropped where they are, and the driver writes its log.
`Run.Reached` collects the runs that come of this. It knows nothing of a driver's policy, so what
holds of every reached run holds for every order of steps.
-/

namespace Rehearsal

namespace Run

/-- More participants take part, and are ready in their order. -/
def join (participants : List Participant) (r : Run) : Run :=
  { r.mapWorld fun w =>
      { w with ready := w.ready ++ List.range' r.tasks.length participants.length } with
    tasks := r.tasks ++ participants.map fun p => { script := p.script } }

/-- Those who wake by a later moment. -/
def woken (later : Tick) (r : Run) : List Nat :=
  (r.tasks.zipIdx.filter fun p =>
    p.1.due?.any fun due => decide (r.now < due) && decide (due ≤ later)).map (·.2)

/-- Time passes, and sleepers wake. -/
def pass (later : Tick) (r : Run) : Run :=
  { r.mapWorld fun w => { w with ready := w.ready ++ r.woken later } with now := later }

/-- A participant is dropped where it is, which ends it. -/
def drop (i : Nat) (result : Except Failure Unit) (r : Run) : Run :=
  match r.tasks[i]? with
  | none => r
  | some t =>
    { r.mapWorld fun w =>
        let w := t.withdraw i w
        { w with ready := w.ready.erase i } with
      tasks := r.tasks.set i { t with phase := .ended result } }

/-- One thing that happens. -/
inductive Step : Run → Run → Prop where
  /-- A command from outside the run. -/
  | command {r : Run} (c : Command) {me : Waiter} (outside : r.tasks.length ≤ me) :
      Step r { r with stage := (c.run me r.stage).2 }
  | join {r : Run} (participants : List Participant) : Step r (r.join participants)
  | turn {r : Run} {i : Nat} (ready : i ∈ r.ready) : Step r (r.turn i)
  | pass {r : Run} {later : Tick} (forward : r.now ≤ later) : Step r (r.pass later)
  | drop {r : Run} (i : Nat) (result : Except Failure Unit) : Step r (r.drop i result)
  /-- The driver logs what it did. -/
  | note {r : Run} {e : Event} (plain : e.IsPlain) : Step r (r.mapWorld (·.note e))
  /-- The driver has looked at those who ended. -/
  | looked {r : Run} : Step r { r with ended := [] }
  /-- The driver reports how a run ended. -/
  | report {r : Run} (result : Option (Except Error Unit)) :
      Step r { r with stage := { r.stage with lastRun := result } }
  /-- Everybody has ended, and a new run may begin. -/
  | clear {r : Run} (allEnded : ∀ t ∈ r.tasks, t.isEnded) : Step r { stage := r.stage, tasks := [] }

/-- A run that came of anything that can happen, from an empty stage on. -/
def Reached : Run → Prop := Relation.ReflTransGen Step { stage := {}, tasks := [] }

theorem Sound.empty : Sound { stage := {}, tasks := [] } where
  genuine := .empty
  made := by simp
  places := by
    have nobody : place { stage := {}, tasks := [] } = fun _ => Place.away := by
      funext i
      simp [place]
    rw [nobody]
    exact .empty

variable {r r' : Run} {i : Nat}

/-- What leaves the tasks and the clock alone keeps the invariant if the world's waiters stay where
they are. -/
theorem Sound.restage (h : r.Sound) {stage : Stage} (genuine : stage.Genuine)
    (links : r.stage.world.links <+: stage.world.links) (places : stage.world.Places r.place)
    (ended : List Nat) : Sound { r with stage, ended } :=
  ⟨genuine, fun t ht x tolerant waits => (h.made t ht x tolerant waits).mono links, places⟩

/-! ## Commands from outside -/

theorem place_outside {me : Nat} (outside : r.tasks.length ≤ me) : r.place me = .away := by
  rw [place, List.getElem?_eq_none outside]

theorem Sound.command (h : r.Sound) (c : Command) {me : Waiter} (outside : r.tasks.length ≤ me) :
    Sound { r with stage := (c.run me r.stage).2 } ∧
      ∃ ts, World.Exchange r.stage.world ts (c.run me r.stage).2.world := by
  obtain ⟨genuine, ts, acts, -⟩ : Stage.Moves me 1 r.stage _ := c.moves_run h.genuine
  have places := (h.places.acts acts (place_outside outside)).1
  exact ⟨h.restage genuine acts.exchange.links places r.ended, ts, acts.exchange⟩

/-! ## Joining -/

theorem place_join (participants : List Participant) (r : Run) : (r.join participants).place =
    fun i => if i ∈ List.range' r.tasks.length participants.length then .ready else r.place i := by
  funext (i : Nat)
  have tasks : (r.join participants).tasks[i]? =
      (r.tasks ++ participants.map fun p => ({ script := p.script } : Task))[i]? := rfl
  rw [place, tasks, List.getElem?_append]
  by_cases inside : i < r.tasks.length
  · have early : i ∉ List.range' r.tasks.length participants.length := by
      rw [List.mem_range'_1]
      omega
    rw [if_pos inside, if_neg early]
    rfl
  · rw [if_neg inside, List.getElem?_map]
    by_cases new : i - r.tasks.length < participants.length
    · have late : i ∈ List.range' r.tasks.length participants.length := by
        rw [List.mem_range'_1]
        omega
      rw [if_pos late, List.getElem?_eq_getElem new]
      rfl
    · have beyond : i ∉ List.range' r.tasks.length participants.length := by
        rw [List.mem_range'_1]
        omega
      rw [if_neg beyond, List.getElem?_eq_none (by omega), place_outside (by omega)]
      rfl

theorem Sound.join (h : r.Sound) (participants : List Participant) :
    (r.join participants).Sound := by
  have still := World.still_ready r.stage.world
    (r.stage.world.ready ++ List.range' r.tasks.length participants.length)
  refine ⟨h.genuine.mapWorld (still.linked h.genuine.linked) still.links,
    fun t ht x tolerant waits => ?_, ?_⟩
  · rcases List.mem_append.mp ht with ht | ht
    · exact (h.made t ht x tolerant waits).mono still.links
    · obtain ⟨p, -, rfl⟩ := List.mem_map.mp ht
      cases waits
  · rw [place_join]
    refine h.places.wake List.nodup_range' fun i hi => place_outside ?_
    exact (List.mem_range'_1.mp hi).1

/-! ## Time -/

theorem mem_woken {later : Tick} : i ∈ r.woken later ↔
    ∃ t due, r.tasks[i]? = some t ∧ t.due? = some due ∧ r.now < due ∧ due ≤ later := by
  simp only [woken, List.mem_map, List.mem_filter, Option.any_eq_true, Bool.and_eq_true,
    decide_eq_true_eq, Prod.exists, List.mem_zipIdx_iff_getElem?]
  constructor
  · rintro ⟨t, j, ⟨ht, due, hd, between⟩, rfl⟩
    exact ⟨t, due, ht, hd, between⟩
  · rintro ⟨t, due, ht, hd, between⟩
    exact ⟨t, i, ⟨ht, due, hd, between⟩, rfl⟩

theorem nodup_woken (later : Tick) (r : Run) : (r.woken later).Nodup :=
  (nodup_zipIdx r.tasks).sublist (List.filter_sublist.map _)

/-- A sleeper is away, unless it is due. -/
theorem place_of_due {t : Task} {due now : Tick} (h : t.due? = some due) :
    t.phase.place now = if due ≤ now then .ready else .away := by
  unfold Task.due? at h
  split at h
  · next phase =>
    cases h
    rw [phase, Phase.place]
  · cases h

/-- Whoever does not sleep is where it is at any time. -/
theorem place_of_not_due {t : Task} {now later : Tick} (h : t.due? = none) :
    t.phase.place later = t.phase.place now := by
  unfold Task.due? at h
  split at h
  · cases h
  · next awake =>
    cases phase : t.phase with
    | unstarted => rfl
    | ended => rfl
    | waiting wait tolerant =>
      cases wait with
      | message x => rfl
      | turn => rfl
      | sleep due => exact absurd phase (awake due tolerant)

theorem place_pass {later : Tick} (forward : r.now ≤ later) : (r.pass later).place =
    fun i => if i ∈ r.woken later then .ready else r.place i := by
  funext (i : Nat)
  by_cases wakes : i ∈ r.woken later
  · obtain ⟨t, due, ht, hd, -, reached⟩ := mem_woken.mp wakes
    rw [if_pos wakes, place, show (r.pass later).tasks[i]? = some t from ht]
    show t.phase.place later = _
    rw [place_of_due hd, if_pos reached]
  · rw [if_neg wakes, place, place, show (r.pass later).tasks[i]? = r.tasks[i]? from rfl]
    cases ht : r.tasks[i]? with
    | none => rfl
    | some t =>
      show t.phase.place later = t.phase.place r.now
      cases hd : t.due? with
      | none => exact place_of_not_due hd
      | some due =>
        have asleep : ¬ (r.now < due ∧ due ≤ later) := fun between =>
          wakes (mem_woken.mpr ⟨t, due, ht, hd, between⟩)
        rw [place_of_due hd, place_of_due hd]
        by_cases past : due ≤ r.now
        · rw [if_pos past, if_pos (Nat.le_trans past forward)]
        · rw [if_neg past, if_neg fun reached => asleep ⟨Nat.not_le.mp past, reached⟩]

theorem Sound.pass (h : r.Sound) {later : Tick} (forward : r.now ≤ later) :
    (r.pass later).Sound := by
  have still := World.still_ready r.stage.world (r.stage.world.ready ++ r.woken later)
  refine ⟨h.genuine.mapWorld (still.linked h.genuine.linked) still.links,
    fun t ht x tolerant waits => (h.made t ht x tolerant waits).mono still.links, ?_⟩
  rw [place_pass forward]
  refine h.places.wake (nodup_woken later r) fun i hi => ?_
  obtain ⟨t, due, ht, hd, before, -⟩ := mem_woken.mp hi
  rw [place_of_task ht, place_of_due hd, if_neg (Nat.not_le.mpr before)]

/-! ## Dropping -/

theorem drop_of_none (h : r.tasks[i]? = none) (result : Except Failure Unit) :
    r.drop i result = r := by
  rw [drop, h]

/-- Where nobody waits for a message, dropping takes away only the turn. -/
theorem withdraw_of_silent {t : Task}
    (silent : ∀ x tolerant, t.phase ≠ .waiting (.message x) tolerant) (w : World) :
    t.withdraw i w = w := by
  unfold Task.withdraw
  split
  · next x tolerant phase => exact absurd phase (silent x tolerant)
  · rfl

theorem withdraw_of_message {t : Task} {x : Reception} {tolerant : Bool}
    (h : t.phase = .waiting (.message x) tolerant) (w : World) :
    t.withdraw i w = w.withdraw i x.session := by
  rw [Task.withdraw, h]

theorem still_withdrawn (t : Task) (i : Nat) (w : World) : w.Still (t.withdraw i w) := by
  unfold Task.withdraw
  split
  · exact World.still_withdraw _ _ _
  · exact .refl w

theorem still_dropped (t : Task) (i : Nat) (w : World) :
    w.Still { t.withdraw i w with ready := (t.withdraw i w).ready.erase i } :=
  (still_withdrawn t i w).trans (World.still_ready _ _)

/-- Dropping moves no message. -/
theorem still_drop (r : Run) (i : Nat) (result : Except Failure Unit) :
    r.stage.world.Still (r.drop i result).stage.world := by
  cases ht : r.tasks[i]? with
  | none =>
    rw [drop_of_none ht]
    exact .refl _
  | some t =>
    rw [drop, ht]
    exact still_dropped t i _

/-- Whoever is dropped is away, wherever it was. -/
theorem places_drop (h : r.Sound) {t : Task} (ht : r.tasks[i]? = some t) :
    ({ t.withdraw i r.stage.world with
      ready := (t.withdraw i r.stage.world).ready.erase i } : World).Places
        (Function.update r.place i .away) := by
  have here := place_of_task ht
  cases there : t.phase.place r.now with
  | listens q =>
    obtain ⟨x, tolerant, phase, rfl⟩ := Phase.message_of_listens there
    rw [withdraw_of_message phase]
    exact h.places.withdraw (here.trans there)
  | ready =>
    have silent : ∀ x tolerant, t.phase ≠ .waiting (.message x) tolerant := by
      intro x tolerant phase
      rw [phase] at there
      cases there
    rw [withdraw_of_silent silent]
    exact h.places.leave (here.trans there)
  | away =>
    have silent : ∀ x tolerant, t.phase ≠ .waiting (.message x) tolerant := by
      intro x tolerant phase
      rw [phase] at there
      cases there
    have absent := h.places.not_ready_of_away (here.trans there)
    rw [withdraw_of_silent silent, List.erase_of_not_mem absent, ← there, ← here,
      Function.update_eq_self]
    exact h.places

theorem Sound.drop (h : r.Sound) (i : Nat) (result : Except Failure Unit) :
    (r.drop i result).Sound := by
  cases ht : r.tasks[i]? with
  | none => rwa [drop_of_none ht]
  | some t =>
    have still := still_dropped t i r.stage.world
    have places := places_drop h ht
    have place := place_put ht { t with phase := .ended result } r.stage
    rw [Run.drop, ht]
    refine ⟨h.genuine.mapWorld (still.linked h.genuine.linked) still.links,
      fun u hu x tolerant waits => ?_, ?_⟩
    · rcases List.mem_or_eq_of_mem_set hu with hu | rfl
      · exact (h.made u hu x tolerant waits).mono still.links
      · cases waits
    · show World.Places _ (r.put i { t with phase := .ended result } r.stage).place
      rw [place]
      exact places

/-! ## Every step -/

theorem Sound.clear (h : r.Sound) (allEnded : ∀ t ∈ r.tasks, t.isEnded) :
    Sound { stage := r.stage, tasks := [] } := by
  have nobody : r.place = place { stage := r.stage, tasks := [] } := by
    funext i
    cases ht : r.tasks[i]? with
    | none => simp [Run.place, ht]
    | some t =>
      have ended := allEnded t (List.mem_of_getElem? ht)
      rw [place_of_task ht]
      cases phase : t.phase with
      | ended => simp [Phase.place, Run.place]
      | _ => simp [Task.isEnded, phase] at ended
  exact ⟨h.genuine, by simp, nobody ▸ h.places⟩

/-- **Whatever happens** keeps the invariant and moves messages through sessions only. -/
theorem Step.sound (step : Step r r') (h : r.Sound) :
    r'.Sound ∧ ∃ ts, World.Exchange r.stage.world ts r'.stage.world := by
  cases step with
  | command c outside => exact h.command c outside
  | join participants => exact ⟨h.join participants, [], .still (World.still_ready _ _)⟩
  | turn ready =>
    obtain ⟨t, t', stage, took⟩ := h.took ready
    refine ⟨took.turn_sound h, ?_⟩
    rw [took.after]
    exact took.exchange
  | pass forward => exact ⟨h.pass forward, [], .still (World.still_ready _ _)⟩
  | drop i result =>
    exact ⟨h.drop i result, [], .still (still_drop r i result)⟩
  | note plain =>
    have quiet := World.Quiet.note r.stage.world plain
    have genuine := h.genuine.mapWorld (quiet.linked h.genuine.linked) quiet.links
    exact ⟨h.restage genuine quiet.links (h.places.quiet quiet) r.ended, [], .still quiet.still⟩
  | looked => exact ⟨h.restage h.genuine (List.prefix_refl _) h.places [], [], .refl _⟩
  | report result =>
    have genuine : ({ r.stage with lastRun := result } : Stage).Genuine :=
      ⟨h.genuine.linked, h.genuine.links, h.genuine.sessions⟩
    exact ⟨h.restage genuine (List.prefix_refl _) h.places r.ended, [], .refl _⟩
  | clear allEnded => exact ⟨h.clear allEnded, [], .refl _⟩

/-- Steps keep the invariant, and the messages that they move make one exchange. -/
theorem Sound.steps (steps : Relation.ReflTransGen Step r r') (h : r.Sound) :
    r'.Sound ∧ ∃ ts, World.Exchange r.stage.world ts r'.stage.world := by
  induction steps with
  | refl => exact ⟨h, [], .refl _⟩
  | tail _ step ih =>
    obtain ⟨sound, ts, exchange⟩ := ih
    obtain ⟨sound', us, exchange'⟩ := step.sound sound
    exact ⟨sound', ts ++ us, exchange.trans exchange'⟩

theorem Reached.sound (h : r.Reached) : r.Sound := (Sound.empty.steps h).1

/-- A reached world came of an exchange that began with nothing. -/
theorem Reached.exchange (h : r.Reached) : ∃ ts, World.Exchange {} ts r.stage.world :=
  (Sound.empty.steps h).2

theorem Reached.trans (h : r.Reached) (steps : Relation.ReflTransGen Step r r') : r'.Reached :=
  Relation.ReflTransGen.trans h steps

theorem Reached.step (h : r.Reached) (step : Step r r') : r'.Reached :=
  Relation.ReflTransGen.tail h step

/-! ## Histories of some forms -/

/-- Turns until nobody can go on. -/
theorem Reached.drain (h : r.Reached) (fuel : Nat) : (r.drain fuel).Reached :=
  drain_induction (P := Reached) (fun _ _ h hi => h.step (.turn hi)) fuel h

/-- Nobody is ready where everybody has ended. -/
theorem Sound.ready_of_over (h : r.Sound) (allEnded : ∀ t ∈ r.tasks, t.isEnded) : r.ready = [] := by
  have nobody := (h.clear allEnded).places
  refine List.eq_nil_iff_forall_not_mem.mpr fun i hi => ?_
  exact nobody.not_ready_of_away (by simp [Run.place]) hi

/-- The run of nobody on the stage that commands leave behind. -/
def prepared (commands : List Command) : Run :=
  commands.foldl (fun r c => { r with stage := (c.run 0 r.stage).2 }) { stage := {}, tasks := [] }

theorem reached_prepared (commands : List Command) :
    (prepared commands).Reached ∧ (prepared commands).tasks = [] := by
  have grow : ∀ r : Run, r.Reached → r.tasks = [] →
      Reached (commands.foldl (fun r c => { r with stage := (c.run 0 r.stage).2 }) r) ∧
        (commands.foldl (fun r c => { r with stage := (c.run 0 r.stage).2 }) r).tasks = [] := by
    induction commands with
    | nil => exact fun r h none => ⟨h, none⟩
    | cons c commands ih =>
      intro r h none
      have outside : r.tasks.length ≤ 0 := by simp [none]
      exact ih _ (h.step (.command c outside)) none
  exact grow _ .refl rfl

end Run

/-- A stage on which nobody is at work, after any history. -/
def Stage.Reached (stage : Stage) : Prop := Run.Reached { stage, tasks := [] }

namespace Stage

variable {stage : Stage}

theorem Reached.empty : Stage.Reached {} := .refl

/-- Everybody has ended. -/
theorem Reached.of_over {r : Run} (h : r.Reached) (allEnded : ∀ t ∈ r.tasks, t.isEnded) :
    r.stage.Reached :=
  h.step (.clear allEnded)

theorem Reached.prepared (commands : List Command) : (Run.prepared commands).stage.Reached := by
  obtain ⟨reached, nobody⟩ := Run.reached_prepared commands
  exact .of_over reached (by simp [nobody])

/-- Two members, a link between them, and each one's session under its name. -/
def pair : Stage :=
  (Run.prepared [.linkMembers "link" "O=Alice, L=Oslo, C=NO" "O=Bob, L=Bonn, C=DE",
    .sessions "link" "alice" "bob"]).stage

theorem Reached.pair : Stage.pair.Reached := .prepared _

theorem Reached.command (h : stage.Reached) (c : Command) (me : Waiter) :
    (c.run me stage).2.Reached :=
  Run.Reached.step (r := { stage, tasks := [] }) h (.command c (Nat.zero_le me))

theorem Reached.report (h : stage.Reached) (result : Option (Except Error Unit)) :
    ({ stage with lastRun := result } : Stage).Reached :=
  Run.Reached.step (r := { stage, tasks := [] }) h (.report result)

theorem Reached.ready (h : stage.Reached) : stage.world.ready = [] :=
  h.sound.ready_of_over (by simp)

/-- A run begins as all its participants join. -/
theorem Reached.start (h : stage.Reached) (participants : List Participant) :
    (Run.start participants stage).Reached := by
  have joined := h.step (.join participants)
  have same : Run.join participants { stage, tasks := [] } = Run.start participants stage := by
    simp only [Run.join, Run.start, Run.mapWorld, h.ready, List.nil_append, List.length_nil,
      List.range_eq_range']
  rwa [same] at joined

end Stage

end Rehearsal
