import Rehearsal.Proofs.Schedules.Standstill

/-!
# Schedule independence

Plain participants with sessions of their own come to the same in every order of turns, and in every
order in which they take part: all receive the same and end the same way, and the same messages are
left. Only which of several failures is reported, and the order of a list of those who are stuck, is
up to the schedule.
-/

namespace Rehearsal

variable {config : Config} {participants participants' : List Participant} {stage : Stage}
  {marks marks' : List Mark} {w w' : Watch} {r r' : Run} {σ : Nat ≃ Nat}

/-! ## Where the participants stand -/

/-- The same participants in another order. -/
theorem perm_zipIdx (same : ∀ i, participants'[σ i]? = participants[i]?) :
    participants'.zipIdx.Perm (participants.zipIdx.map fun p => (p.1, σ p.2)) := by
  have once (ps : List Participant) : ps.zipIdx.Nodup := .of_map Prod.snd (nodup_zipIdx ps)
  have once' : (participants.zipIdx.map fun p => (p.1, σ p.2)).Nodup := by
    refine (once participants).map fun p p' hp => ?_
    obtain ⟨who, number⟩ := Prod.ext_iff.mp hp
    exact Prod.ext who (σ.injective number)
  refine (List.perm_ext_iff_of_nodup (once participants') once').mpr fun ⟨p, j⟩ => ?_
  obtain ⟨i, rfl⟩ := σ.surjective j
  rw [List.mem_zipIdx_iff_getElem?, same]
  constructor
  · intro hp
    exact List.mem_map.mpr ⟨(p, i), List.mem_zipIdx_iff_getElem?.mpr hp, rfl⟩
  · intro hp
    obtain ⟨⟨p', i'⟩, hp', there⟩ := List.mem_map.mp hp
    obtain ⟨who, number⟩ := Prod.ext_iff.mp there
    cases who
    cases σ.injective number
    exact List.mem_zipIdx_iff_getElem?.mp hp'

theorem length_eq_of_same (same : ∀ i, participants'[σ i]? = participants[i]?) :
    participants'.length = participants.length := by
  simpa using (perm_zipIdx same).length_eq

/-- If the same participants have settled, the same are unsettled. -/
theorem perm_unsettled (same : ∀ i, participants'[σ i]? = participants[i]?)
    {settled settled' : List Settlement}
    (alike : ∀ i, σ i ∈ settled'.map Settlement.index ↔ i ∈ settled.map Settlement.index) :
    (unsettled participants' settled').Perm (unsettled participants settled) := by
  have perm := ((perm_zipIdx same).filter fun p =>
    decide (p.2 ∉ settled'.map Settlement.index)).map fun p => p.1.name
  refine perm.trans (.of_eq ?_)
  rw [List.filter_map, List.map_map]
  unfold unsettled
  congr 1
  refine List.filter_congr fun p _ => ?_
  simp only [Function.comp_apply, alike]

/-! ## Results -/

/-- Results of one kind, which differ at most in the failure that they report and in the order of
those who are stuck. -/
inductive SameKind : Except Error Unit → Except Error Unit → Prop where
  | completed : SameKind (.ok ()) (.ok ())
  | failed (name name' : String) (source source' : Error) :
    SameKind (.error (.participantFailed name source)) (.error (.participantFailed name' source'))
  | deadlock {stuck stuck' : List String} (timeout : Duration) (perm : stuck'.Perm stuck) :
    SameKind (.error (.participantDeadlock stuck timeout))
      (.error (.participantDeadlock stuck' timeout))

/-- A participant that has failed, and how. -/
def Run.Failed (r : Run) (i : Nat) (failure : Failure) : Prop :=
  r.tasks[i]?.bind Task.result? = some (.error failure)

/-- Two driven runs that came to the same, where a participant of the one stands in another place in
the other. -/
structure Agree (σ : Nat → Nat) (participants : List Participant) (r r' : Run)
    (d d' : Driven × Stage) : Prop where
  /-- Everybody received the same, and ended the same way or still waits for the same. -/
  tasks : ∀ i : Nat, r'.tasks[σ i]? = r.tasks[i]?
  /-- The same is handed out about everybody. -/
  told : ∀ i : Nat, d'.1.participants[σ i]? = d.1.participants[i]?
  /-- The same messages are left, under the same numbers. -/
  left : ∀ q, (d'.2.world.queue q).envelopes = (d.2.world.queue q).envelopes
  nextSequence : ∀ q, (d'.2.world.queue q).nextSequence = (d.2.world.queue q).nextSequence
  sent : ∀ q, d'.2.world.sent q = d.2.world.sent q
  taken : ∀ q, d'.2.world.taken q = d.2.world.taken q
  result : SameKind d.1.result d'.1.result
  /-- What the second run reports as a failure is one of the first run too. -/
  reported : ∀ name source, d'.1.result = .error (.participantFailed name source) →
    ∃ (i : Nat) (p : Participant) (failure : Failure), participants[i]? = some p ∧
      r.Failed i failure ∧
      name = p.name ∧ source = failure.toError

section
variable [Clock]

/-! ## One standstill -/

/-- Whatever the order of turns, the network comes to the same. -/
theorem Over.same_network (atEnd : Over config participants stage marks w r)
    (atEnd' : Over config participants' stage marks' w' r') (h : stage.Reached)
    (separate : Separate stage participants) (grace : config.failureGrace ≠ .zero)
    (same : ∀ i, participants'[σ i]? = participants[i]?) :
    r'.network σ = r.network (Equiv.refl Nat) := by
  obtain ⟨owner, owns⟩ := separate.exists_owner h.sound.genuine
  have wired : ((Run.opened participants stage).network (Equiv.refl Nat)).Wired
      (wiring stage.sessions owner) := Run.wired_opened separate.plain owns
  have begun : (Run.opened participants' stage).network σ =
      (Run.opened participants stage).network (Equiv.refl Nat) := by
    rw [Run.network_opened, Run.network_opened]
    simp only [same, Equiv.refl_apply]
  obtain ⟨steps, rest, stay⟩ := atEnd.standstill h wired grace
  obtain ⟨steps', rest', stay'⟩ := atEnd'.standstill (σ := σ) h (by rwa [begun]) grace
  rw [begun] at steps' stay'
  -- Without any time both runs are where they began, and otherwise both came to rest.
  rcases Nat.eq_zero_or_pos (Tick.after 0 config.timeout) with no_time | some_time
  · rw [stay no_time, stay' no_time]
  · exact Network.atRest_unique wired steps' (rest' some_time) steps (rest some_time)

namespace Closed

theorem mem_settled_iff (closed : Closed config participants marks w r) (i : Nat) :
    i ∈ (settlements marks).map Settlement.index ↔ ∃ result,
      r.tasks[i]?.bind Task.result? = some result := by
  rw [List.mem_map]
  constructor
  · rintro ⟨s, hs, rfl⟩
    exact ⟨s.result, (closed.results _ _).mpr ⟨s, hs, rfl, rfl⟩⟩
  · rintro ⟨result, ended⟩
    obtain ⟨s, hs, index, -⟩ := (closed.results _ _).mp ended
    exact ⟨s, hs, index⟩

/-- If anybody failed, somebody who failed is reported. -/
theorem verdict_of_failed (closed : Closed config participants marks w r)
    (failed : ∃ i failure, r.Failed i failure) :
    ∃ (i : Nat) (p : Participant) (failure : Failure), participants[i]? = some p ∧
      r.Failed i failure ∧
      w.verdict config (participants.map (·.name)) =
        .error (.participantFailed p.name failure.toError) := by
  obtain ⟨i, failure, ended⟩ := failed
  rcases well_or_first_failure (settlements marks) with
    none | ⟨before, s, after, failure', split, well, bad⟩
  · obtain ⟨s, hs, -, bad⟩ := (closed.results _ _).mp ended
    rw [none s hs] at bad
    cases bad
  · have member : s ∈ settlements marks := by simp [split]
    obtain ⟨p, hp, verdict⟩ := verdict_of_first config after (closed.inside s member) well bad
    rw [← split, ← closed.watch] at verdict
    exact ⟨s.index, p, failure', hp, (closed.results _ _).mpr ⟨s, member, rfl, bad⟩, verdict⟩

/-- If nobody failed, those who are stuck are reported. -/
theorem verdict_of_no_failure (closed : Closed config participants marks w r)
    (none : ∀ i failure, ¬ r.Failed i failure) :
    w.verdict config (participants.map (·.name)) =
      if unsettled participants (settlements marks) = [] then .ok ()
      else .error (.participantDeadlock (unsettled participants (settlements marks))
        config.timeout) := by
  rw [closed.watch]
  refine verdict_of_well config fun s hs => ?_
  have ended := (closed.results s.index s.result).mpr ⟨s, hs, rfl, rfl⟩
  cases result : s.result with
  | ok => rfl
  | error failure =>
    rw [result] at ended
    exact absurd ended (none _ _)

/-- A failure that is reported is somebody's. -/
theorem failed_of_verdict (closed : Closed config participants marks w r) {name : String}
    {source : Error} (verdict : w.verdict config (participants.map (·.name)) =
      .error (.participantFailed name source)) :
    ∃ (i : Nat) (p : Participant) (failure : Failure), participants[i]? = some p ∧
      r.Failed i failure ∧ name = p.name ∧ source = failure.toError := by
  have failed : ∃ i failure, r.Failed i failure := by
    by_contra none
    have well := closed.verdict_of_no_failure fun i failure ended => none ⟨i, failure, ended⟩
    rw [verdict] at well
    split at well <;> cases well
  obtain ⟨i, p, failure, hp, ended, reported⟩ := closed.verdict_of_failed failed
  rw [verdict] at reported
  cases reported
  exact ⟨i, p, failure, hp, ended, rfl, rfl⟩

/-- If all have ended the same way, the results are of one kind. -/
theorem sameKind (closed : Closed config participants marks w r)
    (closed' : Closed config participants' marks' w' r')
    (same : ∀ i, participants'[σ i]? = participants[i]?)
    (tasks : ∀ i, r'.tasks[σ i]? = r.tasks[i]?) :
    SameKind (w.verdict config (participants.map (·.name)))
      (w'.verdict config (participants'.map (·.name))) := by
  by_cases failed : ∃ i failure, r.Failed i failure
  · have failed' : ∃ i failure, r'.Failed i failure := by
      obtain ⟨i, failure, ended⟩ := failed
      exact ⟨σ i, failure, by rwa [Run.Failed, tasks]⟩
    obtain ⟨_, _, _, -, -, verdict⟩ := closed.verdict_of_failed failed
    obtain ⟨_, _, _, -, -, verdict'⟩ := closed'.verdict_of_failed failed'
    rw [verdict, verdict']
    exact .failed ..
  · have none : ∀ i failure, ¬ r.Failed i failure :=
      fun i failure ended => failed ⟨i, failure, ended⟩
    have none' : ∀ i failure, ¬ r'.Failed i failure := by
      intro j failure ended
      obtain ⟨i, rfl⟩ := σ.surjective j
      rw [Run.Failed, tasks] at ended
      exact none i failure ended
    -- Nobody failed, so the results tell who is stuck, each in the order of its own list.
    have perm : (unsettled participants' (settlements marks')).Perm
        (unsettled participants (settlements marks)) :=
      perm_unsettled same fun i => by rw [closed.mem_settled_iff, closed'.mem_settled_iff, tasks]
    rw [closed.verdict_of_no_failure none, closed'.verdict_of_no_failure none']
    by_cases nobody : unsettled participants (settlements marks) = []
    · rw [nobody] at perm
      rw [if_pos nobody, if_pos perm.eq_nil]
      exact .completed
    · have nobody' : unsettled participants' (settlements marks') ≠ [] := fun none =>
        nobody (List.Perm.eq_nil (none ▸ perm.symm))
      rw [if_neg nobody, if_neg nobody']
      exact .deadlock _ perm

end Closed

/-! ## Agreement -/

/-- What the log of a run tells of is what was taken, and then what is left. -/
theorem Over.told (atEnd : Over config participants stage marks w r) (h : stage.Reached)
    (q : QueueId) :
    r.stage.world.taken q ++ (r.stage.world.queue q).envelopes = r.stage.world.sent q := by
  obtain ⟨_, reached⟩ := atEnd.reached h
  obtain ⟨_, exchange⟩ := reached.exchange
  exact exchange.told q

/-- Two driven runs of the same participants come to the same. -/
theorem Over.agree (atEnd : Over config participants stage marks w r)
    (atEnd' : Over config participants' stage marks' w' r') (h : stage.Reached)
    (separate : Separate stage participants) (grace : config.failureGrace ≠ .zero)
    (same : ∀ i, participants'[σ i]? = participants[i]?) :
    Agree σ participants r r' (concluded config participants w r)
      (concluded config participants' w' r') := by
  have network := atEnd.same_network atEnd' h separate grace same
  have closed := atEnd.closed h
  have closed' := atEnd'.closed h
  have still := still_concluded config participants w r
  have still' := still_concluded config participants' w' r'
  have tasks : ∀ i, r'.tasks[σ i]? = r.tasks[i]? := congrFun (congrArg Network.processes network)
  have left : ∀ q, (r'.stage.world.queue q).envelopes = (r.stage.world.queue q).envelopes :=
    congrFun (congrArg Network.queued network)
  have numbers : ∀ q, (r'.stage.world.queue q).nextSequence =
    (r.stage.world.queue q).nextSequence := congrFun (congrArg Network.nextSequence network)
  have sent : ∀ q, r'.stage.world.sent q = r.stage.world.sent q :=
    congrFun (congrArg Network.sent network)
  have taken : ∀ q, r'.stage.world.taken q = r.stage.world.taken q := by
    intro q
    -- What was taken is what was sent, but for what is left.
    have told := atEnd.told h q
    rw [← sent q, ← atEnd'.told h q, left q] at told
    exact (List.append_cancel_right told).symm
  refine ⟨tasks, fun i => ?_, fun q => ?_, fun q => ?_, fun q => ?_, fun q => ?_,
    closed.sameKind closed' same tasks, fun name source verdict => ?_⟩
  · show (r'.tasks.map fun t => (t.status, t.log))[σ i]? =
      (r.tasks.map fun t => (t.status, t.log))[i]?
    rw [List.getElem?_map, List.getElem?_map, tasks]
  · rw [still.envelopes, still'.envelopes, left]
  · rw [still.nextSequence, still'.nextSequence, numbers]
  · rw [still.sent, still'.sent, sent]
  · rw [still.taken, still'.taken, taken]
  · obtain ⟨j, p, failure, hp, ended, reported⟩ := closed'.failed_of_verdict verdict
    obtain ⟨i, rfl⟩ := σ.surjective j
    rw [same] at hp
    rw [Run.Failed, tasks] at ended
    exact ⟨i, p, failure, hp, ended, reported⟩

/-- **Schedule independence.** Let participants send and receive through sessions of their own, and
let a failure leave the others any time. Then all driven runs of them agree, in whatever order they
take part and take their turns. The driver that runs is one of those that are possible, so it agrees
with itself when the participants are registered in another order. -/
theorem Stage.Reached.schedule_independent (h : stage.Reached) (enough : 2 ≤ participants.length)
    (separate : Separate stage participants) (grace : config.failureGrace ≠ .zero) (σ : Nat ≃ Nat)
    (same : ∀ i, participants'[σ i]? = participants[i]?) :
    (∀ marks w r marks' w' r', Over config participants stage marks w r →
      Over config participants' stage marks' w' r' →
        Agree σ participants r r' (concluded config participants w r)
          (concluded config participants' w' r')) ∧
    ∃ r r', Agree σ participants r r' (drive config participants stage)
      (drive config participants' stage) := by
  refine ⟨fun marks w r marks' w' r' atEnd atEnd' => atEnd.agree atEnd' h separate grace same, ?_⟩
  obtain ⟨marks, w, r, atEnd, -, drives⟩ := drive_possible h config enough
  obtain ⟨marks', w', r', atEnd', -, drives'⟩ :=
    drive_possible h config (by rwa [length_eq_of_same same])
  rw [drives, drives']
  exact ⟨r, r', atEnd.agree atEnd' h separate grace same⟩

end

attribute [local instance] Clock.usual

/-- Alice sends a message and fails, and so does Bob, who does not wait for it. -/
def Participant.rivals : List Participant :=
  [⟨"alice", [⟨.command (.send "alice" ⟨.bool, true⟩), false⟩,
      ⟨.fail (.flowFailed "no"), false⟩]⟩,
    ⟨"bob", [⟨.panic (.str "never"), false⟩]⟩]

theorem Stage.schedule_independent_rivals :
    (drive .fast Participant.rivals Stage.pair).1.result =
        .error (.participantFailed "alice" (.flowFailed "no")) ∧
      (drive .fast Participant.rivals.reverse Stage.pair).1.result =
        .error (.participantFailed "bob" (.panicked "never")) ∧
      ∃ r r', Agree (Equiv.swap 0 1) Participant.rivals r r'
        (drive .fast Participant.rivals Stage.pair)
        (drive .fast Participant.rivals.reverse Stage.pair) := by
  have separate : Separate Stage.pair Participant.rivals :=
    ⟨by decide +kernel, by decide +kernel⟩
  have same : ∀ i, Participant.rivals.reverse[Equiv.swap 0 1 i]? = Participant.rivals[i]? := by
    rintro (_ | _ | i)
    · rfl
    · rfl
    · rw [Equiv.swap_apply_of_ne_of_ne (by omega) (by omega)]
      rfl
  exact ⟨by rfl, by rfl, (Stage.Reached.pair.schedule_independent (by decide) separate (by decide)
    (Equiv.swap 0 1) same).2⟩

end Rehearsal
