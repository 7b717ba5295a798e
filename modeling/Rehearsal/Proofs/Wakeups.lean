import Rehearsal.Proofs.Drive.Verdicts

/-!
# No lost wake-ups

A receiver that is parked at a queue with messages is not forgotten: as many receivers as there are
messages have been called there and are about to look. So when a run comes to a standstill, whoever
still waits waits at an empty queue, and nobody is reported as stuck who could have gone on.
-/

namespace Rehearsal

/-- A participant that waits for a message of a queue. -/
def Run.WaitsAt (r : Run) (i : Nat) (q : QueueId) : Prop :=
  ∃ t x tolerant, r.tasks[i]? = some t ∧ t.phase = .waiting (.message x) tolerant ∧
    x.session.inbound = q

variable {config : Config} {participants : List Participant} {stage : Stage}
  {marks : List Mark} {w : Watch} {r : Run}

/-- Whoever is called at a queue waits there and is ready. -/
theorem Run.Sound.called (h : r.Sound) {q : QueueId} {i : Waiter}
    (hi : i ∈ (r.stage.world.queue q).called) : i ∈ r.ready ∧ r.WaitsAt i q := by
  refine ⟨(h.places.ready i).mpr (.inr ⟨q, hi⟩), ?_⟩
  have listens := h.places.listens_of_called hi
  cases ht : r.tasks[i]? with
  | none =>
    rw [Run.place, ht] at listens
    cases listens
  | some t =>
    rw [Run.place_of_task ht] at listens
    obtain ⟨x, tolerant, phase, same⟩ := Phase.message_of_listens listens
    exact ⟨t, x, tolerant, ht, phase, same⟩

/-- Where nobody can go on, whoever waits for a message waits at an empty queue. -/
theorem Run.Sound.empty_of_idle (h : r.Sound) (idle : r.ready = []) {i : Nat} {q : QueueId}
    (waits : r.WaitsAt i q) : (r.stage.world.queue q).envelopes = [] := by
  obtain ⟨t, x, tolerant, ht, phase, rfl⟩ := waits
  have listens : r.place i = .listens x.session.inbound := by
    rw [Run.place_of_task ht, phase]
    rfl
  have nobody : (r.stage.world.queue x.session.inbound).called = [] := by
    refine List.eq_nil_iff_forall_not_mem.mpr fun j hj => ?_
    have ready := (h.called hj).1
    rw [idle] at ready
    cases ready
  have hosts := h.places.hosts x.session.inbound
  have parked : i ∈ (r.stage.world.queue x.session.inbound).parked := by
    have here := (hosts.mem i).mpr listens
    rwa [nobody, List.append_nil] at here
  have heard := (hosts.heard (List.ne_nil_of_mem parked)).2
  rw [nobody] at heard
  exact List.eq_nil_of_length_eq_zero (Nat.le_zero.mp heard)

section
variable [Clock]

/-- Whoever waits for a message has not settled. -/
theorem Closed.not_all_of_waits (closed : Closed config participants marks w r) {i : Nat}
    {q : QueueId} (waits : r.WaitsAt i q) :
    ¬ participants.length ≤ (settlements marks).length := by
  intro many
  obtain ⟨t, x, tolerant, ht, phase, -⟩ := waits
  obtain ⟨result, ended⟩ := closed.all_ended many t (List.mem_of_getElem? ht)
  rw [phase] at ended
  cases ended

/-- While the driver has seen no failure, the deadline is that of the timeout. -/
theorem deadline_of_no_failure {names : List String} {settled : List Settlement}
    (none : (watchOf config names settled).failures = []) :
    (watchOf config names settled).deadline = Tick.after 0 config.timeout := by
  refine deadlineAfter_of_no_failure (fun s hs => ?_) config
  have kept := List.filterMap_eq_nil_iff.mp none s hs
  cases hr : s.result with
  | ok => rfl
  | error failure =>
    rw [Settlement.failure?, hr] at kept
    cases kept

/-- A run that is over without a failure, and not by a sleeper who was due at the deadline, came to
a standstill: whoever waits for a message waits at an empty queue. -/
theorem Over.empty_of_waits (atEnd : Over config participants stage marks w r) (h : stage.Reached)
    (none : w.failures = []) (apart : .woke w.deadline ∉ marks) {i : Nat} {q : QueueId}
    (waits : r.WaitsAt i q) : (r.stage.world.queue q).envelopes = [] := by
  have closed := atEnd.closed h
  cases atEnd with
  | unopened =>
    obtain ⟨t, x, tolerant, ht, phase, -⟩ := waits
    obtain ⟨p, -, rfl⟩ := List.mem_map.mp (List.mem_of_getElem? ht)
    cases phase
  | looked under looked atEnd =>
    obtain ⟨ledger, watch⟩ := (under.ledger h).look looked
    rcases atEnd with all | late
    · exact absurd (closed.many_settled all) (closed.not_all_of_waits waits)
    · -- The deadline has come, and only somebody who sleeps until then can bring it.
      have now := Nat.le_antisymm ledger.early late
      rcases ledger.clock with zero | woke
      · rw [watch] at none
        have deadline := deadline_of_no_failure none
        have positive := under.some_time
        rw [← deadline, ← watch, ← now, zero] at positive
        exact absurd positive (Nat.lt_irrefl 0)
      · rw [now] at woke
        exact absurd woke apart
  | late under idle seen none_due => exact (under.reached h).sound.empty_of_idle idle waits

theorem failures_of_deadlock {names stuck : List String} {timeout : Duration}
    (watch : w = watchOf config (participants.map (·.name)) (settlements marks))
    (deadlock : w.verdict config names = .error (.participantDeadlock stuck timeout)) :
    w.failures = [] := by
  cases failures : w.failures with
  | nil => rfl
  | cons first others =>
    rw [Watch.verdict, failures] at deadlock
    have mem : first ∈ w.failures := by simp [failures]
    rw [watch] at mem
    obtain ⟨s, -, hs⟩ := List.mem_filterMap.mp mem
    cases hr : s.result with
    | ok =>
      rw [Settlement.failure?, hr] at hs
      cases hs
    | error failure =>
      rw [Settlement.failure?, hr] at hs
      cases hs
      cases deadlock

/-- **No false deadlock.** In every reached run, while a receiver is parked at a queue there are no
more messages there than receivers who were called and have not gone on yet. So when a driven run is
reported as a deadlock, and no sleeper woke at the very deadline, whoever is inside a receive waits
at an empty queue. The driver that runs lets no sleeper wake at the deadline. -/
theorem Stage.Reached.no_false_deadlock (h : stage.Reached) (config : Config)
    (participants : List Participant) :
    (∀ r : Run, r.Reached → ∀ q, (r.stage.world.queue q).parked ≠ [] →
      (r.stage.world.queue q).envelopes.length ≤ (r.stage.world.queue q).called.length ∧
        (r.stage.world.queue q).called.Nodup ∧
        ∀ i ∈ (r.stage.world.queue q).called, i ∈ r.ready ∧ r.WaitsAt i q) ∧
    (∀ marks w r, Underway config participants stage marks w r → r.Reached) ∧
    (∀ marks w r, Over config participants stage marks w r → ∀ stuck timeout,
      (concluded config participants w r).1.result =
        .error (.participantDeadlock stuck timeout) →
      .woke w.deadline ∉ marks → ∀ i q, r.WaitsAt i q →
        (r.stage.world.queue q).envelopes = [] ∧
          ((concluded config participants w r).2.world.queue q).envelopes = []) ∧
    ∀ stuck timeout, (drive config participants stage).1.result =
        .error (.participantDeadlock stuck timeout) →
      ∃ marks w r, Over config participants stage marks w r ∧
        drive config participants stage = concluded config participants w r ∧
        .woke w.deadline ∉ marks := by
  refine ⟨fun r reached q parked => ?_, fun marks w r under => under.reached h,
    fun marks w r atEnd stuck timeout deadlock apart i q waits => ?_,
    fun stuck timeout deadlock => ?_⟩
  · have hosts := reached.sound.places.hosts q
    exact ⟨(hosts.heard parked).2, (List.nodup_append.mp hosts.nodup).2.1,
      fun i hi => reached.sound.called hi⟩
  · have none := failures_of_deadlock (atEnd.closed h).watch deadlock
    have empty := atEnd.empty_of_waits h none apart waits
    refine ⟨empty, ?_⟩
    rw [(still_concluded config participants w r).envelopes q]
    exact empty
  · have enough : 2 ≤ participants.length := by
      by_contra few
      rw [drive, if_pos (Nat.lt_of_not_le few)] at deadlock
      cases deadlock
    obtain ⟨marks, w, r, atEnd, short, same⟩ := drive_possible h config enough
    refine ⟨marks, w, r, atEnd, same, fun woke => ?_⟩
    rw [same] at deadlock
    have none := failures_of_deadlock (atEnd.closed h).watch deadlock
    exact Nat.lt_irrefl _ (short none _ woke)

end

/-- Each waits for a message of the other. -/
def Participant.standoff : List Participant :=
  [⟨"alice", [⟨.receive "alice" .text, false⟩]⟩, ⟨"bob", [⟨.receive "bob" .text, false⟩]⟩]

attribute [local instance] Clock.usual

theorem Stage.no_false_deadlock_standoff :
    Stage.pair.Reached ∧
      (drive .fast Participant.standoff Stage.pair).1.result =
        .error (.participantDeadlock ["alice", "bob"] Config.fast.timeout) ∧
      ∃ marks w r, Over .fast Participant.standoff Stage.pair marks w r ∧
        ∀ i q, r.WaitsAt i q →
          ((drive .fast Participant.standoff Stage.pair).2.world.queue q).envelopes = [] := by
  have result : (drive .fast Participant.standoff Stage.pair).1.result =
      .error (.participantDeadlock ["alice", "bob"] Config.fast.timeout) := by rfl
  obtain ⟨-, -, standstill, possible⟩ :=
    Stage.Reached.pair.no_false_deadlock .fast Participant.standoff
  obtain ⟨marks, w, r, atEnd, same, apart⟩ := possible _ _ result
  refine ⟨.pair, result, marks, w, r, atEnd, fun i q waits => ?_⟩
  rw [same] at result ⊢
  exact (standstill marks w r atEnd _ _ result apart i q waits).2

end Rehearsal
