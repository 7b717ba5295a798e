import Mathlib.Data.List.Perm.Subperm
import Rehearsal.Proofs.Drive.Ledger
import Rehearsal.Proofs.Drive.Rounds

/-!
# Verdicts

What the result of a driven run says about its settlements: it is a success if all settled well, the
first failure if there was any, and otherwise the list of those who did not settle by the deadline.
-/

namespace Rehearsal

/-! ## Who is stuck and what is told -/

/-- The names of those who have not settled, in their order. -/
def unsettled (participants : List Participant) (settled : List Settlement) : List String :=
  (participants.zipIdx.filter fun p => p.2 ∉ settled.map Settlement.index).map (·.1.name)

theorem unsettled_eq_nil_iff (participants : List Participant) (settled : List Settlement) :
    unsettled participants settled = [] ↔
      ∀ i < participants.length, i ∈ settled.map Settlement.index := by
  unfold unsettled
  rw [List.map_eq_nil_iff, List.filter_eq_nil_iff]
  constructor
  · intro all i hi
    have there : (participants[i], i) ∈ participants.zipIdx :=
      List.mem_zipIdx_iff_getElem?.mpr (List.getElem?_eq_getElem hi)
    simpa using all _ there
  · intro all p hp
    have hi := (List.getElem?_eq_some_iff.mp (List.mem_zipIdx_iff_getElem?.mp hp)).1
    simpa using all p.2 hi

/-- What is to be told of a failure: the error that a body returned, as it is, and of a panic the
text, if it is one. -/
inductive Failure.Tells : Failure → Error → Prop where
  | error (e : Error) : Tells (.error e) e
  | string (message : String) : Tells (.panic (.string message)) (.panicked message)
  | str (message : String) : Tells (.panic (.str message)) (.panicked message)
  /-- Of a value that is no text nothing can be read. -/
  | other : Tells (.panic .other) (.panicked "non-string panic payload")
  | assertion (message : String) : Tells (.assertion message) (.panicked message)
  | unknown (handle : String) : Tells (.unknown handle) (.panicked ("unknown handle: " ++ handle))

/-- What the driver reports is what is to be told. -/
theorem Failure.tells_toError (failure : Failure) : failure.Tells failure.toError := by
  cases failure with
  | error e => exact .error e
  | assertion message => exact .assertion message
  | panic payload =>
    cases payload with
    | string message => exact .string message
    | str message => exact .str message
    | other => exact .other
  | unknown handle => exact .unknown handle

/-- A result that is right for these settlements. -/
structure Judged (config : Config) (participants : List Participant) (settled : List Settlement)
    (result : Except Error Unit) : Prop where
  /-- Success means that everybody settled well. -/
  completed : result = .ok () ↔
    ∀ i < participants.length, ∃ s ∈ settled, s.index = i ∧ s.result = .ok ()
  /-- A failure is reported if there is any, whatever became of the others. -/
  failed : (∃ name source, result = .error (.participantFailed name source)) ↔
    ∃ s ∈ settled, ∃ failure, s.result = .error failure
  /-- The failure that came first is reported, under the name of who failed. -/
  first : ∀ before s after failure, settled = before ++ s :: after →
    (∀ b ∈ before, b.result = .ok ()) → s.result = .error failure →
    ∃ p e, participants[s.index]? = some p ∧ failure.Tells e ∧
      result = .error (.participantFailed p.name e)
  /-- Who did not settle is reported if nobody failed. -/
  stuck : (∀ s ∈ settled, s.result = .ok ()) → unsettled participants settled ≠ [] →
    result = .error (.participantDeadlock (unsettled participants settled) config.timeout)

/-- All settled well, or there is a first failure. -/
theorem well_or_first_failure (settled : List Settlement) :
    (∀ s ∈ settled, s.result = .ok ()) ∨ ∃ before s after failure, settled = before ++ s :: after ∧
      (∀ b ∈ before, b.result = .ok ()) ∧ s.result = .error failure := by
  induction settled with
  | nil => exact .inl (by simp)
  | cons s settled ih =>
    cases hr : s.result with
    | error failure => exact .inr ⟨[], s, settled, failure, rfl, by simp, hr⟩
    | ok =>
      rcases ih with well | ⟨before, t, after, failure, split, well, ht⟩
      · exact .inl (List.forall_mem_cons.mpr ⟨hr, well⟩)
      · exact .inr ⟨s :: before, t, after, failure, by rw [split]; rfl,
          List.forall_mem_cons.mpr ⟨hr, well⟩, ht⟩

theorem failures_of_well {names : List String} {settled : List Settlement}
    (well : ∀ s ∈ settled, s.result = .ok ()) :
    settled.filterMap (Settlement.failure? names) = [] := by
  rw [List.filterMap_eq_nil_iff]
  intro s hs
  rw [Settlement.failure?, well s hs]

section
variable [Clock]

variable {config : Config} {participants : List Participant} {stage : Stage}
  {marks : List Mark} {w : Watch} {r : Run}

/-! ## What is known as a run is over -/

/-- What is known of a driven run that is over: the driver has seen all settlements, and either
everybody has settled or the deadline in force was reached. -/
structure Closed (config : Config) (participants : List Participant) (marks : List Mark) (w : Watch)
    (r : Run) : Prop where
  tasks : r.tasks.length = participants.length
  watch : w = watchOf config (participants.map (·.name)) (settlements marks)
  once : ((settlements marks).map Settlement.index).Nodup
  inside : ∀ s ∈ settlements marks, s.index < participants.length
  results : ∀ i result, r.tasks[i]?.bind Task.result? = some result ↔
    ∃ s ∈ settlements marks, s.index = i ∧ s.result = result
  timely : Timely config (settlements marks)
  atEnd : participants.length ≤ (settlements marks).length ∨
    r.now = deadlineAfter config (settlements marks)

theorem Over.closed (atEnd : Over config participants stage marks w r) (h : stage.Reached) :
    Closed config participants marks w r := by
  cases atEnd with
  | unopened no_time =>
    have ledger := Ledger.opened config participants stage
    exact ⟨ledger.tasks, rfl, ledger.once, by simp, ledger.results, ledger.timely,
      .inr no_time.symm⟩
  | looked under looked atEnd =>
    have before := under.ledger h
    obtain ⟨ledger, watch⟩ := before.look looked
    refine ⟨ledger.tasks, watch, ledger.once, fun s hs => ledger.index_lt hs, ledger.results,
      ledger.timely, ?_⟩
    have early := ledger.early
    rw [watch] at atEnd early
    rcases atEnd with all | late
    · left
      rw [← ledger.tasks]
      simpa [watchOf] using all
    · exact .inr (Nat.le_antisymm early late)
  | late under idle seen none_due =>
    have ledger := under.ledger h
    -- The driver has looked since the last turn, so there is no settlement that it missed.
    have watch := ledger.all_seen seen
    refine ⟨ledger.tasks, watch, ledger.once, fun s hs => ledger.index_lt hs, ledger.results,
      ledger.timely, .inr ?_⟩
    exact congrArg Watch.deadline watch

/-- As many settlements as participants are one of each. -/
theorem Closed.all_settled (closed : Closed config participants marks w r)
    (many : participants.length ≤ (settlements marks).length) :
    ∀ i < participants.length, i ∈ (settlements marks).map Settlement.index := by
  intro i hi
  have subset : (settlements marks).map Settlement.index ⊆ List.range participants.length := by
    intro j hj
    obtain ⟨s, hs, rfl⟩ := List.mem_map.mp hj
    exact List.mem_range.mpr (closed.inside s hs)
  have perm := (closed.once.subperm subset).perm_of_length_le (by simpa using many)
  exact perm.mem_iff.mpr (List.mem_range.mpr hi)

/-- What the driver counts are settlements. -/
theorem Closed.many_settled (closed : Closed config participants marks w r)
    (all : r.tasks.length ≤ w.settled.length) :
    participants.length ≤ (settlements marks).length := by
  rw [closed.tasks, closed.watch] at all
  simpa [watchOf] using all

/-- Where as many settled as take part, everybody has ended. -/
theorem Closed.all_ended (closed : Closed config participants marks w r)
    (many : participants.length ≤ (settlements marks).length) :
    ∀ t ∈ r.tasks, ∃ result, t.phase = .ended result := by
  intro t ht
  obtain ⟨i, hi⟩ := List.mem_iff_getElem?.mp ht
  have inside := (List.getElem?_eq_some_iff.mp hi).1
  rw [closed.tasks] at inside
  obtain ⟨s, hs, rfl⟩ := List.mem_map.mp (closed.all_settled many i inside)
  have ended := (closed.results s.index s.result).mpr ⟨s, hs, rfl, rfl⟩
  rw [hi, Option.bind_some] at ended
  unfold Task.result? at ended
  split at ended
  · next result phase => exact ⟨result, phase⟩
  · cases ended

/-! ## The verdict -/

theorem stuck_watchOf (config : Config) (participants : List Participant)
    (settled : List Settlement) :
    (watchOf config (participants.map (·.name)) settled).stuck (participants.map (·.name)) =
      unsettled participants settled := by
  unfold Watch.stuck unsettled watchOf
  rw [List.zipIdx_map, List.filter_map, List.map_map]
  congr 1
  refine List.filter_congr fun p _ => ?_
  simp only [Function.comp_apply, Prod.map_snd, id_eq, List.contains_eq_mem, decide_not]

/-- The first failure is the verdict, whatever came after it. -/
theorem verdict_of_first {before : List Settlement} {s : Settlement} {failure : Failure}
    (config : Config) (after : List Settlement) (inside : s.index < participants.length)
    (well : ∀ b ∈ before, b.result = .ok ()) (hs : s.result = .error failure) :
    ∃ p, participants[s.index]? = some p ∧
      (watchOf config (participants.map (·.name)) (before ++ s :: after)).verdict config
        (participants.map (·.name)) = .error (.participantFailed p.name failure.toError) := by
  have name : (participants.map (·.name))[s.index]? = some participants[s.index].name := by
    rw [List.getElem?_map, List.getElem?_eq_getElem inside, Option.map_some]
  have failures : (watchOf config (participants.map (·.name)) (before ++ s :: after)).failures =
      .participantFailed participants[s.index].name failure.toError ::
        after.filterMap (Settlement.failure? (participants.map (·.name))) := by
    unfold watchOf
    rw [List.filterMap_append, failures_of_well well, List.nil_append, List.filterMap_cons,
      Settlement.failure?, hs, name, Option.getD_some]
  exact ⟨participants[s.index], List.getElem?_eq_getElem inside, by rw [Watch.verdict, failures]⟩

/-- If nobody failed, those who are stuck are the verdict. -/
theorem verdict_of_well {settled : List Settlement} (config : Config)
    (well : ∀ s ∈ settled, s.result = .ok ()) :
    (watchOf config (participants.map (·.name)) settled).verdict config
        (participants.map (·.name)) =
      if unsettled participants settled = [] then .ok ()
      else .error (.participantDeadlock (unsettled participants settled) config.timeout) := by
  have failures : (watchOf config (participants.map (·.name)) settled).failures = [] :=
    failures_of_well well
  rw [Watch.verdict, failures, stuck_watchOf]
  simp only [List.isEmpty_iff]

theorem judged_of_well (config : Config) {settled : List Settlement}
    (well : ∀ s ∈ settled, s.result = .ok ()) :
    Judged config participants settled
      ((watchOf config (participants.map (·.name)) settled).verdict config
        (participants.map (·.name))) := by
  rw [verdict_of_well config well]
  refine ⟨⟨fun he => ?_, fun all => ?_⟩, ⟨?_, ?_⟩, fun before s after failure split _ hs => ?_,
    fun _ left => if_neg left⟩
  · have none : unsettled participants settled = [] := by
      by_contra left
      rw [if_neg left] at he
      cases he
    intro i hi
    obtain ⟨s, hs, rfl⟩ :=
      List.mem_map.mp ((unsettled_eq_nil_iff participants settled).mp none i hi)
    exact ⟨s, hs, rfl, well s hs⟩
  · refine if_pos ((unsettled_eq_nil_iff participants settled).mpr fun i hi => ?_)
    obtain ⟨s, hs, rfl, -⟩ := all i hi
    exact List.mem_map_of_mem hs
  · rintro ⟨name, source, he⟩
    split at he <;> cases he
  · rintro ⟨s, hs, failure, bad⟩
    rw [well s hs] at bad
    cases bad
  · rw [well s (by simp [split])] at hs
    cases hs

theorem judged_of_first (config : Config) {settled before after : List Settlement} {s : Settlement}
    {failure : Failure} (inside : ∀ s ∈ settled, s.index < participants.length)
    (once : (settled.map Settlement.index).Nodup) (split : settled = before ++ s :: after)
    (well : ∀ b ∈ before, b.result = .ok ()) (bad : s.result = .error failure) :
    Judged config participants settled
      ((watchOf config (participants.map (·.name)) settled).verdict config
        (participants.map (·.name))) := by
  have member : s ∈ settled := by simp [split]
  obtain ⟨p, -, verdict⟩ := verdict_of_first config after (inside s member) well bad
  rw [← split] at verdict
  refine ⟨⟨fun he => ?_, fun all => ?_⟩, ⟨fun _ => ⟨s, member, failure, bad⟩,
    fun _ => ⟨_, _, verdict⟩⟩, fun before' s' after' failure' split' well' bad' => ?_,
    fun none _ => ?_⟩
  · rw [verdict] at he
    cases he
  · -- Nobody settles twice, so whoever failed did not settle well besides.
    obtain ⟨t, ht, same, ok⟩ := all s.index (inside s member)
    have one : t = s := List.inj_on_of_nodup_map once ht member same
    rw [one, bad] at ok
    cases ok
  · have member' : s' ∈ settled := by simp [split']
    rw [split']
    obtain ⟨p', hp, verdict'⟩ := verdict_of_first config after' (inside s' member') well' bad'
    exact ⟨p', failure'.toError, hp, failure'.tells_toError, verdict'⟩
  · rw [none s member] at bad
    cases bad

theorem judged_watchOf (config : Config) {settled : List Settlement}
    (inside : ∀ s ∈ settled, s.index < participants.length)
    (once : (settled.map Settlement.index).Nodup) :
    Judged config participants settled
      ((watchOf config (participants.map (·.name)) settled).verdict config
        (participants.map (·.name))) := by
  -- The first failure decides, if there is one; otherwise who is stuck does.
  rcases well_or_first_failure settled with well | ⟨_, _, _, _, split, well, bad⟩
  · exact judged_of_well config well
  · exact judged_of_first config inside once split well bad

/-- **The verdict of a driven run.** With too few participants nothing happens but the report.
Otherwise the driver is one of those that are possible, and whichever of them it is, the result is
right for who settled, in which order, and how, by the deadline in force. -/
theorem Stage.Reached.drive_verdict (h : stage.Reached) (config : Config)
    (participants : List Participant) :
    (participants.length < 2 →
      let result := .error (.invalidConfiguration
        ("concurrent execution needs at least two participants, got " ++
          toString participants.length))
      drive config participants stage = (
        { result
          participants := participants.map fun _ => (.notStarted, [])
          elapsed := 0 }, { stage with lastRun := some result })) ∧
    (2 ≤ participants.length →
      (∃ marks w r, Over config participants stage marks w r ∧
        drive config participants stage = concluded config participants w r) ∧
      ∀ marks w r, Over config participants stage marks w r →
        Judged config participants (settlements marks)
            (concluded config participants w r).1.result ∧
          ((settlements marks).map Settlement.index).Nodup ∧
          (∀ i result, r.tasks[i]?.bind Task.result? = some result ↔
            ∃ s ∈ settlements marks, s.index = i ∧ s.result = result) ∧
          Timely config (settlements marks) ∧
          (unsettled participants (settlements marks) ≠ [] →
            r.now = deadlineAfter config (settlements marks))) := by
  refine ⟨fun few => ?_, fun enough => ⟨?_, fun marks w r atEnd => ?_⟩⟩
  · unfold drive
    rw [if_pos few]
    rfl
  · obtain ⟨marks, w, r, atEnd, -, same⟩ := drive_possible h config enough
    exact ⟨marks, w, r, atEnd, same⟩
  · have closed := atEnd.closed h
    refine ⟨?_, closed.once, closed.results, closed.timely, fun left => ?_⟩
    · show Judged config participants (settlements marks)
        (w.verdict config (participants.map (·.name)))
      rw [closed.watch]
      exact judged_watchOf config closed.inside closed.once
    · refine closed.atEnd.resolve_left fun many => left ?_
      exact (unsettled_eq_nil_iff _ _).mpr (closed.all_settled many)

end

/-- Carol panics with something that is no text, while one of her name is still at work. -/
def Participant.outburst : List Participant :=
  [⟨"carol", [⟨.receive "alice" .text, false⟩]⟩, ⟨"carol", [⟨.panic .other, false⟩]⟩,
    ⟨"bob", [⟨.pause, false⟩, ⟨.panic (.str "oh"), false⟩]⟩]

attribute [local instance] Clock.usual

theorem Stage.drive_verdict_outburst :
    Stage.pair.Reached ∧
      (drive .fast Participant.outburst Stage.pair).1.result =
        .error (.participantFailed "carol" (.panicked "non-string panic payload")) ∧
      ∃ marks, Judged .fast Participant.outburst (settlements marks)
        (drive .fast Participant.outburst Stage.pair).1.result := by
  obtain ⟨-, enough⟩ := Stage.Reached.pair.drive_verdict .fast Participant.outburst
  obtain ⟨⟨marks, w, r, atEnd, same⟩, judged⟩ := enough (by decide)
  refine ⟨.pair, by rfl, marks, ?_⟩
  rw [same]
  exact (judged marks w r atEnd).1

end Rehearsal
