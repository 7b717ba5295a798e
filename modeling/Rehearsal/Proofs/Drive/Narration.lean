import Rehearsal.Proofs.Drive.Changes
import Rehearsal.Proofs.Drive.Deadlines

/-!
# What a driver tells

A driver logs that every participant starts, then each settlement as it sees it, and at the end
whoever was aborted, the failures that are not reported, and success. Bodies log nothing of this
kind, so a driver's lines are the same however much the bodies log in between, and they tell the
whole run: of a run with several failures and stuck participants the result holds only the first
failure, and the log the rest.
-/

namespace Rehearsal

instance Event.decidableOfDriver : DecidablePred Event.OfDriver
  | .participantStarted _ | .participantCompleted _ | .participantFailed _ _ => isTrue trivial
  | .participantsAborted _ _ | .furtherFailure _ | .allCompleted _ => isTrue trivial
  | .registryCreated _ _ _ | .capabilityRegistered _ _ _ | .registrySealed _ _ => isFalse id
  | .flowInstantiated _ _ _ | .linkCreated _ | .sessionAttached _ | .sessionReplaced _ =>
    isFalse id
  | .messageSent _ _ _ | .messageAwaited _ _ _ | .messageReceived _ _ _ => isFalse id
  | .messagesPending _ _ => isFalse id

/-! ## The lines -/

section
variable (config : Config) (participants : List Participant) (settled : List Settlement)

/-- That all participants start, in their order. -/
def startLines : List LogLine :=
  participants.map fun p => ⟨.debug, "Starting participant", [("participant", p.name)]⟩

/-- How the participants settled, each under its name. -/
def settledLines : List LogLine :=
  settled.map fun s =>
    let name := (participants.map (·.name))[s.index]?.getD ""
    match s.result with
    | .ok () => ⟨.debug, "Participant completed", [("participant", name)]⟩
    | .error failure => ⟨.warn, "Participant failed",
        [("participant", name), ("error", failure.toError.text)]⟩

/-- Who did not settle in time, in their order, if anybody. -/
def abortedLines : List LogLine :=
  if unsettled participants settled = [] then []
  else [⟨.warn, "Aborted participants that did not complete",
    [("participants", Text.quotedList (unsettled participants settled)),
      ("timeout", config.timeout.text)]⟩]

/-- All failures but the first, which is the result. -/
def furtherLines : List LogLine :=
  ((settled.filterMap (Settlement.failure? (participants.map (·.name)))).drop 1).map fun e =>
    ⟨.warn, "Additional participant failure", [("error", e.text)]⟩

/-- Success, if it is one. -/
def successLines (result : Except Error Unit) : List LogLine :=
  match result with
  | .ok () => [⟨.info, "All participants completed",
      [("participants", toString participants.length)]⟩]
  | .error _ => []

/-- What is said once a run is over. -/
def closingLines (result : Except Error Unit) : List LogLine :=
  abortedLines config participants settled ++ furtherLines participants settled ++
    successLines participants result

/-- The events of a run with these settlements and this result tell of it. -/
structure Narrated (result : Except Error Unit) (events : List Event) : Prop where
  /-- The driver's lines are these, in this order, and no others. -/
  story : (events.filter Event.OfDriver).map Event.line =
    startLines participants ++ settledLines participants settled ++
      closingLines config participants settled result
  /-- No body logs anything before all participants were started. -/
  first : startLines participants <+: events.map Event.line
  /-- Nothing is logged after the run is over but by the driver. -/
  last : closingLines config participants settled result <:+ events.map Event.line

end

variable {config : Config} {participants : List Participant} {stage : Stage}
  {marks : List Mark} {w w' : Watch} {r r' : Run}

theorem map_line_started (participants : List Participant) :
    (participants.map fun p => Event.participantStarted p.name).map Event.line =
      startLines participants := by
  rw [List.map_map]
  rfl

theorem map_line_settled (participants : List Participant) (settled : List Settlement) :
    (settled.map (Settlement.event (participants.map (·.name)))).map Event.line =
      settledLines participants settled := by
  rw [List.map_map]
  refine List.map_congr_left fun s _ => ?_
  rw [Function.comp_apply, Settlement.event]
  cases s.result <;> rfl

/-- A run is a success if everybody settled and nobody failed. -/
theorem Watch.verdict_ok_iff (w : Watch) (config : Config) (names : List String) :
    w.verdict config names = .ok () ↔ (w.stuck names).isEmpty && w.failures.isEmpty := by
  unfold verdict
  cases w.failures with
  | cons first rest => simp
  | nil => cases hs : (w.stuck names).isEmpty <;> simp [hs]

/-! ## What is logged while a run goes on -/

/-- From the beginning of a run on, this was logged: that all participants start, and then these
settlements among whatever the bodies log. -/
def Told (participants : List Participant) (stage : Stage) (seen : List Settlement) (r : Run) :
    Prop :=
  ∃ during, r.stage.world.log = stage.world.log ++
      ((participants.map fun p => Event.participantStarted p.name) ++ during) ∧
    during.filter Event.OfDriver = seen.map (Settlement.event (participants.map (·.name)))

theorem Settlement.ofDriver_event (names : List String) (s : Settlement) :
    (s.event names).OfDriver := by
  unfold Settlement.event
  split <;> trivial

namespace Told

variable {seen unseen : List Settlement}

theorem opened (participants : List Participant) (stage : Stage) :
    Told participants stage [] (Run.opened participants stage) := by
  refine ⟨[], ?_, rfl⟩
  rw [Run.opened_eq]
  show (List.foldl World.note _ _).log = _
  rw [Run.notes_eq, List.append_nil]
  rfl

/-- What others log between the driver's lines changes nothing about them. -/
theorem logs (told : Told participants stage seen r)
    (logs : r.stage.world.Logs (¬ Event.OfDriver ·) r'.stage.world) :
    Told participants stage seen r' := by
  obtain ⟨during, same, drivers⟩ := told
  obtain ⟨events, more, others⟩ := logs
  refine ⟨during ++ events, by rw [more, same, List.append_assoc, List.append_assoc], ?_⟩
  have none : events.filter Event.OfDriver = [] :=
    List.filter_eq_nil_iff.mpr fun e he => by simpa using others e he
  rw [List.filter_append, drivers, none, List.append_nil]

/-- The driver logs settlements that it had not seen. -/
theorem notes (told : Told participants stage seen r)
    (logged : r'.stage.world.log =
      r.stage.world.log ++ unseen.map (Settlement.event (participants.map (·.name)))) :
    Told participants stage (seen ++ unseen) r' := by
  obtain ⟨during, same, drivers⟩ := told
  refine ⟨_, by rw [logged, same, List.append_assoc, List.append_assoc], ?_⟩
  rw [List.filter_append, drivers, List.map_append, List.filter_eq_self.mpr fun e he => ?_]
  obtain ⟨s, -, rfl⟩ := List.mem_map.mp he
  simpa using s.ofDriver_event _

end Told

/-- A turn logs nothing for the driver. -/
theorem Run.logs_turn (i : Nat) (r : Run) (enrolled : r.stage.Enrolled) :
    r.stage.world.Logs (¬ Event.OfDriver ·) (r.turn i).stage.world := by
  cases ht : r.tasks[i]? with
  | none =>
    rw [turn_of_none ht]
    exact .of_same rfl
  | some t =>
    rw [turn_eq ht]
    have begun : (r.begun i).Enrolled := enrolled.mapWorld (World.Change.readied _).changes
    exact .trans (.of_same rfl) (t.polls_poll i r.now begun).1.logs

theorem log_withdrawAll (ps : List (Task × Nat)) (w : World) : (withdrawAll ps w).log = w.log := by
  induction ps generalizing w with
  | nil => rfl
  | cons p ps ih =>
    have first : (p.1.withdraw p.2 w).log = w.log := by
      unfold Task.withdraw
      split <;> rfl
    exact (ih _).trans first

/-- The driver has the last word. -/
theorem log_concluded (config : Config) (participants : List Participant) (w : Watch) (r : Run) :
    (concluded config participants w r).2.world.log =
      r.stage.world.log ++ w.closing config (participants.map (·.name)) := by
  show (List.foldl World.note _ _).log = _
  rw [Run.notes_eq]
  exact congrArg (· ++ _) (log_withdrawAll r.tasks.zipIdx r.stage.world)

section
variable [Clock]

/-- After a look all settlements are told. -/
theorem Told.look (ledger : Ledger config participants marks w r)
    (told : Told participants stage ((settlements marks).take w.settled.length) r)
    (looked : r.observeAll config (participants.map (·.name)) w = (w', r')) :
    Told participants stage (settlements marks) r' := by
  obtain ⟨seen, unseen, all, rfl, observed⟩ := ledger.observed
  have mine : (settlements marks).take
      (watchOf config (participants.map (·.name)) seen).settled.length = seen := by
    rw [all, watchOf, List.length_map, List.take_left]
  rw [mine] at told
  rw [all]
  refine told.notes ?_
  rw [show r' = _ from congrArg Prod.snd (looked.symm.trans observed)]
  show (List.foldl World.note _ _).log = _
  rw [Run.notes_eq]

/-- **While a run goes on, the log tells of what the driver has seen.** -/
theorem Underway.tells (under : Underway config participants stage marks w r) (h : stage.Reached) :
    Told participants stage ((settlements marks).take w.settled.length) r := by
  induction under with
  | opened => exact .opened participants stage
  | @turn marks w r i under ready ih =>
    obtain ⟨seen, unseen, all, rfl, -, -⟩ := (under.ledger h).seen
    have older : (watchOf config (participants.map (·.name)) seen).settled.length ≤
        (settlements marks).length := by
      rw [all, watchOf, List.length_map, List.length_append]
      exact Nat.le_add_right _ _
    rw [settlements_append, List.take_append_of_le_length older]
    exact ih.logs (Run.logs_turn i r (under.reached h).follows.enrolled)
  | @look marks w w' r r' under looked _ _ ih =>
    have ledger := under.ledger h
    have told := Told.look ledger ih looked
    rw [(ledger.look looked).2, watchOf, List.length_map, List.take_length]
    exact told
  | @sleep marks w r due _ _ _ _ _ ih =>
    rw [settlements_woke]
    exact ih.logs (.of_same rfl)

/-- Once a run is over, the log tells of all settlements. -/
theorem Over.tells (atEnd : Over config participants stage marks w r) (h : stage.Reached) :
    Told participants stage (settlements marks) r := by
  cases atEnd with
  | unopened => exact .opened participants stage
  | looked under looked _ => exact Told.look (under.ledger h) (under.tells h) looked
  | late under idle seen _ =>
    have told := under.tells h
    rw [(under.ledger h).all_seen seen, watchOf, List.length_map, List.take_length] at told
    exact told.logs (.of_same rfl)

/-! ## The whole story -/

theorem map_line_closing (config : Config) (participants : List Participant)
    (settled : List Settlement) :
    ((watchOf config (participants.map (·.name)) settled).closing config
        (participants.map (·.name))).map Event.line =
      closingLines config participants settled
        ((watchOf config (participants.map (·.name)) settled).verdict config
          (participants.map (·.name))) := by
  unfold Watch.closing closingLines
  dsimp only
  rw [stuck_watchOf, List.map_append, List.map_append, List.map_map]
  have stuck := stuck_watchOf config participants settled
  have success := Watch.verdict_ok_iff (watchOf config (participants.map (·.name)) settled) config
    (participants.map (·.name))
  rw [stuck] at success
  congr 1
  · congr 1
    unfold abortedLines
    split
    · next none => rw [if_pos (List.isEmpty_iff.mp none)]; rfl
    · next some => rw [if_neg fun none => some (List.isEmpty_iff.mpr none)]; rfl
  · split
    · next all =>
      rw [success.mpr all, List.length_map]
      rfl
    · next left =>
      generalize (watchOf config (participants.map (·.name)) settled).verdict config
        (participants.map (·.name)) = result at success
      cases result with
      | error e => rfl
      | ok => exact absurd (success.mp rfl) left

/-- What was told while a run went on, with the last word of the driver, is its whole story. -/
theorem Told.narrated {settled : List Settlement} (told : Told participants stage settled r)
    (watch : w = watchOf config (participants.map (·.name)) settled) :
    ∃ events, (concluded config participants w r).2.world.log = stage.world.log ++ events ∧
      Narrated config participants settled (concluded config participants w r).1.result events := by
  obtain ⟨during, same, drivers⟩ := told
  have closing : (w.closing config (participants.map (·.name))).map Event.line =
      closingLines config participants settled (concluded config participants w r).1.result :=
    watch ▸ map_line_closing config participants settled
  have started := map_line_started participants
  refine ⟨_, by rw [log_concluded, same, List.append_assoc], ?_, ?_, ?_⟩
  · have allStarted : (participants.map fun p => Event.participantStarted p.name).filter
        Event.OfDriver = participants.map fun p => Event.participantStarted p.name := by
      refine List.filter_eq_self.mpr fun e he => ?_
      obtain ⟨p, -, rfl⟩ := List.mem_map.mp he
      rfl
    have allClosing : (w.closing config (participants.map (·.name))).filter Event.OfDriver =
        w.closing config (participants.map (·.name)) :=
      List.filter_eq_self.mpr fun e he => by simpa using ofDriver_closing w config _ e he
    rw [List.filter_append, List.filter_append, allStarted, drivers, allClosing, List.map_append,
      List.map_append, started, map_line_settled, closing]
  · rw [List.append_assoc, List.map_append, started]
    exact List.prefix_append _ _
  · rw [List.map_append, closing]
    exact List.suffix_append _ _

/-- **The driver's log tells the whole run.** Whichever way a run of two or more participants goes,
the driver's lines are: that all of them start, before anything else is logged; then how each of
them settled that did so by the deadline in force, once and in that order; then, after everything
else, who was aborted, the failures that are not reported, and success. -/
theorem Stage.Reached.run_narrated (h : stage.Reached) (config : Config)
    (enough : 2 ≤ participants.length) :
    (∃ marks w r, Over config participants stage marks w r ∧
      drive config participants stage = concluded config participants w r) ∧
    ∀ marks w r, Over config participants stage marks w r →
      (∃ events, (concluded config participants w r).2.world.log = stage.world.log ++ events ∧
        Narrated config participants (settlements marks)
          (concluded config participants w r).1.result events) ∧
      ((settlements marks).map Settlement.index).Nodup ∧
      InOrder (settlements marks) ∧
      Timely config (settlements marks) ∧
      (∀ i result, r.tasks[i]?.bind Task.result? = some result ↔
        ∃ s ∈ settlements marks, s.index = i ∧ s.result = result) ∧
      (unsettled participants (settlements marks) ≠ [] →
        r.now = deadlineAfter config (settlements marks)) := by
  refine ⟨?_, fun marks w r atEnd => ?_⟩
  · obtain ⟨marks, w, r, atEnd, -, same⟩ := drive_possible h config enough
    exact ⟨marks, w, r, atEnd, same⟩
  · have closed := atEnd.closed h
    have returned := atEnd.returned h (by omega)
    exact ⟨(atEnd.tells h).narrated closed.watch, closed.once, returned.order, closed.timely,
      closed.results, fun left => closed.atEnd.resolve_left fun many =>
        left ((unsettled_eq_nil_iff _ _).mpr (closed.all_settled many))⟩

end

/-- One fails, one panics later, one does nothing, and one waits in vain. -/
def Participant.fiasco : List Participant :=
  [⟨"alice", [⟨.fail (.flowFailed "no"), false⟩]⟩,
    ⟨"bob", [⟨.receive "bob" .text, false⟩]⟩,
    ⟨"carol", [⟨.pause, false⟩, ⟨.panic (.str "oh"), false⟩]⟩,
    ⟨"dave", []⟩]

attribute [local instance] Clock.usual

theorem Stage.run_narrated_fiasco :
    Stage.pair.Reached ∧ 2 ≤ Participant.fiasco.length ∧
      (drive .fast Participant.fiasco Stage.pair).2.world.log.filter Event.OfDriver =
        [.participantStarted "alice", .participantStarted "bob", .participantStarted "carol",
          .participantStarted "dave", .participantFailed "alice" (.flowFailed "no"),
          .participantCompleted "dave", .participantFailed "carol" (.panicked "oh"),
          .participantsAborted ["bob"] Config.fast.timeout,
          .furtherFailure (.participantFailed "carol" (.panicked "oh"))] ∧
      ∃ settled events, (drive .fast Participant.fiasco Stage.pair).2.world.log =
          Stage.pair.world.log ++ events ∧
        Narrated .fast Participant.fiasco settled
          (drive .fast Participant.fiasco Stage.pair).1.result events := by
  have enough : 2 ≤ Participant.fiasco.length := by decide
  obtain ⟨⟨marks, w, r, atEnd, same⟩, narrated⟩ := Stage.Reached.pair.run_narrated .fast enough
  obtain ⟨⟨events, log, told⟩, -⟩ := narrated marks w r atEnd
  refine ⟨.pair, enough, by rfl, settlements marks, events, ?_, ?_⟩
  · rw [same]
    exact log
  · rw [same]
    exact told

end Rehearsal
