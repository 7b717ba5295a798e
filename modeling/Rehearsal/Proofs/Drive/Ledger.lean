import Rehearsal.Proofs.Drive.Driver

/-!
# What the driver knows

The watch of a driver follows from the settlements that it has seen. `Ledger` says that nothing was
settled twice or missed: the tasks that have ended are those that settled, the driver has seen a
first part of the settlements, and the rest are of this very moment. Every settlement came by the
deadline that was in force.
-/

namespace Rehearsal

section
variable [Clock]

namespace Tick

theorem le_after (now : Tick) (bound : Duration) : now ≤ now.after bound := by
  unfold after
  split <;> exact Nat.le_add_right _ _

end Tick

/-- The deadline in force after these settlements. -/
def deadlineAfter (config : Config) (settled : List Settlement) : Tick :=
  settled.foldl (fun deadline s =>
    match s.result with
    | .ok () => deadline
    | .error _ => min deadline (s.tick.after config.failureGrace)) (Tick.after 0 config.timeout)

/-- Whether a deadline that was due up to these settlements could not be counted: that of the
timeout, or that of the grace after one of the failures. -/
def overflowsAfter (config : Config) (settled : List Settlement) : Bool :=
  settled.foldl (fun overflowed s =>
    match s.result with
    | .ok () => overflowed
    | .error _ => overflowed || (s.tick.after? config.failureGrace).isNone)
    (Tick.after? 0 config.timeout).isNone

/-- The failure that a driver keeps of a settlement. -/
def Settlement.failure? (names : List String) (s : Settlement) : Option Error :=
  match s.result with
  | .ok () => none
  | .error failure => some (.participantFailed (names[s.index]?.getD "") failure.toError)

/-- What a driver logs of a settlement. -/
def Settlement.event (names : List String) (s : Settlement) : Event :=
  match s.result with
  | .ok () => .participantCompleted (names[s.index]?.getD "")
  | .error failure => .participantFailed (names[s.index]?.getD "") failure.toError

/-- The watch of a driver that has seen these settlements. -/
def watchOf (config : Config) (names : List String) (settled : List Settlement) : Watch where
  deadline := deadlineAfter config settled
  overflowed := overflowsAfter config settled
  settled := settled.map Settlement.index
  failures := settled.filterMap (Settlement.failure? names)

variable {config : Config} {participants : List Participant} {stage : Stage}
  {marks : List Mark} {w w' : Watch} {r r' : Run}

/-! ## Deadlines -/

/-- A later settlement can only bring the deadline nearer, and never before its own moment. -/
theorem le_deadlineAfter_append {config : Config} {settled unseen : List Settlement} {now : Tick}
    (before : now ≤ deadlineAfter config settled) (here : ∀ s ∈ unseen, s.tick = now) :
    now ≤ deadlineAfter config (settled ++ unseen) := by
  induction unseen generalizing settled with
  | nil => simpa using before
  | cons s unseen ih =>
    rw [List.append_cons]
    refine ih ?_ fun s hs => here s (List.mem_cons_of_mem _ hs)
    rw [deadlineAfter, List.foldl_append, List.foldl_cons, List.foldl_nil]
    change now ≤ match s.result with
      | .ok () => deadlineAfter config settled
      | .error _ => min (deadlineAfter config settled) (s.tick.after config.failureGrace)
    split
    · exact before
    · rw [here s (List.mem_cons_self ..)]
      exact Nat.le_min.mpr ⟨before, Tick.le_after _ _⟩

/-- Where nobody has failed, the deadline is that of the timeout. -/
theorem deadlineAfter_of_no_failure {settled : List Settlement}
    (none : ∀ s ∈ settled, s.result = .ok ()) (config : Config) :
    deadlineAfter config settled = Tick.after 0 config.timeout := by
  unfold deadlineAfter
  generalize Tick.after 0 config.timeout = deadline
  induction settled with
  | nil => rfl
  | cons s settled ih =>
    rw [List.foldl_cons, none s (List.mem_cons_self ..)]
    exact ih fun s hs => none s (List.mem_cons_of_mem _ hs)

/-! ## Seeing settlements -/

/-- The watch after one more settlement, and what is logged of it. -/
theorem observe_watchOf (config : Config) (names : List String) (seen : List Settlement)
    (s : Settlement) :
    (watchOf config names seen).observe config s.tick s.index (names[s.index]?.getD "") s.result =
      (watchOf config names (seen ++ [s]), s.event names) := by
  unfold watchOf deadlineAfter overflowsAfter
  rw [List.foldl_append, List.foldl_append, List.map_append, List.filterMap_append]
  cases hr : s.result with
  | ok => simp [Watch.observe, Settlement.failure?, Settlement.event, hr]
  | error failure => simp [Watch.observe, Settlement.failure?, Settlement.event, hr]

namespace Run

/-- Looking at participants that have ended adds their settlements to the watch and to the log. -/
theorem observed_watchOf (config : Config) (names : List String) (seen unseen : List Settlement)
    (r : Run) (here : ∀ s ∈ unseen, s.tick = r.now)
    (ended : ∀ s ∈ unseen, r.tasks[s.index]?.bind Task.result? = some s.result)
    (named : ∀ s ∈ unseen, s.index < names.length) :
    (unseen.map Settlement.index).foldl (observe config names) (watchOf config names seen, r) =
      (watchOf config names (seen ++ unseen),
        r.mapWorld fun w => (unseen.map (Settlement.event names)).foldl World.note w) := by
  induction unseen generalizing seen r with
  | nil => simp [mapWorld]
  | cons s unseen ih =>
    have now := here s (List.mem_cons_self ..)
    have result := ended s (List.mem_cons_self ..)
    have name := List.getElem?_eq_getElem (named s (List.mem_cons_self ..))
    have seen' := observe_watchOf config names seen s
    rw [name, Option.getD_some, now] at seen'
    rw [List.map_cons, List.foldl_cons, observe]
    dsimp only
    rw [result, name]
    dsimp only
    rw [seen', List.append_cons seen s unseen]
    exact ih _ (r.mapWorld _) (fun s hs => here s (List.mem_cons_of_mem _ hs))
      (fun s hs => ended s (List.mem_cons_of_mem _ hs))
      fun s hs => named s (List.mem_cons_of_mem _ hs)

end Run

/-- Every settlement came by the deadline in force. -/
def Timely (config : Config) (settled : List Settlement) : Prop :=
  ∀ before s after, settled = before ++ s :: after → s.tick ≤ deadlineAfter config before

theorem Timely.append {settled : List Settlement} {s : Settlement} (h : Timely config settled)
    (early : s.tick ≤ deadlineAfter config settled) : Timely config (settled ++ [s]) := by
  intro before s' after same
  rcases List.eq_nil_or_concat after with rfl | ⟨after, last, rfl⟩
  · obtain ⟨rfl, last⟩ := List.append_inj' same rfl
    cases last
    exact early
  · rw [List.concat_eq_append, ← List.cons_append, ← List.append_assoc] at same
    exact h before s' after (List.append_inj' same rfl).1

/-! ## The ledger -/

/-- What is known of a driven run that goes on. -/
structure Ledger (config : Config) (participants : List Participant) (marks : List Mark) (w : Watch)
    (r : Run) : Prop where
  tasks : r.tasks.length = participants.length
  /-- The driver has seen all but those that ended since it last looked. -/
  seen : ∃ seen unseen, settlements marks = seen ++ unseen ∧
    w = watchOf config (participants.map (·.name)) seen ∧
    r.ended = unseen.map Settlement.index ∧ ∀ s ∈ unseen, s.tick = r.now
  once : ((settlements marks).map Settlement.index).Nodup
  results : ∀ i result, r.tasks[i]?.bind Task.result? = some result ↔
    ∃ s ∈ settlements marks, s.index = i ∧ s.result = result
  timely : Timely config (settlements marks)
  early : r.now ≤ w.deadline
  clock : r.now = 0 ∨ .woke r.now ∈ marks

namespace Ledger

theorem index_lt (h : Ledger config participants marks w r) {s : Settlement}
    (hs : s ∈ settlements marks) : s.index < participants.length := by
  have ended := (h.results s.index s.result).mpr ⟨s, hs, rfl, rfl⟩
  rw [← h.tasks]
  by_contra outside
  rw [List.getElem?_eq_none (Nat.le_of_not_lt outside)] at ended
  cases ended

theorem opened (config : Config) (participants : List Participant) (stage : Stage) :
    Ledger config participants [] (Watch.start config 0) (Run.opened participants stage) where
  tasks := List.length_map ..
  seen := ⟨[], [], rfl, rfl, rfl, by simp⟩
  once := List.nodup_nil
  results i result := by
    have unstarted : (Run.opened participants stage).tasks[i]?.bind Task.result? = none := by
      show (participants.map fun p => ({ script := p.script } : Task))[i]?.bind _ = none
      rw [List.getElem?_map]
      cases participants[i]? <;> rfl
    rw [unstarted]
    simp
  timely := by
    intro before s after same
    cases before <;> cases same
  early := Nat.zero_le _
  clock := .inl rfl

/-- The deadline in force is ahead of every settlement that is new. -/
theorem le_deadline (h : Ledger config participants marks w r) :
    r.now ≤ deadlineAfter config (settlements marks) := by
  obtain ⟨seen, unseen, all, rfl, -, here⟩ := h.seen
  rw [all]
  exact le_deadlineAfter_append h.early here

/-- Where nobody has ended since the driver looked, it has seen all settlements. -/
theorem all_seen (h : Ledger config participants marks w r) (seen : r.ended = []) :
    w = watchOf config (participants.map (·.name)) (settlements marks) := by
  obtain ⟨all, unseen, split, watch, ended, -⟩ := h.seen
  have nothing : unseen = [] := by
    rw [seen] at ended
    exact List.map_eq_nil_iff.mp ended.symm
  rw [split, nothing, List.append_nil]
  exact watch

/-- The driver looks at all that have ended, and logs what it had not seen. -/
theorem observed (h : Ledger config participants marks w r) : ∃ seen unseen,
    settlements marks = seen ++ unseen ∧ w = watchOf config (participants.map (·.name)) seen ∧
      r.observeAll config (participants.map (·.name)) w =
        (watchOf config (participants.map (·.name)) (settlements marks),
          Run.mapWorld { r with ended := [] } fun world => (unseen.map
            (Settlement.event (participants.map (·.name)))).foldl World.note world) := by
  obtain ⟨seen, unseen, all, rfl, ended, here⟩ := h.seen
  refine ⟨seen, unseen, all, rfl, ?_⟩
  have new : ∀ s ∈ unseen, s ∈ settlements marks := fun s hs => all ▸ List.mem_append_right _ hs
  rw [Run.observeAll, ended, all]
  exact Run.observed_watchOf config (participants.map (·.name)) seen unseen { r with ended := [] }
    here (fun s hs => (h.results _ _).mpr ⟨s, new s hs, rfl, rfl⟩)
    fun s hs => by rw [List.length_map]; exact h.index_lt (new s hs)

/-- The driver looks at all that have ended. -/
theorem look (h : Ledger config participants marks w r)
    (looked : r.observeAll config (participants.map (·.name)) w = (w', r')) :
    Ledger config participants marks w' r' ∧
      w' = watchOf config (participants.map (·.name)) (settlements marks) := by
  obtain ⟨seen, unseen, -, -, observed⟩ := h.observed
  obtain ⟨tasks, now, -, none⟩ := Run.of_looked looked
  have watch : w' = watchOf config (participants.map (·.name)) (settlements marks) :=
    congrArg Prod.fst (looked.symm.trans observed)
  refine ⟨⟨by rw [tasks, h.tasks], ⟨settlements marks, [], by simp, watch, none, by simp⟩, h.once,
    by simpa only [tasks] using h.results, h.timely, ?_, now.symm ▸ h.clock⟩, watch⟩
  rw [watch, now]
  exact h.le_deadline

/-- The clock moves on to sleepers that are due. -/
theorem sleep (h : Ledger config participants marks w r) {due : Tick} (seen : r.ended = [])
    (early : due ≤ w.deadline) :
    Ledger config participants (marks ++ [.woke due]) w (r.advance due) := by
  have same := settlements_woke marks due
  exact ⟨h.tasks, ⟨settlements marks, [], by rw [same, List.append_nil], h.all_seen seen, seen,
    by simp⟩, same ▸ h.once, by rw [same]; exact h.results, same ▸ h.timely, early,
    .inr (by simp [Run.advance])⟩

/-- Nobody settled under the number of one who can go on. -/
theorem index_ne_of_ready (h : Ledger config participants marks w r) (sound : r.Sound) {i : Nat}
    (hi : i ∈ r.ready) {s : Settlement} (hs : s ∈ settlements marks) : s.index ≠ i := by
  rintro rfl
  have going := sound.going_of_ready hi
  rw [(h.results s.index s.result).mpr ⟨s, hs, rfl, rfl⟩] at going
  cases going

section
variable {i : Nat} {t t' : Task} {stage' : Stage}

/-- A turn that ends in a wait settles nothing. -/
theorem turn_going (h : Ledger config participants marks w r) (sound : r.Sound) (hi : i ∈ r.ready)
    (took : r.Took i t t' stage') (going : t'.result? = none) :
    Ledger config participants (marks ++ r.settles i) w (r.turn i) := by
  have settles : r.settles i = [] := by
    rw [Run.settles, took.own, Option.bind_some, going]
  obtain ⟨seen, unseen, all, watch, ended, here⟩ := h.seen
  rw [settles, List.append_nil]
  refine ⟨took.length.trans h.tasks, ⟨seen, unseen, all, watch,
    (took.ended_of_going going).trans ended, took.now.symm ▸ here⟩, h.once, fun j result => ?_,
    h.timely, took.now.symm ▸ h.early, took.now.symm ▸ h.clock⟩
  by_cases hj : j = i
  · subst hj
    rw [took.own, Option.bind_some, going]
    constructor
    · intro he
      cases he
    · rintro ⟨s, hs, hn, -⟩
      exact absurd hn (h.index_ne_of_ready sound hi hs)
  · rw [took.others hj]
    exact h.results j result

/-- A turn that ends the body settles it at this moment. -/
theorem turn_over (h : Ledger config participants marks w r) (sound : r.Sound) (hi : i ∈ r.ready)
    (took : r.Took i t t' stage') {result : Except Failure Unit}
    (finished : t'.result? = some result) :
    Ledger config participants (marks ++ r.settles i) w (r.turn i) := by
  have new := fun s hs => h.index_ne_of_ready sound hi (s := s) hs
  have settles : r.settles i = [.settled ⟨i, r.now, result⟩] := by
    rw [Run.settles, took.own, Option.bind_some, finished]
  have more : settlements (marks ++ r.settles i) = settlements marks ++ [⟨i, r.now, result⟩] := by
    rw [settles, settlements_append]
    rfl
  obtain ⟨seen, unseen, all, watch, ended, here⟩ := h.seen
  refine ⟨took.length.trans h.tasks, ⟨seen, unseen ++ [⟨i, r.now, result⟩], ?_, watch, ?_, ?_⟩, ?_,
    fun j result' => ?_, more ▸ h.timely.append h.le_deadline, took.now.symm ▸ h.early, ?_⟩
  · rw [more, all, List.append_assoc]
  · rw [took.ended_of_over finished, List.map_append, ← ended]
    rfl
  · rw [took.now]
    intro s hs
    rcases List.mem_append.mp hs with hs | hs
    · exact here s hs
    · rw [List.mem_singleton.mp hs]
  · rw [more, List.map_append]
    refine List.nodup_append.mpr ⟨h.once, List.nodup_singleton i, fun j hj k hk => ?_⟩
    obtain ⟨s, hs, rfl⟩ := List.mem_map.mp hj
    rw [List.mem_singleton.mp hk]
    exact new s hs
  · simp only [more, List.mem_append, List.mem_singleton, or_and_right, exists_or, exists_eq_left]
    -- The participant itself had no settlement yet, and nobody else gets one.
    by_cases hj : j = i
    · subst hj
      rw [took.own, Option.bind_some, finished, Option.some.injEq]
      constructor
      · exact fun he => .inr ⟨rfl, he⟩
      · rintro (⟨s, hs, hn, -⟩ | ⟨-, he⟩)
        · exact absurd hn (new s hs)
        · exact he
    · rw [took.others hj, h.results j result']
      exact ⟨.inl, fun he => he.resolve_right fun ⟨hn, _⟩ => hj hn.symm⟩
  · rw [took.now]
    exact h.clock.imp_right fun woke => List.mem_append_left _ woke

end

/-- Somebody takes a turn, and may end with it. -/
theorem turn (h : Ledger config participants marks w r) (sound : r.Sound) {i : Nat}
    (hi : i ∈ r.ready) : Ledger config participants (marks ++ r.settles i) w (r.turn i) := by
  obtain ⟨t, t', stage', took⟩ := sound.took hi
  cases result : t'.result? with
  | none => exact h.turn_going sound hi took result
  | some => exact h.turn_over sound hi took result

end Ledger

/-- Every driven run that goes on has a ledger. -/
theorem Underway.ledger (under : Underway config participants stage marks w r)
    (h : stage.Reached) : Ledger config participants marks w r := by
  induction under with
  | opened => exact .opened config participants stage
  | turn under ready ih => exact ih.turn (under.reached h).sound ready
  | look _ looked _ _ ih => exact (ih.look looked).1
  | sleep _ _ seen _ early ih => exact ih.sleep seen early

end

end Rehearsal
