import Mathlib.Logic.Equiv.Defs
import Rehearsal.Proofs.Schedules.Turns
import Rehearsal.Proofs.Wakeups

/-!
# Standstills

A driven run of plain bodies is a row of steps of their network, and its clock does not move before
the run is over. So if a failure leaves the others any time at all, the driver never stops anybody
who could go on: when the run is over, the network is at rest.
-/

namespace Rehearsal

open Relation

/-! ## Participants with sessions of their own -/

/-- The sessions that the actions of a participant name. -/
def Participant.sessions (stage : Stage) (p : Participant) : List Session :=
  p.script.flatMap fun line =>
    line.action.sessionNames.filterMap fun name => stage.sessions.lookup name

/-- Participants that only send and receive, and each session is used by one of them at most. -/
structure Separate (stage : Stage) (participants : List Participant) : Prop where
  plain : ∀ p ∈ participants, ∀ line ∈ p.script, line.action.isPlain
  apart : participants.Pairwise fun p p' => ∀ s ∈ p.sessions stage, s ∉ p'.sessions stage

variable {config : Config} {participants : List Participant} {stage : Stage}
  {marks : List Mark} {w : Watch} {r r' : Run}

theorem Participant.mem_sessions {p : Participant} {s : Session} : s ∈ p.sessions stage ↔
    ∃ line ∈ p.script, ∃ name ∈ line.action.sessionNames, stage.sessions.lookup name = some s := by
  simp [sessions, List.mem_flatMap, List.mem_filterMap]

/-- Whoever uses a session is the only one. -/
theorem Separate.eq_of_mem (h : Separate stage participants) {i j : Nat} {p p' : Participant}
    {s : Session} (hp : participants[i]? = some p) (hp' : participants[j]? = some p')
    (hs : s ∈ p.sessions stage) (hs' : s ∈ p'.sessions stage) : i = j := by
  obtain ⟨hi, rfl⟩ := List.getElem?_eq_some_iff.mp hp
  obtain ⟨hj, rfl⟩ := List.getElem?_eq_some_iff.mp hp'
  have apart := List.pairwise_iff_getElem.mp h.apart
  rcases Nat.lt_trichotomy i j with before | same | after
  · exact absurd hs' (apart i j hi hj before s hs)
  · exact same
  · exact absurd hs (apart j i hj hi after s hs')

open scoped Classical in
/-- Every queue has an owner, who alone sends to it. -/
theorem Separate.exists_owner (h : Separate stage participants) (genuine : stage.Genuine) :
    ∃ owner : QueueId → Nat, ∀ i p s, participants[i]? = some p → s ∈ p.sessions stage →
      owner s.outbound = i := by
  let Owns (q : QueueId) (i : Nat) : Prop :=
    ∃ p s, participants[i]? = some p ∧ s ∈ p.sessions stage ∧ s.outbound = q
  refine ⟨fun q => if owned : ∃ i, Owns q i then owned.choose else 0, fun i p s hp uses => ?_⟩
  have owned : ∃ i, Owns s.outbound i := ⟨i, p, s, hp, uses, rfl⟩
  obtain ⟨p', s', hp', uses', same⟩ := owned.choose_spec
  have made : ∀ (p : Participant) s, s ∈ p.sessions stage → stage.world.Made s := by
    intro p s uses
    obtain ⟨line, -, name, -, found⟩ := Participant.mem_sessions.mp uses
    exact genuine.sessions _ (mem_of_lookup found)
  have one := genuine.linked.session_unique (made p' s' uses') (made p s uses) same
  subst one
  dsimp only
  rw [dif_pos owned]
  exact h.eq_of_mem hp' hp uses' uses

/-- A plain body never sleeps. -/
theorem Task.Within.not_due {sessions : Names Session} {own : Session → Prop} {t : Task}
    (h : t.Within sessions own) {due : Tick} : t.due? ≠ some due := by
  intro hd
  unfold Task.due? at hd
  split at hd
  · next due tolerant phase =>
    obtain ⟨r, wait, -⟩ := h.waits _ _ phase
    cases wait
  · cases hd

namespace Run

/-- The network of a run whose participants are numbered anew. -/
def network (σ : Nat ≃ Nat) (r : Run) : Network Task :=
  r.stage.world.network fun i => r.tasks[σ i]?

/-- The network with which a run begins. -/
theorem network_opened (σ : Nat ≃ Nat) (participants : List Participant) (stage : Stage) :
    (opened participants stage).network σ = stage.world.network fun i =>
      participants[σ i]?.map fun p => { script := p.script } := by
  have tasks : (fun i => (opened participants stage).tasks[σ i]?) =
      fun i => participants[σ i]?.map fun p => ({ script := p.script } : Task) :=
    funext fun i => List.getElem?_map ..
  have started := World.still_ready stage.world (List.range participants.length)
  have plain : ∀ e ∈ participants.map fun p => Event.participantStarted p.name, e.IsPlain := by
    intro e he
    obtain ⟨p, -, rfl⟩ := List.mem_map.mp he
    exact ⟨rfl, fun _ => ⟨rfl, rfl⟩⟩
  have noted := quiet_notes plain
    { stage.world with ready := List.range participants.length }
  unfold network
  rw [tasks, opened_eq]
  exact (started.trans noted.still).network

/-- A run begins wired if each session is used by one participant at most. -/
theorem wired_opened {σ : Nat ≃ Nat} {owner : QueueId → Nat}
    (plain : ∀ p ∈ participants, ∀ line ∈ p.script, line.action.isPlain)
    (owns : ∀ i p s, participants[σ i]? = some p → s ∈ p.sessions stage → owner s.outbound = i) :
    ((opened participants stage).network σ).Wired (wiring stage.sessions owner) := by
  intro i t ht
  rw [network_opened] at ht
  obtain ⟨p, hp, rfl⟩ := Option.map_eq_some_iff.mp ht
  exact ⟨plain p (List.mem_of_getElem? hp),
    fun line hl name hn s found =>
      owns i p s hp (Participant.mem_sessions.mpr ⟨line, hl, name, hn, found⟩),
    fun wait tolerant phase => by cases phase⟩

/-- A turn is a row of steps of the network. -/
theorem Sound.follows_turn (h : r.Sound) {σ : Nat ≃ Nat} {owner : QueueId → Nat}
    (wired : (r.network σ).Wired (wiring r.stage.sessions owner)) {j : Nat} (hj : j ∈ r.ready) :
    (r.turn j).stage.sessions = r.stage.sessions ∧
      ReflTransGen (Network.Step (Task.next r.stage.sessions)) (r.network σ)
        ((r.turn j).network σ) := by
  obtain ⟨i, rfl⟩ := σ.surjective j
  obtain ⟨t, _, _, took⟩ := h.took hj
  have before := took.before
  have within : t.Within (r.begun (σ i)).sessions _ := wired i t before
  have begun := World.still_ready r.stage.world (r.stage.world.ready.erase (σ i))
  have follows : Follows i (fun i => r.tasks[σ i]?) (r.begun (σ i)) _ _ :=
    within.follows_poll (σ i) r.now before
  obtain ⟨names, steps⟩ := follows.after_still begun
  have inside : σ i < r.tasks.length := (List.getElem?_eq_some_iff.mp before).1
  rw [turn_eq before]
  refine ⟨names, ?_⟩
  have tasks : (fun k => (r.put (σ i) (t.poll (σ i) r.now (r.begun (σ i))).1
      (t.poll (σ i) r.now (r.begun (σ i))).2).tasks[σ k]?) =
        Function.update (fun k => r.tasks[σ k]?) i
          (some (t.poll (σ i) r.now (r.begun (σ i))).1) := by
    funext k
    by_cases hk : k = i
    · subst hk
      rw [Function.update_self]
      exact List.getElem?_set_self inside
    · rw [Function.update_of_ne hk]
      exact List.getElem?_set_ne fun same => hk (σ.injective same).symm
  unfold network
  rw [tasks]
  exact steps

/-- Where no body is about to go on, and those that wait do so at empty queues, the network is at
rest. -/
theorem atRest {sessions : Names Session} (σ : Nat ≃ Nat)
    (started : ∀ t ∈ r.tasks, t.phase ≠ .unstarted)
    (empty : ∀ i q, r.WaitsAt i q → (r.stage.world.queue q).envelopes = []) :
    (r.network σ).AtRest (Task.next sessions) := by
  rintro n ⟨i, act⟩
  cases act with
  | @acts t _ _ here asked =>
    have phase := started t (List.mem_of_getElem? here)
    unfold Task.next at asked
    split at asked
    · next unstarted _ => exact phase unstarted
    · next unstarted _ => exact phase unstarted
    · cases asked
    · cases asked
  | @takes t q use e here asked oldest =>
    unfold Task.next at asked
    split at asked
    · cases asked
    · cases asked
    · next x tolerant waits =>
      cases asked
      have queued : ((r.network σ).queued x.session.inbound) = [] :=
        empty (σ i) _ ⟨t, x, tolerant, here, waits, rfl⟩
      rw [queued] at oldest
      cases oldest
    · cases asked

end Run

section
variable [Clock]

/-! ## Deadlines ahead -/

/-- A bound that is not zero takes some time. -/
theorem Tick.lt_after (now : Tick) {bound : Duration} (positive : bound ≠ .zero) :
    now < now.after bound := by
  have some_time : 0 < bound.nanoseconds := by
    refine Nat.pos_of_ne_zero fun none => positive ?_
    cases bound
    cases none
    rfl
  have some_ticks : 0 < bound.milliseconds := by
    rw [Duration.milliseconds]
    omega
  unfold after
  split
  · exact Nat.lt_add_of_pos_right some_ticks
  · exact Nat.lt_add_of_pos_right (by decide)

/-- A run that is given some time goes on for some time, whoever fails. -/
theorem deadlineAfter_pos (some_time : 0 < Tick.after 0 config.timeout)
    (grace : config.failureGrace ≠ .zero) (settled : List Settlement) :
    0 < deadlineAfter config settled := by
  unfold deadlineAfter
  generalize Tick.after 0 config.timeout = deadline at some_time
  induction settled generalizing deadline with
  | nil => exact some_time
  | cons s settled ih =>
    rw [List.foldl_cons]
    refine ih _ ?_
    split
    · exact some_time
    · exact Nat.lt_min.mpr ⟨some_time, Nat.zero_lt_of_lt (s.tick.lt_after grace)⟩

/-! ## Driven runs -/

variable {σ : Nat ≃ Nat} {owner : QueueId → Nat}

/-- Looking at those who ended leaves the network as it is. -/
theorem Run.network_of_looked {names : List String} {w w' : Watch} {σ : Nat ≃ Nat}
    (looked : r.observeAll config names w = (w', r')) :
    r'.stage.sessions = r.stage.sessions ∧ r'.now = r.now ∧ r'.network σ = r.network σ := by
  obtain ⟨events, ofDriver, same⟩ := Run.observeAll_eq config names w r
  rw [looked] at same
  rw [show r' = _ from same]
  exact ⟨rfl, rfl,
    (Run.quiet_notes (fun e he => (ofDriver e he).plain) r.stage.world).still.network⟩

/-- While a driven run goes on, its clock stays, and its network goes step by step. -/
theorem Underway.follows (under : Underway config participants stage marks w r)
    (h : stage.Reached)
    (wired : ((Run.opened participants stage).network σ).Wired (wiring stage.sessions owner)) :
    r.stage.sessions = stage.sessions ∧ r.now = 0 ∧
      ReflTransGen (Network.Step (Task.next stage.sessions))
        ((Run.opened participants stage).network σ) (r.network σ) := by
  induction under with
  | opened => exact ⟨rfl, rfl, .refl⟩
  | @turn marks w r j under ready ih =>
    obtain ⟨names, now, steps⟩ := ih
    have here := Network.wired_of_steps wired steps
    rw [← names] at here
    obtain ⟨names', steps'⟩ := (under.reached h).sound.follows_turn here ready
    obtain ⟨t, _, _, took⟩ := (under.reached h).sound.took ready
    rw [names] at steps'
    exact ⟨names'.trans names, took.now.trans now, steps.trans steps'⟩
  | @look marks w w' r r' under looked _ _ ih =>
    obtain ⟨names, now, steps⟩ := ih
    obtain ⟨names', now', network⟩ := Run.network_of_looked (σ := σ) looked
    rw [names', now', network]
    exact ⟨names, now, steps⟩
  | @sleep marks w r due under _ _ next _ ih =>
    -- The clock would have to move to a sleeper, and there is none.
    obtain ⟨-, -, steps⟩ := ih
    obtain ⟨⟨t, ht, hd⟩, -⟩ := Run.nextDue_spec next
    obtain ⟨j, hj⟩ := List.mem_iff_getElem?.mp ht
    obtain ⟨i, rfl⟩ := σ.surjective j
    have within : t.Within _ _ := Network.wired_of_steps wired steps i t hj
    exact absurd hd within.not_due

/-- **Standstill.** Plain bodies that were given some time are at rest when their run is over, and
those without any time are where they began. -/
theorem Over.standstill (atEnd : Over config participants stage marks w r) (h : stage.Reached)
    (wired : ((Run.opened participants stage).network σ).Wired (wiring stage.sessions owner))
    (grace : config.failureGrace ≠ .zero) :
    ReflTransGen (Network.Step (Task.next stage.sessions))
        ((Run.opened participants stage).network σ) (r.network σ) ∧
      (0 < Tick.after 0 config.timeout → (r.network σ).AtRest (Task.next stage.sessions)) ∧
      (Tick.after 0 config.timeout = 0 →
        r.network σ = (Run.opened participants stage).network σ) := by
  have closed := atEnd.closed h
  cases atEnd with
  | unopened no_time => exact ⟨.refl, fun some_time => absurd no_time (Nat.ne_of_gt some_time),
    fun _ => rfl⟩
  | @looked marks w w' r r' under looked atEnd =>
    obtain ⟨-, now, steps⟩ := under.follows h wired
    obtain ⟨-, now', network⟩ := Run.network_of_looked (σ := σ) looked
    have some_time := under.some_time
    refine ⟨network ▸ steps, fun _ => ?_, fun no_time => absurd no_time (Nat.ne_of_gt some_time)⟩
    rcases atEnd with all | late
    · have many := closed.many_settled all
      refine Run.atRest σ (fun t ht unstarted => ?_) fun i q waits => ?_
      · obtain ⟨result, phase⟩ := closed.all_ended many t ht
        rw [unstarted] at phase
        cases phase
      · exact absurd many (closed.not_all_of_waits waits)
    · -- The clock has not moved, so the deadline is still ahead.
      rw [closed.watch, now', now] at late
      exact absurd (deadlineAfter_pos some_time grace _) (Nat.not_lt.mpr late)
  | @late marks w r under idle seen none_due =>
    -- Only the clock moves now, and the network does not know of it.
    obtain ⟨-, -, steps⟩ := under.follows h wired
    have some_time := under.some_time
    have sound := (under.reached h).sound
    refine ⟨steps, fun _ => ?_, fun no_time => absurd no_time (Nat.ne_of_gt some_time)⟩
    refine Run.atRest (r := r) σ (fun t ht unstarted => ?_) fun i q waits => ?_
    · refine sound.not_ready_of_idle idle ht ?_
      rw [unstarted]
      rfl
    · exact sound.empty_of_idle idle waits

end

end Rehearsal
