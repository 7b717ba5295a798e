import Mathlib.Data.List.Perm.Basic
import Rehearsal.Proofs.World.Errands
import Rehearsal.Proofs.World.Transfers

/-!
# Receives and what they log

A receive begins with a glance at its queue, which tells whether it logs that it waits. Then it
looks until it takes a message or is cancelled, and however often it looks again, called or not, for
a message of its own or one that somebody else took meanwhile, it logs nothing more until it takes
one. An `Account` keeps every receive beside the world in which it happens, with what it logged at
each of its steps, and `Account.Step` lets the steps of all receives come in any order between sends
and whatever else happens. Sending, like each look, is one step with what it logs, so the log is in
the order of the queue.
-/

namespace Rehearsal

/-! ## Logs and queues -/

/-- The log of one queue: of every message that was taken, it was sent before, and is the next. -/
def Matched (log : List Event) : Prop :=
  ∀ q before e owner after, log = before ++ .messageReceived q e owner :: after →
    (before.filterMap (Event.sent? q))[(before.filterMap (Event.taken? q)).length]? = some e

/-- An event that tells of no message that moved. -/
def Event.IsStill (e : Event) : Prop := ∀ q, e.sent? q = none ∧ e.taken? q = none

namespace Matched

variable {log : List Event}

/-- Another event: if it is a taking, then of the next message of its queue. -/
theorem append (h : Matched log) {e : Event}
    (next : ∀ q e' owner, e = .messageReceived q e' owner →
      (log.filterMap (Event.sent? q))[(log.filterMap (Event.taken? q)).length]? = some e') :
    Matched (log ++ [e]) := by
  intro q before e' owner after split
  rcases List.eq_nil_or_concat after with rfl | ⟨after, last, rfl⟩
  · obtain ⟨rfl, same⟩ := List.append_inj' split rfl
    exact next q e' owner (List.cons.inj same).1
  · rw [List.concat_eq_append, ← List.cons_append, ← List.append_assoc] at split
    exact h q before e' owner after (List.append_inj' split rfl).1

theorem append_still (h : Matched log) {events : List Event} (still : ∀ e ∈ events, e.IsStill) :
    Matched (log ++ events) := by
  induction events generalizing log with
  | nil => rwa [List.append_nil]
  | cons e events ih =>
    rw [List.append_cons]
    refine ih (h.append fun q e' owner same => ?_) fun e' he' =>
      still e' (List.mem_cons_of_mem _ he')
    have moves := (still e (List.mem_cons_self ..) q).2
    rw [same] at moves
    simp [Event.taken?] at moves

end Matched

namespace World

variable {w w' : World}

/-- The log tells of a queue what is in it and what was: all messages that were sent, by number, and
of each that was taken that it was the next. -/
structure Tallies (w : World) : Prop where
  numbered : ∀ q, (w.sent q).map Envelope.sequence = List.range (w.queue q).nextSequence
  queued : ∀ q, w.taken q ++ (w.queue q).envelopes = w.sent q
  matched : Matched w.log

namespace Tallies

theorem empty : ({} : World).Tallies where
  numbered _ := rfl
  queued _ := rfl
  matched := by
    intro q before e owner after split
    cases before <;> cases split

/-- Whatever moves no message and logs none. -/
theorem still (h : w.Tallies) (balanced : Balanced w [] w') (logs : w.Logs Event.IsStill w') :
    w'.Tallies := by
  obtain ⟨events, log, all⟩ := logs
  have envelopes : ∀ q, (w'.queue q).envelopes = (w.queue q).envelopes := fun q => by
    simpa using balanced.conserved q
  have sent : ∀ q, w'.sent q = w.sent q := fun q => by
    rw [World.sent, log, List.filterMap_append, List.filterMap_eq_nil_iff.mpr fun e he =>
      (all e he q).1, List.append_nil, World.sent]
  have taken : ∀ q, w'.taken q = w.taken q := fun q => by
    rw [World.taken, log, List.filterMap_append, List.filterMap_eq_nil_iff.mpr fun e he =>
      (all e he q).2, List.append_nil, World.taken]
  refine ⟨fun q => ?_, fun q => by rw [taken, envelopes, sent, h.queued], ?_⟩
  · rw [sent, h.numbered, balanced.nextSequence]
    rfl
  · rw [log]
    exact h.matched.append_still all

/-- Whatever moves no message and logs nothing at all. -/
theorem silent (h : w.Tallies) (still : w.Still w') (same : w'.log = w.log) : w'.Tallies :=
  h.still (.still still) (.of_same same)

theorem send (h : w.Tallies) (s : Session) (p : Payload) : (w.send s p).Tallies where
  numbered q := by
    by_cases hq : q = s.outbound
    · subst hq
      rw [sent_send, if_pos rfl, List.map_append, h.numbered, queue_send_self,
        Queue.nextSequence_ring, Queue.nextSequence_append, List.range_succ]
      rfl
    · rw [sent_send, if_neg (Ne.symm hq), List.append_nil, queue_send_of_ne w s p hq, h.numbered]
  queued q := by
    by_cases hq : q = s.outbound
    · subst hq
      rw [taken_send, sent_send, if_pos rfl, queue_send_self, Queue.envelopes_ring,
        Queue.envelopes_append, ← List.append_assoc, h.queued]
    · rw [taken_send, sent_send, if_neg (Ne.symm hq), List.append_nil, queue_send_of_ne w s p hq,
        h.queued]
  matched := by
    rw [log_send]
    exact h.matched.append fun q e owner same => nomatch same

theorem take (h : w.Tallies) {me : Waiter} {s : Session} {e : Envelope}
    (found : w.lookFor me s = (some e, w')) : w'.Tallies := by
  obtain ⟨rest, envelopes, left⟩ := queue_of_lookFor_some found
  have others := fun q (hq : q ≠ s.inbound) => queue_of_lookFor_ne found hq
  have sent := sent_lookFor w me s
  have taken := taken_lookFor w me s
  have log := log_lookFor w me s
  rw [found] at sent taken log
  have queued := h.queued s.inbound
  rw [envelopes] at queued
  refine ⟨fun q => ?_, fun q => ?_, ?_⟩
  · rw [sent, h.numbered]
    by_cases hq : q = s.inbound
    · rw [hq, left]
    · rw [others q hq]
  · rw [sent, taken]
    by_cases hq : q = s.inbound
    · subst hq
      rw [if_pos rfl, left, ← queued]
      simp
    · rw [if_neg (Ne.symm hq), List.append_nil, others q hq, h.queued]
  · rw [log]
    refine h.matched.append fun q e' owner same => ?_
    cases same
    show (w.sent s.inbound)[(w.taken s.inbound).length]? = some e
    rw [← queued, List.getElem?_append_right (Nat.le_refl _), Nat.sub_self]
    rfl

/-- A look, whatever it finds. -/
theorem lookFor (h : w.Tallies) {me : Waiter} {s : Session} {found : Option Envelope}
    (looked : w.lookFor me s = (found, w')) : w'.Tallies := by
  cases found with
  | some e => exact h.take looked
  | none =>
    have log := log_lookFor w me s
    rw [looked] at log
    exact h.silent (still_of_lookFor_none looked) (by simpa using log)

end Tallies

end World

/-! ## Accounts -/

/-- How far a receive is. -/
inductive Receive.Stand where
  /-- It began, and has not looked yet. -/
  | begun
  | waits
  | took (e : Envelope)
  | cancelled

/-- How far a look brings a receive. -/
def Receive.Stand.after : Option Envelope → Receive.Stand
  | some e => .took e
  | none => .waits

/-- A receive from its beginning on. -/
structure Receive where
  me : Waiter
  session : Session
  kind : Kind
  /-- Its queue was empty as it began. -/
  foundEmpty : Bool
  stand : Receive.Stand
  /-- What was logged in its steps. -/
  logged : List Event

namespace Receive

/-- A receive that took a message or was cancelled. -/
def IsOver (x : Receive) : Prop :=
  match x.stand with
  | .took _ => True
  | .cancelled => True
  | _ => False

/-- What a receive does by taking a message, or by waiting as there is none. -/
def looked (x : Receive) (found : Option Envelope) (events : List Event) : Receive :=
  { x with stand := .after found, logged := x.logged ++ events }

/-- All that a receive has to tell: that it waits, if its queue was empty as it began, and then what
it took, whether that is of the kind asked for or not. -/
def story (x : Receive) : List Event :=
  (if x.foundEmpty then [.messageAwaited x.session.inbound x.session.owner x.kind] else []) ++
    match x.stand with
    | .took e => [.messageReceived x.session.inbound e x.session.owner]
    | _ => []

/-- A receive that takes a message has that to tell besides. -/
theorem story_looked {x : Receive} (going : ¬ x.IsOver) (found : Option Envelope)
    (events : List Event) : (x.looked found events).story = x.story ++
      (found.map fun e => Event.messageReceived x.session.inbound e x.session.owner).toList := by
  have story : x.story =
      if x.foundEmpty then [.messageAwaited x.session.inbound x.session.owner x.kind] else [] := by
    unfold story
    cases stand : x.stand with
    | begun => exact List.append_nil _
    | waits => exact List.append_nil _
    | took e => exact absurd (by rw [IsOver, stand]; trivial) going
    | cancelled => exact absurd (by rw [IsOver, stand]; trivial) going
  rw [story]
  cases found <;> rfl

end Receive

/-- A world, and every receive that ever began there, in the order in which they began. -/
structure Account where
  world : World := {}
  receives : List Receive := []

/-- What was logged from one world to another. -/
def World.since (w w' : World) : List Event := w'.log.drop w.log.length

/-- Something other than sending and receiving: a call, or a driver logs. -/
def Operation.IsElse (op : Operation) : Prop := op.IsAside ∨ ∃ e, op = .note e

namespace Account

/-- One step of somebody in a world. -/
inductive Step : Account → Account → Prop where
  | other {a : Account} (op : Operation) (isElse : op.IsElse) (applies : op.Applies a.world) :
      Step a { a with world := op.run a.world }
  | send (a : Account) (s : Session) (p : Payload) : Step a { a with world := a.world.send s p }
  /-- A receive begins, by a glance at its queue. -/
  | begins (a : Account) (me : Waiter) (s : Session) (k : Kind) : Step a
      { world := a.world.awaitMessage s k
        receives := a.receives ++ [{
          me, session := s, kind := k
          foundEmpty := (a.world.queue s.inbound).isEmpty
          stand := .begun
          logged := a.world.since (a.world.awaitMessage s k) }] }
  /-- It looks for the first time. -/
  | looks {a : Account} {n : Nat} {x : Receive} {found : Option Envelope} {w : World}
      (here : a.receives[n]? = some x) (begun : x.stand = .begun)
      (looked : a.world.lookFor x.me x.session = (found, w)) :
      Step a ⟨w, a.receives.set n (x.looked found (a.world.since w))⟩
  /-- It wakes up, for whatever reason, and looks again. -/
  | looksAgain {a : Account} {n : Nat} {x : Receive} {found : Option Envelope} {w : World}
      (here : a.receives[n]? = some x) (waits : x.stand = .waits)
      (looked : (a.world.answerCall x.me x.session).lookFor x.me x.session = (found, w)) :
      Step a ⟨w, a.receives.set n (x.looked found (a.world.since w))⟩
  /-- Whoever waits is aborted. -/
  | cancels {a : Account} {n : Nat} {x : Receive} (here : a.receives[n]? = some x)
      (waits : x.stand = .waits) : Step a
      { world := a.world.withdraw x.me x.session
        receives := a.receives.set n { x with
          stand := .cancelled
          logged := x.logged ++ a.world.since (a.world.withdraw x.me x.session) } }

/-- Some steps, one after the other. -/
abbrev History : Account → Account → Prop := Relation.ReflTransGen Step

/-- What came of a world where nothing was sent yet. -/
def Reached (a : Account) : Prop := History {} a

end Account

/-! ## What everybody else logs -/

/-- What only receives log. -/
def Event.isOfReceive : Event → Bool
  | messageAwaited _ _ _ => true
  | messageReceived _ _ _ => true
  | _ => false

/-- What is logged by neither senders nor receivers. -/
def Event.IsElse (e : Event) : Prop := e.OfCall ∨ e.OfDriver

theorem Event.IsElse.still {e : Event} (h : e.IsElse) : e.IsStill := by
  rcases h with h | h
  · cases e <;> first | exact h.elim | exact fun _ => ⟨rfl, rfl⟩
  · exact h.plain.2

theorem Event.IsElse.not_ofReceive {e : Event} (h : e.IsElse) : e.isOfReceive = false := by
  rcases h with h | h <;> cases e <;> first | exact h.elim | rfl

namespace Operation.IsElse

variable {op : Operation} {w : World}

theorem logs (isElse : op.IsElse) (applies : op.Applies w) : w.Logs Event.IsElse (op.run w) := by
  rcases isElse with aside | ⟨e, rfl⟩
  · exact (aside.logs w).mono fun _ => .inl
  · exact .single (e := e) (.inr applies) rfl

theorem balanced (isElse : op.IsElse) (applies : op.Applies w) : w.Balanced [] (op.run w) := by
  have none : op.transfers w = [] := by
    rcases isElse with aside | ⟨e, rfl⟩
    · cases op <;> first | exact aside.elim | rfl
    · rfl
  rw [← none]
  exact (World.carries_run applies).balanced

end Operation.IsElse

/-! ## The law of receives -/

theorem World.since_of_log {w w' : World} {events : List Event}
    (log : w'.log = w.log ++ events) : w.since w' = events := by
  rw [World.since, log, List.drop_left]

namespace Account

variable {a a' : Account} {n : Nat} {x y : Receive}

/-- What every step of an account keeps. -/
structure Kept (a : Account) : Prop where
  tallies : a.world.Tallies
  stories : ∀ x ∈ a.receives, x.logged = x.story
  accounted : (a.receives.flatMap Receive.logged).Perm (a.world.log.filter Event.isOfReceive)

namespace Kept

theorem empty : ({} : Account).Kept := ⟨.empty, by simp, .refl _⟩

/-- Nobody's receive went on. -/
theorem apart (h : a.Kept) {w : World} (tallies : w.Tallies)
    (logs : a.world.Logs (fun e => e.isOfReceive = false) w) : Kept { a with world := w } := by
  obtain ⟨events, log, others⟩ := logs
  refine ⟨tallies, h.stories, ?_⟩
  have none : events.filter Event.isOfReceive = [] :=
    List.filter_eq_nil_iff.mpr fun e he => by simp [others e he]
  rw [log, List.filter_append, none, List.append_nil]
  exact h.accounted

/-- One receive went on, and everything that was logged is its own. -/
theorem goesOn (h : a.Kept) (here : a.receives[n]? = some x) {w : World} {events : List Event}
    (tallies : w.Tallies) (log : w.log = a.world.log ++ events)
    (own : ∀ e ∈ events, e.isOfReceive) (grown : y.logged = x.logged ++ events)
    (story : y.logged = y.story) : Kept ⟨w, a.receives.set n y⟩ := by
  refine ⟨tallies, fun z hz => ?_, ?_⟩
  · rcases List.mem_or_eq_of_mem_set hz with hz | rfl
    · exact h.stories z hz
    · exact story
  · rw [log, List.filter_append, List.filter_eq_self.mpr own]
    exact (perm_flatMap_set here grown).trans (h.accounted.append_right _)

/-- A new receive, and everything that was logged is its own. -/
theorem joins (h : a.Kept) {w : World} (tallies : w.Tallies)
    (log : w.log = a.world.log ++ y.logged) (own : ∀ e ∈ y.logged, e.isOfReceive)
    (story : y.logged = y.story) : Kept ⟨w, a.receives ++ [y]⟩ := by
  refine ⟨tallies, fun z hz => ?_, ?_⟩
  · rcases List.mem_append.mp hz with hz | hz
    · exact h.stories z hz
    · rw [List.mem_singleton.mp hz]
      exact story
  · rw [log, List.filter_append, List.filter_eq_self.mpr own, List.flatMap_append,
      List.flatMap_singleton]
    exact h.accounted.append_right _

/-- A receive that is not over looks, having logged nothing just before. -/
theorem looked (h : a.Kept) (here : a.receives[n]? = some x) (going : ¬ x.IsOver) {w w' : World}
    {found : Option Envelope} (tallies : w.Tallies) (same : w.log = a.world.log)
    (looked : w.lookFor x.me x.session = (found, w')) :
    Kept ⟨w', a.receives.set n (x.looked found (a.world.since w'))⟩ := by
  have log := World.log_lookFor w x.me x.session
  rw [looked, same] at log
  rw [World.since_of_log log]
  refine h.goesOn here (tallies.lookFor looked) log ?_ rfl ?_
  · intro e he
    cases found with
    | none => cases he
    | some e' => rw [List.mem_singleton.mp he]; rfl
  · rw [Receive.story_looked going, ← h.stories x (List.mem_of_getElem? here)]
    rfl

end Kept

theorem Step.kept (step : Step a a') (h : a.Kept) : a'.Kept := by
  cases step with
  | other op isElse applies =>
    have logs := isElse.logs applies
    exact h.apart (h.tallies.still (isElse.balanced applies) (logs.mono fun _ => (·.still)))
      (logs.mono fun _ => (·.not_ofReceive))
  | send s p => exact h.apart (h.tallies.send s p) (.single rfl (World.log_send _ s p))
  | begins me s k =>
    have log := World.log_awaitMessage a.world s k
    have own : ∀ e ∈ a.world.since (a.world.awaitMessage s k), e.isOfReceive ∧ e.IsStill := by
      rw [World.since_of_log log]
      intro e he
      split at he
      · rw [List.mem_singleton.mp he]
        exact ⟨rfl, fun _ => ⟨rfl, rfl⟩⟩
      · cases he
    rw [← World.since_of_log log] at log
    have applies : (Operation.await s k).Applies a.world := trivial
    have balanced : a.world.Balanced [] (a.world.awaitMessage s k) :=
      (World.carries_run applies).balanced
    refine h.joins (h.tallies.still balanced ⟨_, log, fun e he => (own e he).2⟩) log
      (fun e he => (own e he).1) ?_
    rw [World.since_of_log (World.log_awaitMessage a.world s k)]
    exact (List.append_nil _).symm
  | looks here begun looked =>
    exact h.looked here (by rw [Receive.IsOver, begun]; exact id) h.tallies rfl looked
  | looksAgain here waits looked =>
    exact h.looked here (by rw [Receive.IsOver, waits]; exact id)
      (h.tallies.silent (World.still_answerCall a.world _ _) rfl) rfl looked
  | @cancels n x here waits =>
    have log : (a.world.withdraw x.me x.session).log = a.world.log ++ [] :=
      (List.append_nil _).symm
    have tallies := h.tallies.silent (World.still_withdraw a.world x.me x.session) rfl
    rw [World.since_of_log log]
    refine h.goesOn here tallies log (by simp) rfl ?_
    rw [List.append_nil, h.stories x (List.mem_of_getElem? here)]
    unfold Receive.story
    rw [waits]

theorem Reached.kept (h : a.Reached) : a.Kept := by
  induction h with
  | refl => exact .empty
  | tail _ step ih => exact step.kept ih

/-- Where another receive goes on, one that is over stays as it is. -/
theorem over_of_set {xs : List Receive} {m : Nat} {z : Receive} (here : xs[n]? = some x)
    (done : x.IsOver) (there : xs[m]? = some y) (going : ¬ y.IsOver) :
    (xs.set m z)[n]? = some x := by
  have apart : m ≠ n := by
    rintro rfl
    rw [here] at there
    cases there
    exact going done
  rw [List.getElem?_set_ne apart, here]

theorem Step.over (step : Step a a') (here : a.receives[n]? = some x) (done : x.IsOver) :
    a'.receives[n]? = some x := by
  cases step with
  | other => exact here
  | send => exact here
  | begins => exact (List.getElem?_append_left (List.getElem?_eq_some_iff.mp here).1).trans here
  | looks there begun => exact over_of_set here done there (by rw [Receive.IsOver, begun]; exact id)
  | looksAgain there waits =>
    exact over_of_set here done there (by rw [Receive.IsOver, waits]; exact id)
  | cancels there waits =>
    exact over_of_set here done there (by rw [Receive.IsOver, waits]; exact id)

/-- **A receive that is over logs nothing more**, whatever happens later. -/
theorem History.over (h : History a a') (here : a.receives[n]? = some x) (done : x.IsOver) :
    a'.receives[n]? = some x := by
  induction h with
  | refl => exact here
  | tail _ step ih => exact step.over ih done

/-- The log of a world tells the whole exchange of an account. -/
structure Told (a : Account) : Prop where
  /-- In each direction, messages are sent under the numbers 0, 1, 2, and so on. -/
  numbered : ∀ q, (a.world.sent q).map Envelope.sequence = List.range (a.world.sent q).length
  /-- Of each direction, the message that is received as the `n`-th was sent before as the `n`-th:
  the same envelope, with its number, its sender and its payload. -/
  matched : ∀ q before e owner after,
    a.world.log = before ++ .messageReceived q e owner :: after →
      e.sequence = (before.filterMap (Event.taken? q)).length ∧
        (before.filterMap (Event.sent? q))[(before.filterMap (Event.taken? q)).length]? = some e
  /-- Every receive logged its story, and nothing else. -/
  stories : ∀ x ∈ a.receives, x.logged = x.story
  /-- Nobody else logs what receives do. -/
  accounted : (a.receives.flatMap Receive.logged).Perm (a.world.log.filter Event.isOfReceive)

/-- **The log tells the whole exchange**, whatever happened, in whatever order. -/
theorem Reached.told (h : a.Reached) : a.Told := by
  obtain ⟨tallies, stories, accounted⟩ := h.kept
  have lengths : ∀ q, (a.world.sent q).length = (a.world.queue q).nextSequence := fun q => by
    simpa using congrArg List.length (tallies.numbered q)
  refine ⟨fun q => by rw [tallies.numbered, lengths], fun q before e owner after split => ?_,
    stories, accounted⟩
  have next := tallies.matched q before e owner after split
  refine ⟨?_, next⟩
  -- What was sent before is a first part of what was sent, and that is numbered.
  have sent : (a.world.sent q)[(before.filterMap (Event.taken? q)).length]? = some e := by
    rw [World.sent, split, List.filterMap_append,
      List.getElem?_append_left (List.getElem?_eq_some_iff.mp next).1, next]
  have number := congrArg (·[(before.filterMap (Event.taken? q)).length]?) (tallies.numbered q)
  simp only [List.getElem?_map, sent, Option.map_some] at number
  obtain ⟨_, same⟩ := List.getElem?_eq_some_iff.mp number.symm
  rw [List.getElem_range] at same
  exact same.symm

end Account

end Rehearsal
