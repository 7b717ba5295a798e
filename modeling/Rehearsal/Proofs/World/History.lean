import Rehearsal.Proofs.Keeping
import Rehearsal.Proofs.Lists
import Rehearsal.World.Links

/-!
# What the log tells

The log of a world holds its links and every message that went through a queue, so it is the world's
history. `World.Linked` says that links are numbered in the order in which they were made and that
only their sessions are ever attached; `World.Quiet` says that an action moved no message and called
nobody.
-/

namespace Rehearsal

/-! ## Reading the log -/

/-- The link that an event says was made. -/
def Event.link? : Event → Option Link
  | linkCreated l => some l
  | _ => none

/-- The message that an event says went into a queue. -/
def Event.sent? (q : QueueId) : Event → Option Envelope
  | messageSent q' e _ => if q' = q then some e else none
  | _ => none

/-- The message that an event says came out of a queue. -/
def Event.taken? (q : QueueId) : Event → Option Envelope
  | messageReceived q' e _ => if q' = q then some e else none
  | _ => none

/-- An event that tells neither of a link nor of a message that moved. -/
def Event.IsPlain (e : Event) : Prop :=
  e.link? = none ∧ ∀ q, e.sent? q = none ∧ e.taken? q = none

/-- An event that only a driver logs. -/
def Event.OfDriver : Event → Prop
  | participantStarted _ => True
  | participantCompleted _ => True
  | participantFailed _ _ => True
  | participantsAborted _ _ => True
  | furtherFailure _ => True
  | allCompleted _ => True
  | _ => False

theorem Event.OfDriver.plain {e : Event} (h : e.OfDriver) : e.IsPlain := by
  cases e <;> first | exact h.elim | exact ⟨rfl, fun _ => ⟨rfl, rfl⟩⟩

namespace World

/-- The links of a world, oldest first. -/
def links (w : World) : List Link := w.log.filterMap Event.link?

/-- The messages that went into a queue, oldest first. -/
def sent (w : World) (q : QueueId) : List Envelope := w.log.filterMap (Event.sent? q)

/-- The messages that came out of a queue, in the order in which they were taken. -/
def taken (w : World) (q : QueueId) : List Envelope := w.log.filterMap (Event.taken? q)

/-- A session that some link of the world was made with. -/
def Made (w : World) (s : Session) : Prop := ∃ l ∈ w.links, ∃ side, s = l.session side

/-- Links are numbered in their order, and only their sessions are attached to messaging mocks. -/
structure Linked (w : World) : Prop where
  numbers : w.links.map Link.number = List.range w.linkCount
  attached : ∀ m, ∀ p ∈ (w.messagings.get m).sessions, w.Made p.2

theorem Made.mono {w w' : World} {s : Session} (h : w.Made s) (grows : w.links <+: w'.links) :
    w'.Made s := by
  obtain ⟨l, hl, side, rfl⟩ := h
  exact ⟨l, grows.subset hl, side, rfl⟩

theorem Linked.empty : ({} : World).Linked where
  numbers := rfl
  attached := by
    intro m p hp
    exact absurd hp (by simp [Store.get, default])

/-- Of two links of a world with one number there is only one. -/
theorem Linked.unique {w : World} (h : w.Linked) {l l' : Link} (hl : l ∈ w.links)
    (hl' : l' ∈ w.links) (hn : l.number = l'.number) : l = l' := by
  have nodup : (w.links.map Link.number).Nodup := by
    rw [h.numbers]
    exact List.nodup_range
  exact List.inj_on_of_nodup_map nodup hl hl' hn

/-- A session that was made is known by its queue. -/
theorem Linked.session_unique {w : World} (h : w.Linked) {s s' : Session} (hs : w.Made s)
    (hs' : w.Made s') (hq : s.outbound = s'.outbound) : s = s' := by
  obtain ⟨l, hl, side, rfl⟩ := hs
  obtain ⟨l', hl', side', rfl⟩ := hs'
  have number : l.number = l'.number := by
    cases side <;> cases side' <;> exact congrArg QueueId.link hq
  have same : side = side' := by
    cases side <;> cases side' <;> first | rfl | exact congrArg QueueId.sender hq
  rw [h.unique hl hl' number, same]

/-! ## Actions that move no message -/

/-- From one world to the other no queue changed, nobody was called, and no message was logged. -/
structure Quiet (w w' : World) : Prop where
  queues : w'.queues = w.queues
  ready : w'.ready = w.ready
  links : w.links <+: w'.links
  sent : ∀ q, w'.sent q = w.sent q
  taken : ∀ q, w'.taken q = w.taken q
  linked : w.Linked → w'.Linked

namespace Quiet

theorem refl (w : World) : Quiet w w :=
  ⟨rfl, rfl, List.prefix_refl _, fun _ => rfl, fun _ => rfl, id⟩

theorem trans {w w' w'' : World} (h : Quiet w w') (h' : Quiet w' w'') : Quiet w w'' where
  queues := h'.queues.trans h.queues
  ready := h'.ready.trans h.ready
  links := h.links.trans h'.links
  sent q := (h'.sent q).trans (h.sent q)
  taken q := (h'.taken q).trans (h.taken q)
  linked hw := h'.linked (h.linked hw)

/-- What neither queues nor links nor the log know of may change. -/
theorem of_same {w w' : World} (queues : w'.queues = w.queues) (ready : w'.ready = w.ready)
    (log : w'.log = w.log) (count : w'.linkCount = w.linkCount)
    (sessions : ∀ m, (w'.messagings.get m).sessions = (w.messagings.get m).sessions) :
    Quiet w w' := by
  have links : w'.links = w.links := by rw [World.links, log, World.links]
  refine ⟨queues, ready, links ▸ List.prefix_refl _, fun q => by rw [World.sent, log, World.sent],
    fun q => by rw [World.taken, log, World.taken], fun h => ⟨?_, ?_⟩⟩
  · rw [links, count]
    exact h.numbers
  · intro m p hp
    rw [sessions] at hp
    exact (h.attached m p hp).mono (links ▸ List.prefix_refl _)

theorem note (w : World) {e : Event} (he : e.IsPlain) : Quiet w (w.note e) := by
  have links : (w.note e).links = w.links := by simp [World.links, World.note, he.1]
  refine ⟨rfl, rfl, links ▸ List.prefix_refl _, fun q => by simp [World.sent, World.note, he.2 q],
    fun q => by simp [World.taken, World.note, he.2 q], fun h => ⟨?_, ?_⟩⟩
  · rw [links]
    exact h.numbers
  · intro m p hp
    exact (h.attached m p hp).mono (links ▸ List.prefix_refl _)

end Quiet

end World

end Rehearsal
