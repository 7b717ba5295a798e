import Rehearsal.Proofs.Drive.Histories

/-!
# Conservation of messages

Whatever happens, and in whatever order, no message is lost, doubled, reordered or led astray: of
each direction of each link, what was taken and what is left together are what was sent, in the
order of sending.
-/

namespace Rehearsal

namespace Link

@[simp] theorem outbound_session (l : Link) (side : Side) :
    (l.session side).outbound = l.queue side := by
  cases side <;> rfl

@[simp] theorem inbound_session (l : Link) (side : Side) :
    (l.session side.other).inbound = l.queue side := by
  cases side <;> rfl

/-- The messages that these payloads become when a side of a link sends them, one after the other
and before any others. -/
def stamped (l : Link) (side : Side) (payloads : List Payload) : List Envelope :=
  stamp 0 (payloads.map fun p => ((l.session side).owner, p))

/-- The messages of a direction are numbered from zero on without gaps. -/
theorem sequence_stamped (l : Link) (side : Side) (payloads : List Payload) :
    (l.stamped side payloads).map Envelope.sequence = List.range payloads.length := by
  rw [stamped, sequence_stamp, List.length_map, List.range_eq_range']

/-- The messages of a direction carry the owner of the sending session, and the payloads. -/
theorem content_stamped (l : Link) (side : Side) (payloads : List Payload) :
    (l.stamped side payloads).map (fun e => (e.sender, e.payload)) =
      payloads.map fun p => ((l.session side).owner, p) := by
  rw [stamped, content_stamp]

end Link

namespace World

variable {w : World} {l : Link}

/-- Only one session of the links sends into this queue. -/
theorem Linked.into_eq (h : w.Linked) (hl : l ∈ w.links) (side : Side) {t : Transfer}
    (made : w.Made t.session) : t.into? (l.queue side) =
      (t.sentBy? (l.session side)).map fun p => ((l.session side).owner, p) := by
  cases t with
  | taken => rfl
  | sent s p =>
    simp only [Transfer.into?, Transfer.sentBy?]
    by_cases same : s = l.session side
    · subst same
      simp
    · have apart : s.outbound ≠ l.queue side := fun hq =>
        same (h.session_unique made ⟨l, hl, side, rfl⟩ (by rw [hq, l.outbound_session]))
      rw [if_neg same, if_neg apart]
      rfl

/-- Only one session of the links takes out of this queue. -/
theorem Linked.outOf_eq (h : w.Linked) (hl : l ∈ w.links) (side : Side) {t : Transfer}
    (made : w.Made t.session) : t.outOf? (l.queue side) =
      t.takenBy? (l.session side.other) := by
  cases t with
  | sent => rfl
  | taken s e =>
    simp only [Transfer.outOf?, Transfer.takenBy?]
    by_cases same : s = l.session side.other
    · subst same
      simp
    · have apart : s.inbound ≠ l.queue side := by
        intro hq
        refine same (h.session_unique made ⟨l, hl, side.other, rfl⟩ ?_)
        rw [← l.inbound_session side] at hq
        have link := congrArg QueueId.link hq
        have sender := congrArg (fun q => q.sender.other) hq
        simp only [Session.inbound, Side.other_other] at link sender
        rw [Session.outbound, Session.outbound, link, sender]
      rw [if_neg same, if_neg apart]

/-- What became of one direction of a link in an exchange that began with nothing. -/
structure Conserved (ts : List Transfer) (w : World) (l : Link) (side : Side) : Prop where
  /-- What was taken and what is left are what was sent. -/
  balance : ts.filterMap (Transfer.takenBy? (l.session side.other)) ++
    (w.queue (l.queue side)).envelopes =
      l.stamped side (ts.filterMap (Transfer.sentBy? (l.session side)))
  /-- The log tells all that was sent. -/
  sent : w.sent (l.queue side) = l.stamped side (ts.filterMap (Transfer.sentBy? (l.session side)))
  /-- The log tells all that was taken. -/
  taken : w.taken (l.queue side) = ts.filterMap (Transfer.takenBy? (l.session side.other))

/-- An exchange that began with nothing conserves the messages of every direction of every link. -/
theorem Exchange.conserves {ts : List Transfer} (exchange : Exchange {} ts w) (hl : l ∈ w.links)
    (side : Side) : Conserved ts w l side := by
  have linked := exchange.linked .empty
  have sent : ts.filterMap (Transfer.into? (l.queue side)) =
      (ts.filterMap (Transfer.sentBy? (l.session side))).map
        fun p => ((l.session side).owner, p) := by
    rw [List.map_filterMap]
    exact List.filterMap_congr fun t ht => linked.into_eq hl side (exchange.made t ht)
  have taken : ts.filterMap (Transfer.outOf? (l.queue side)) =
      ts.filterMap (Transfer.takenBy? (l.session side.other)) :=
    List.filterMap_congr fun t ht => linked.outOf_eq hl side (exchange.made t ht)
  refine ⟨?_, ?_, ?_⟩
  · have balance := exchange.conserved (l.queue side)
    rw [taken, sent] at balance
    exact balance
  · have told := exchange.sent (l.queue side)
    rw [sent] at told
    exact told
  · have told := exchange.taken (l.queue side)
    rw [taken] at told
    exact told

end World

/-- **Conservation.** A reached world came of its transfers alone, all of them through sessions of
its links, and each direction of each link has conserved its messages. Whoever is dropped, in a wait
or anywhere else, takes nothing along. -/
theorem Run.Reached.messages_conserved {r : Run} (h : r.Reached) :
    ∃ ts, World.Exchange {} ts r.stage.world ∧
      (∀ t ∈ ts, r.stage.world.Made t.session) ∧
      (r.stage.world.links.map Link.number).Nodup ∧
      (∀ l ∈ r.stage.world.links, ∀ side, World.Conserved ts r.stage.world l side) ∧
      ∀ i result, r.stage.world.Still (r.drop i result).stage.world := by
  obtain ⟨ts, exchange⟩ := h.exchange
  have linked := exchange.linked .empty
  refine ⟨ts, exchange, exchange.made, ?_, fun l hl side => exchange.conserves hl side,
    fun i result => Run.still_drop r i result⟩
  rw [linked.numbers]
  exact List.nodup_range

/-- Alice takes the first of two messages from Bob for a text, which it is not, and fails. -/
def Run.mistaken : Run :=
  (Run.start [⟨"alice", [⟨.receive "alice" .text, false⟩]⟩,
    ⟨"bob", [⟨.command (.send "bob" ⟨.bool, true⟩), false⟩,
      ⟨.command (.send "bob" ⟨.unit, ()⟩), false⟩]⟩] Stage.pair).drain 3

theorem Run.messages_conserved_mistaken :
    Run.mistaken.Reached ∧ Run.mistaken.ready = [] ∧
      (Run.mistaken.stage.world.taken ⟨0, .b⟩).map Envelope.sequence = [0] ∧
      (Run.mistaken.stage.world.queue ⟨0, .b⟩).envelopes.map Envelope.sequence = [1] ∧
      ∃ ts, World.Exchange {} ts Run.mistaken.stage.world ∧
        ∀ l ∈ Run.mistaken.stage.world.links, ∀ side,
          World.Conserved ts Run.mistaken.stage.world l side := by
  have reached : Run.mistaken.Reached := (Stage.Reached.pair.start _).drain 3
  obtain ⟨ts, exchange, -, -, conserved, -⟩ := reached.messages_conserved
  exact ⟨reached, by decide +kernel, by decide +kernel, by decide +kernel, ts, exchange, conserved⟩

end Rehearsal
