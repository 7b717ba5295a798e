import Rehearsal.Proofs.Conservation
import Rehearsal.Proofs.World.Outcomes
import Rehearsal.Proofs.World.Transfers

/-!
# What is pending

What the observers of a link tell is what the link's history says: of each direction the messages
that were sent and that nobody has taken, in the order of sending, those of side `a` first. A
receive takes a message as soon as it finds one, whether or not the message is of the kind that it
asks for; a receive that is cancelled has taken none. Asking changes nothing but the log.
-/

namespace Rehearsal

namespace Transfer

/-- The payloads that were sent into a queue, oldest first. -/
def sentInto (ts : List Transfer) (q : QueueId) : List Payload :=
  (ts.filterMap (into? q)).map Prod.snd

/-- The payloads that were taken out of a queue, in that order. -/
def takenFrom (ts : List Transfer) (q : QueueId) : List Payload :=
  (ts.filterMap (outOf? q)).map Envelope.payload

/-- What was sent into a queue, without as many of the oldest as were taken. -/
def undelivered (ts : List Transfer) (q : QueueId) : List Payload :=
  (sentInto ts q).drop (takenFrom ts q).length

/-- The payloads that were sent over a link, those of side `a` first. -/
def sentOver (ts : List Transfer) (l : Link) : List Payload :=
  sentInto ts (l.queue .a) ++ sentInto ts (l.queue .b)

/-- The payloads that were taken on a link, those of side `a` first. -/
def takenOver (ts : List Transfer) (l : Link) : List Payload :=
  takenFrom ts (l.queue .a) ++ takenFrom ts (l.queue .b)

/-! A message that a session of a link sends or takes moves over this link, in one direction. -/

variable (l : Link) (side : Side) (p : Payload) (e : Envelope)

@[simp] theorem sentOver_sent : sentOver [.sent (l.session side) p] l = [p] := by
  cases side <;> simp [sentOver, sentInto, into?, Session.outbound, Link.session, Link.queue]

@[simp] theorem takenOver_sent : takenOver [.sent (l.session side) p] l = [] := by
  simp [takenOver, takenFrom, outOf?]

@[simp] theorem sentOver_taken : sentOver [.taken (l.session side) e] l = [] := by
  simp [sentOver, sentInto, into?]

@[simp] theorem takenOver_taken : takenOver [.taken (l.session side) e] l = [e.payload] := by
  cases side <;> simp [takenOver, takenFrom, outOf?, Session.inbound, Side.other, Link.session,
    Link.queue]

end Transfer

theorem payload_stamp (n : Nat) (ms : List (Member × Payload)) :
    (stamp n ms).map Envelope.payload = ms.map Prod.snd := by
  have same := congrArg (List.map Prod.snd) (content_stamp n ms)
  rwa [List.map_map] at same

/-- Whoever asserts that nothing is pending learns how much is, and of which kinds. -/
theorem Play.assertNonePending_apply (l : Link) (stage : Stage) :
    (Play.assertNonePending l stage).1 =
      if stage.world.pendingMessages l = 0 then .ok .nothing
      else .error (.assertion ((Error.unconsumedMessages (stage.world.pendingMessages l)).text ++
        ": " ++ Text.quotedList ((stage.world.pendingKinds l).map Kind.name))) := by
  rw [assertNonePending, bind_apply, act_apply, Act.attempt, Act.failIfPending_apply]
  by_cases nothing : stage.world.pendingMessages l = 0
  · rw [if_pos nothing, if_pos nothing]
    rfl
  · rw [if_neg nothing, if_neg nothing]
    rfl

/-- A receive comes to something if its look for a message does, and then to the message's value or
to a mismatch. -/
theorem Reception.look_keep (s : Session) (k : Kind) (me : Waiter) (w : World) :
    (keep s k).look me w = ((w.lookFor me s).1.map fun e =>
      (e.parcel.receive k).map fun v => .text (k.shown v), (w.lookFor me s).2) := by
  unfold look session
  rcases w.lookFor me s with ⟨_ | e, w'⟩
  · rfl
  · dsimp only [kind, Option.map_some]
    cases e.parcel.receive k <;> rfl

namespace World

open Transfer

variable {w w' : World} {ts : List Transfer} {l : Link}

/-! ## Balances -/

/-- However much was pending, what is sent is added and what is taken goes. -/
theorem Balanced.pendingMessages (h : Balanced w ts w') (l : Link) :
    w'.pendingMessages l + (takenOver ts l).length =
      w.pendingMessages l + (sentOver ts l).length := by
  have lengths : ∀ q, (takenFrom ts q).length + (w'.queue q).envelopes.length =
      (w.queue q).envelopes.length + (sentInto ts q).length := fun q => by
    have stamped := congrArg List.length (payload_stamp (w.queue q).nextSequence
      (ts.filterMap (into? q)))
    have conserved := congrArg List.length (h.conserved q)
    simp only [List.length_append, List.length_map] at stamped conserved
    simp only [takenFrom, sentInto, List.length_map]
    omega
  have a := lengths (l.queue .a)
  have b := lengths (l.queue .b)
  simp only [World.pendingMessages, takenOver, sentOver, List.length_append]
  omega

/-- Of what was sent into a queue, what was taken is the first, and what is left is the rest. -/
theorem Balanced.undelivered (h : Balanced {} ts w) (q : QueueId) :
    sentInto ts q = takenFrom ts q ++ (w.queue q).envelopes.map Envelope.payload ∧
      (w.queue q).envelopes.map Envelope.payload = undelivered ts q := by
  have all : sentInto ts q = takenFrom ts q ++ (w.queue q).envelopes.map Envelope.payload := by
    have conserved := congrArg (List.map Envelope.payload) (h.conserved q)
    rw [List.map_append, List.map_append, payload_stamp] at conserved
    exact conserved.symm
  refine ⟨all, ?_⟩
  rw [Transfer.undelivered, all, List.drop_left]

/-! ## What the observers tell -/

/-- Every message that was sent over a link was taken. -/
def AllTaken (ts : List Transfer) (l : Link) : Prop :=
  ∀ side, takenFrom ts (l.queue side) = sentInto ts (l.queue side)

/-- The observers of a link tell what these transfers left. -/
structure Diagnosed (ts : List Transfer) (w : World) (l : Link) : Prop where
  /-- Messages are taken in the order in which they were sent. -/
  sent : ∀ side, sentInto ts (l.queue side) =
    takenFrom ts (l.queue side) ++ undelivered ts (l.queue side)
  pendingMessages : w.pendingMessages l + (takenOver ts l).length = (sentOver ts l).length
  pendingTypes : (w.pendingKinds l).map Kind.name =
    (undelivered ts (l.queue .a) ++ undelivered ts (l.queue .b)).map fun p => p.kind.name
  lengthTypes : (w.pendingKinds l).length = w.pendingMessages l
  /-- A side is told of what the other side sent. -/
  pendingInbound : ∀ side, w.pendingInbound (l.session side) =
    (undelivered ts (l.queue side.other)).length
  shares : w.pendingInbound (l.session .a) + w.pendingInbound (l.session .b) = w.pendingMessages l
  passes : AllTaken ts l → (Act.failIfPending l w).1 = .ok () ∧
    ∀ stage : Stage, stage.world = w → (Play.assertNonePending l stage).1 = .ok .nothing
  /-- The error counts what is pending, and the assertion names the kinds besides. -/
  fails : ¬ AllTaken ts l →
    (Act.failIfPending l w).1 = .error (.unconsumedMessages (w.pendingMessages l)) ∧
    ∀ stage : Stage, stage.world = w → (Play.assertNonePending l stage).1 =
      .error (.assertion ((Error.unconsumedMessages (w.pendingMessages l)).text ++ ": " ++
        Text.quotedList ((w.pendingKinds l).map Kind.name)))

/-- The kinds of a queue are those of the values that it holds, since all of them were packed. -/
theorem Balanced.kinds_eq (h : Balanced {} ts w) (q : QueueId) :
    (w.queue q).kinds = ((w.queue q).envelopes.map Envelope.payload).map Payload.kind := by
  rw [List.map_map]
  refine List.map_congr_left fun e queued => ?_
  rw [h.packed queued]
  rfl

theorem length_pendingKinds (w : World) (l : Link) :
    (w.pendingKinds l).length = w.pendingMessages l := by
  simp [pendingKinds, World.pendingMessages, Queue.kinds]

/-- Nothing is pending just when everything was taken. -/
theorem Balanced.pendingMessages_eq_zero (h : Balanced {} ts w) :
    w.pendingMessages l = 0 ↔ AllTaken ts l := by
  have side : ∀ q, (w.queue q).envelopes = [] ↔ takenFrom ts q = sentInto ts q := fun q => by
    rw [(h.undelivered q).1, List.self_eq_append_right, List.map_eq_nil_iff]
  rw [World.pendingMessages, Nat.add_eq_zero_iff, List.length_eq_zero_iff, List.length_eq_zero_iff,
    side, side]
  constructor
  · rintro ⟨forth, back⟩ s
    cases s with
    | a => exact forth
    | b => exact back
  · intro all
    exact ⟨all .a, all .b⟩

/-- **The observers are exact** after any transfers. -/
theorem Balanced.diagnosed (h : Balanced {} ts w) (l : Link) : Diagnosed ts w l where
  sent side := by
    rw [← (h.undelivered _).2]
    exact (h.undelivered _).1
  pendingMessages := (h.pendingMessages l).trans (Nat.zero_add _)
  pendingTypes := by
    rw [pendingKinds, h.kinds_eq, h.kinds_eq, (h.undelivered _).2, (h.undelivered _).2,
      ← List.map_append, List.map_map]
    rfl
  lengthTypes := w.length_pendingKinds l
  pendingInbound side := by
    rw [← (h.undelivered _).2, List.length_map]
    cases side <;> rfl
  shares := Nat.add_comm _ _
  passes all := by
    have nothing := h.pendingMessages_eq_zero.mpr all
    refine ⟨by rw [Act.failIfPending_apply, if_pos nothing], ?_⟩
    rintro stage rfl
    rw [Play.assertNonePending_apply, if_pos nothing]
  fails lacking := by
    have pending := mt h.pendingMessages_eq_zero.mp lacking
    refine ⟨by rw [Act.failIfPending_apply, if_neg pending], ?_⟩
    rintro stage rfl
    rw [Play.assertNonePending_apply, if_neg pending]

/-- Which payloads were sent and taken is what the log tells. -/
theorem Exchange.payloads (history : Exchange {} ts w) (q : QueueId) :
    (w.sent q).map Envelope.payload = sentInto ts q ∧
      (w.taken q).map Envelope.payload = takenFrom ts q := by
  have sent : w.sent q = stamp 0 (ts.filterMap (into? q)) := history.sent q
  have taken : w.taken q = ts.filterMap (outOf? q) := history.taken q
  rw [sent, taken, payload_stamp]
  exact ⟨rfl, rfl⟩

/-! ## How sends and receives count -/

/-- How the number of pending messages of a link goes on. -/
structure Counts (w : World) (l : Link) : Prop where
  send : ∀ side p, (w.send (l.session side) p).pendingMessages l = w.pendingMessages l + 1
  /-- A receive that finds a message takes it, however the receive ends. -/
  receive : ∀ side me k result w',
    (Reception.keep (l.session side) k).look me w = (some result, w') →
      w'.pendingMessages l + 1 = w.pendingMessages l
  /-- It ends with an error if the message is of another kind. -/
  mismatch : ∀ side me k e rest, (w.queue (l.session side).inbound).envelopes = e :: rest →
    e.parcel.tag ≠ k → ((Reception.keep (l.session side) k).look me w).1 =
      some (.error (.unexpectedMessageType k.name e.parcel.tag.name))
  /-- A receive waits for a message if there is none, and only then. -/
  wait : ∀ side me k, ((Reception.keep (l.session side) k).look me w).1 = none ↔
    w.pendingInbound (l.session side) = 0
  waiting : ∀ side me k w', (Reception.keep (l.session side) k).look me w = (none, w') →
    w'.pendingMessages l = w.pendingMessages l
  /-- Nor does it count that a receive begins, or that it goes on where a message was sent. -/
  begin : ∀ side k, (w.awaitMessage (l.session side) k).pendingMessages l = w.pendingMessages l
  resume : ∀ side me, (w.answerCall me (l.session side)).pendingMessages l = w.pendingMessages l
  /-- A receive that is cancelled takes nothing. -/
  cancel : ∀ side me, (w.withdraw me (l.session side)).pendingMessages l = w.pendingMessages l

theorem Still.pendingMessages (h : w.Still w') (l : Link) :
    w'.pendingMessages l = w.pendingMessages l := by
  rw [World.pendingMessages, h.envelopes, h.envelopes, World.pendingMessages]

/-- **Every step counts** as it should, in any world. -/
theorem counts (w : World) (l : Link) : w.Counts l where
  send side p := by
    simpa using (Balanced.send w (l.session side) p).pendingMessages l
  receive side me k result w' found := by
    rw [Reception.look_keep] at found
    rcases looked : w.lookFor me (l.session side) with ⟨_ | e, w''⟩
    · rw [looked] at found
      cases found
    · rw [looked] at found
      cases found
      simpa using (Balanced.take looked).pendingMessages l
  mismatch side me k e rest queued other := by
    rw [Reception.look_keep, lookFor_head, queued]
    simp [Parcel.receive, Parcel.expectKind, Parcel.unexpected, other, bind, Except.bind,
      Except.map]
  wait side me k := by
    rw [Reception.look_keep, lookFor_head]
    simp [pendingInbound]
  waiting side me k w' missed := by
    rw [Reception.look_keep] at missed
    rcases looked : w.lookFor me (l.session side) with ⟨_ | e, w''⟩
    · rw [looked] at missed
      cases missed
      exact (still_of_lookFor_none looked).pendingMessages l
    · rw [looked] at missed
      cases missed
  begin side k := ((Reception.keep (l.session side) k).quiet_start w).still.pendingMessages l
  resume side me := (still_answerCall w me (l.session side)).pendingMessages l
  cancel side me := (still_withdraw w me (l.session side)).pendingMessages l

end World

/-! ## Asking -/

/-- Only the log of the world has grown. -/
def Stage.Logged (stage stage' : Stage) : Prop :=
  ∃ events, stage' = { stage with world := { stage.world with log := stage.world.log ++ events } }

theorem Stage.Logged.refl (stage : Stage) : stage.Logged stage := ⟨[], by simp⟩

theorem Stage.Logged.trans (stage stage' stage'' : Stage) (h : stage.Logged stage')
    (h' : stage'.Logged stage'') : stage.Logged stage'' := by
  obtain ⟨events, rfl⟩ := h
  obtain ⟨more, rfl⟩ := h'
  exact ⟨events ++ more, by simp⟩

/-- The commands that ask about a link or about one of its sessions. -/
def Command.AsksOfLink : Command → Prop
  | describeLink _ | assertNonePending _ | describeSession _ => True
  | _ => False

namespace Play

theorem logged_resolve {α : Type} (names : Stage → Names α) (name : String) :
    Keeps Stage.Logged (resolve names name) := by
  intro stage
  rw [resolve_apply]
  cases (names stage).lookup name <;> exact .refl stage

theorem logged_failIfPending (l : Link) :
    Keeps Stage.Logged (act (Act.attempt (Act.failIfPending l))) := by
  intro stage
  rw [act_apply]
  show stage.Logged { stage with world := (Act.failIfPending l stage.world).2 }
  rw [Act.failIfPending_apply]
  split
  · exact .refl stage
  · exact ⟨_, rfl⟩

theorem logged_describeLink (l : Link) : Keeps Stage.Logged (describeLink l) :=
  keeps_get fun _ => keeps_bind Stage.Logged.trans (logged_failIfPending l)
    fun _ => keeps_pure .refl _

theorem logged_assertNonePending (l : Link) : Keeps Stage.Logged (assertNonePending l) := by
  refine keeps_bind Stage.Logged.trans (logged_failIfPending l) fun result => ?_
  cases result with
  | ok => exact keeps_pure .refl _
  | error e => exact keeps_get fun _ => keeps_throw .refl _

end Play

/-- **Asking** of a link changes nothing but the log. -/
theorem Command.AsksOfLink.logged {c : Command} (asks : c.AsksOfLink) (me : Waiter) :
    Keeps Stage.Logged (c.run me) := by
  cases c with
  | describeLink name =>
    exact keeps_bind Stage.Logged.trans (Play.logged_resolve _ _) Play.logged_describeLink
  | assertNonePending name =>
    exact keeps_bind Stage.Logged.trans (Play.logged_resolve _ _) Play.logged_assertNonePending
  | describeSession name =>
    exact keeps_bind Stage.Logged.trans (Play.logged_resolve _ _) fun s =>
      keeps_get fun _ => keeps_pure .refl _
  | _ => cases asks

/-- **Pending messages.** After every row of operations, and in every reached run, the observers of
every link tell exactly what was sent and not taken. Each send counts as one message sent, and each
receive that finds a message, of whatever kind, as one taken; a receive that is cancelled does not
count. Whoever asks changes nothing but the log. -/
theorem World.pending_exact :
    (∀ ops w, ({} : World).Undergoes ops w →
      ∀ l, Diagnosed (({} : World).told Operation.transfers ops) w l) ∧
    (∀ r : Run, r.Reached → ∃ ts, Exchange {} ts r.stage.world ∧
      (∀ q, (r.stage.world.sent q).map Envelope.payload = Transfer.sentInto ts q ∧
        (r.stage.world.taken q).map Envelope.payload = Transfer.takenFrom ts q) ∧
      ∀ l, Diagnosed ts r.stage.world l) ∧
    (∀ (w : World) l, w.Counts l) ∧
    ∀ c : Command, c.AsksOfLink → ∀ me (stage : Stage), stage.Logged (c.run me stage).2 := by
  refine ⟨fun ops w h => h.carries.balanced.diagnosed, fun r reached => ?_, counts,
    fun c asks => asks.logged⟩
  obtain ⟨ts, exchange⟩ := reached.exchange
  exact ⟨ts, exchange, exchange.payloads, exchange.balanced.diagnosed⟩

/-- Alice sends two messages. Bob takes the first, whatever he asks for, and sends one. Alice takes
it and waits for another, but gives up: one message is left. -/
def World.leftover (alice bob : Member) : List Operation :=
  [.linkMembers alice bob, .send ⟨0, .a, alice, bob⟩ ⟨.unit, ()⟩,
    .send ⟨0, .a, alice, bob⟩ ⟨.bool, true⟩, .look 1 ⟨0, .b, bob, alice⟩,
    .send ⟨0, .b, bob, alice⟩ ⟨.bool, false⟩, .look 0 ⟨0, .a, alice, bob⟩,
    .await ⟨0, .a, alice, bob⟩ .unit, .look 0 ⟨0, .a, alice, bob⟩,
    .withdraw 0 ⟨0, .a, alice, bob⟩]

theorem World.pending_exact_leftover : ∃ alice bob w,
    ({} : World).Undergoes (leftover alice bob) w ∧
    w.pendingMessages ⟨0, alice, bob⟩ = 1 ∧
    (w.pendingKinds ⟨0, alice, bob⟩).map Kind.name = [Kind.bool.name] ∧
    w.pendingInbound ⟨0, .b, bob, alice⟩ = 1 ∧ w.pendingInbound ⟨0, .a, alice, bob⟩ = 0 ∧
    (Act.failIfPending ⟨0, alice, bob⟩ w).1 = .error (.unconsumedMessages 1) := by
  let alice : Member := ⟨none, none, "Alice", "Oslo", none, "NO"⟩
  let bob : Member := ⟨none, none, "Bob", "Bonn", none, "DE"⟩
  obtain ⟨w, undergoes⟩ : ∃ w, ({} : World).Undergoes (leftover alice bob) w :=
    ⟨_, .next trivial (.next trivial (.next trivial (.next trivial (.next trivial (.next trivial
      (.next trivial (.next trivial (.next trivial .nothing))))))))⟩
  let ts := ({} : World).told Operation.transfers (leftover alice bob)
  let l : Link := ⟨0, alice, bob⟩
  have taken : (Transfer.takenOver ts l).length = 2 := by decide +kernel
  have sent : (Transfer.sentOver ts l).length = 3 := by decide +kernel
  have fromAlice : (Transfer.undelivered ts (l.queue .a)).map (fun p => p.kind.name) =
      [Kind.bool.name] := by decide +kernel
  have fromBob : Transfer.undelivered ts (l.queue .b) = [] :=
    List.length_eq_zero_iff.mp (by decide +kernel)
  have told := World.pending_exact.1 _ _ undergoes l
  have one : w.pendingMessages l = 1 := by
    have count := told.pendingMessages
    rw [taken, sent] at count
    omega
  have lacking : ¬ AllTaken ts l := fun all =>
    absurd (congrArg List.length (all .a)) (by decide +kernel)
  refine ⟨alice, bob, w, undergoes, one, ?_, ?_, ?_, ?_⟩
  · rw [told.pendingTypes, fromBob, List.append_nil, fromAlice]
  · have inbound := told.pendingInbound .b
    have length := congrArg List.length fromAlice
    rw [List.length_map] at length
    exact inbound.trans length
  · exact (told.pendingInbound .a).trans (congrArg List.length fromBob)
  · rw [(told.fails lacking).1, one]

end Rehearsal
