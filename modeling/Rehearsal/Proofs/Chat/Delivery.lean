import Rehearsal.Proofs.Chat.Runs
import Rehearsal.Proofs.Composition

/-!
# Chat delivery

Runs of the chat flows one after the other, on a link between two registries, deliver every message:
each run is a success and leaves nothing on the link, and the records of both sides grow by one for
each run, in order. This holds for any texts, for any spelling of the recipient, for either order of
the participants, and with either side asleep at first.
-/

namespace Rehearsal

variable {stage : Stage}

/-- What the stores of a reached stage hold as chat records are chat records. -/
theorem Stage.Reached.legible (h : stage.Reached) : stage.world.Legible :=
  (Run.Reached.follows h).world.legible fun _ => .empty

theorem Stage.Reached.owned (h : stage.Reached) : stage.world.Owned :=
  ((Run.Reached.follows h).world.retains .empty).1

namespace Chat

variable {c : Couple} {l : Link} {first : Stage} {past : List String}

/-- What it means that messages were delivered since some moment: the couple is joined as before,
with nothing on the link, and both sides have recorded these messages in their order. -/
structure Couple.Delivered (c : Couple) (l : Link) (messages : List String) (before after : World) :
    Prop where
  joined : c.Joined l after
  incoming : ∃ records : List Record,
    Act.findAll c.incoming.persistence .chatRecord before = (.ok records, before) ∧
    Act.findAll c.incoming.persistence .chatRecord after =
      (.ok (records ++ messages.map c.incomingRecord), after)
  outgoing : ∃ records : List Record,
    Act.findAll c.outgoing.persistence .chatRecord before = (.ok records, before) ∧
    Act.findAll c.outgoing.persistence .chatRecord after =
      (.ok (records ++ messages.map c.outgoingRecord), after)
  initiated : (after.messagings.get c.outgoing.messaging).initiated =
    (before.messagings.get c.outgoing.messaging).initiated ++
      List.replicate messages.length c.peer

/-- What was recorded since some moment is found behind what was there before. -/
theorem findAll_of_append {m : MockId} {before after : World} {records : List Record}
    (legible : before.Legible)
    (more : (after.persistences.get m).entities = (before.persistences.get m).entities ++
      records.map fun r => (.chatRecord, r.toJson)) : ∃ old : List Record,
    Act.findAll m .chatRecord before = (.ok old, before) ∧
      Act.findAll m .chatRecord after = (.ok (old ++ records), after) := by
  obtain ⟨old, -, found⟩ := (legible m).findAll
  have found' := Persistence.findAll_append (legible m) found more
  refine ⟨old, ?_, ?_⟩
  · rw [Act.findAll, ask_apply, found]
    rfl
  · rw [Act.findAll, ask_apply, found']
    rfl

theorem Couple.Stands.delivered {recorded : List String} (h : c.Stands l first recorded [] stage)
    (joined : c.Joined l first.world) (legible : first.world.Legible) :
    c.Delivered l recorded first.world stage.world := by
  have outgoing := h.along.outgoing
  have initiated := h.along.initiated
  rw [List.append_nil] at outgoing initiated
  exact ⟨h.along.joined joined, findAll_of_append legible h.along.incoming,
    findAll_of_append legible outgoing, initiated⟩

variable [Clock]

/-- One run of the chat flows as a step. -/
theorem Round.Fits.comes {round : Round} (fits : round.Fits c l first) (reached : stage.Reached)
    (joined : c.Joined l first.world) (apart : c.outgoing.persistence ≠ c.incoming.persistence)
    (stands : c.Stands l first past [] stage) {outcome : Outcome} {next : Stage}
    (comes : round.step.Comes stage outcome next) :
    (∃ shown d, outcome = .driven shown d ∧ d.result = .ok ()) ∧
      c.Stands l first (past ++ [round.message]) [] next := by
  rw [Round.step] at comes
  cases comes with
  | tooFew few => exact absurd few (Nat.not_lt.mpr (Nat.le_of_eq round.length_participants.symm))
  | driven enough atEnd =>
    obtain ⟨result, after⟩ := fits.concluded reached joined apart stands atEnd
    exact ⟨⟨_, _, rfl, result⟩, after⟩

/-- Runs of the chat flows one after the other. -/
theorem Couple.Stands.performs {rounds : List Round} (stands : c.Stands l first past [] stage)
    (joined : c.Joined l first.world) (apart : c.outgoing.persistence ≠ c.incoming.persistence)
    (fits : ∀ round ∈ rounds, round.Fits c l first) (reached : stage.Reached)
    {answers : List (Outcome × List LogLine)} {last : Stage}
    (performs : Performs stage (rounds.map Round.step) answers last) :
    (∀ answer ∈ answers, ∃ shown d, answer.1 = .driven shown d ∧ d.result = .ok ()) ∧
      c.Stands l first (past ++ rounds.map (·.message)) [] last := by
  induction rounds generalizing past stage answers with
  | nil =>
    cases performs
    exact ⟨by simp, by simpa using stands⟩
  | cons round rounds ih =>
    cases performs with
    | step comes others =>
      obtain ⟨result, after⟩ :=
        (fits round (List.mem_cons_self ..)).comes reached joined apart stands comes
      obtain ⟨results, atLast⟩ := ih after
        (fun round hr => fits round (List.mem_cons_of_mem _ hr)) (comes.reached reached) others
      refine ⟨List.forall_mem_cons.mpr ⟨result, results⟩, ?_⟩
      simpa using atLast

end Chat

section
variable [Clock]

/-- The first steps and the other ones. -/
theorem Performs.split {steps : List Step} {answers : List (Outcome × List LogLine)} {last : Stage}
    (performs : Performs stage steps answers last) (k : Nat) : ∃ mid,
      Performs stage (steps.take k) (answers.take k) mid ∧
        Performs mid (steps.drop k) (answers.drop k) last := by
  induction performs generalizing k with
  | nothing => exact ⟨_, by simpa using .nothing, by simpa using .nothing⟩
  | step comes others ih =>
    cases k with
    | zero => exact ⟨_, .nothing, .step comes others⟩
    | succ k =>
      obtain ⟨mid, first, rest⟩ := ih k
      exact ⟨mid, .step comes first, rest⟩

/-- **Chat delivery.** The flows of two registries that have what they need run on their mocks, and
linking the registries gives a link with nothing on it. On every such link that the initiator got
last for the responder, any runs of the two flows one after the other, in any order of turns, are
all successes. After each run nothing is left on the link, the records of both sides are those from
before and one for each run in order, and the initiator asked for one session with the responder
for each run. -/
theorem Stage.Reached.chat_delivered (h : stage.Reached) {c : Chat.Couple}
    (engaged : c.Engaged stage.world) :
    (Act.createFlow c.initiator Chat.OutgoingFlow.blueprint stage.world).1 = .ok c.outgoing ∧
    (Act.createFlow c.responder Chat.IncomingFlow.blueprint stage.world).1 = .ok c.incoming ∧
    (∃ l w, Act.linkRegistries c.initiator c.responder stage.world = (.ok l, w) ∧ c.Joined l w) ∧
    ∀ l, c.Joined l stage.world → ∀ rounds : List Chat.Round,
      (∀ round ∈ rounds, round.Fits c l stage) →
      (∃ last, Performs stage (rounds.map Chat.Round.step)
        (runSteps stage (rounds.map Chat.Round.step)) last) ∧
      ∀ answers last, Performs stage (rounds.map Chat.Round.step) answers last →
        (∀ answer ∈ answers, ∃ shown d, answer.1 = .driven shown d ∧ d.result = .ok ()) ∧
        c.Delivered l (rounds.map (·.message)) stage.world last.world ∧
        ∀ k, ∃ mid, Performs stage ((rounds.take k).map Chat.Round.step) (answers.take k) mid ∧
          Performs mid ((rounds.drop k).map Chat.Round.step) (answers.drop k) last ∧
          c.Delivered l ((rounds.take k).map (·.message)) stage.world mid.world := by
  have apart := engaged.stores_apart h.owned
  obtain ⟨ts, exchange⟩ := Run.Reached.exchange h
  refine ⟨engaged.createFlow_outgoing, engaged.createFlow_incoming,
    engaged.joined_of_linkRegistries h.owned exchange, fun l joined rounds fits => ?_⟩
  have stands : c.Stands l stage [] [] stage := ⟨rfl, rfl, joined.along⟩
  refine ⟨h.performs _, fun answers last performs => ?_⟩
  obtain ⟨results, after⟩ := stands.performs joined apart fits h performs
  refine ⟨results, after.delivered joined h.legible, fun k => ?_⟩
  -- The first runs are runs of the two flows, too.
  obtain ⟨mid, earlier, later⟩ := performs.split k
  rw [← List.map_take] at earlier
  rw [← List.map_drop] at later
  obtain ⟨-, there⟩ := stands.performs joined apart
    (fun round hr => fits round (List.mem_of_mem_take hr)) h earlier
  exact ⟨mid, earlier, later, there.delivered joined h.legible⟩

end

attribute [local instance] Clock.usual

/-- Two registries with a link between them, and a chat flow of each. -/
def Stage.chatting : Stage :=
  (Run.prepared [
    .buildRegistry "alice" "Alice" [.engine, .messaging, .marshalling, .persistence]
      (some "O=Alice, L=Oslo, C=NO"),
    .buildRegistry "bob" "Bob" [.engine, .persistence] (some "O=Bob, L=Bonn, C=DE"),
    .linkRegistries "link" "alice" "bob", .takeSession "link" .b "session",
    .createFlow "alice" .outgoing (some "outgoing"),
    .createFlow "bob" .incoming (some "incoming")]).stage

/-- Alice writes to Bob. -/
def Chat.Couple.neighbours : Chat.Couple where
  initiator := 0
  responder := 1
  own := ⟨none, none, "Alice", "Oslo", none, "NO"⟩
  peer := ⟨none, none, "Bob", "Bonn", none, "DE"⟩
  outgoing := ⟨1, 2, 0, 3⟩
  incoming := ⟨4, 5⟩

/-- A run in which Bob waits for Alice, and one in which Alice comes first and Bob sleeps. -/
def Chat.Round.pair : List Chat.Round :=
  [⟨"c=DE,l = Bonn, o=Bob", "\"hi\"\n", some .fast, false, some 20, none, "alice", "bob",
      "outgoing", "incoming", "session"⟩,
    ⟨"O=Bob, L=Bonn, C=DE", "\u0001\\ é", none, true, none, some 30, "alice", "bob", "outgoing",
      "incoming", "session"⟩]

theorem Chat.Couple.engaged_neighbours :
    Chat.Couple.neighbours.Engaged Stage.chatting.world := by
  constructor <;> first | decide +kernel | rfl

theorem Chat.Couple.joined_neighbours :
    Chat.Couple.neighbours.Joined ⟨0, neighbours.own, neighbours.peer⟩ Stage.chatting.world := by
  refine ⟨engaged_neighbours, rfl, rfl, ?_, ?_⟩
  · decide +kernel
  · decide +kernel

theorem Chat.Round.fits_pair : ∀ round ∈ pair, round.Fits Couple.neighbours
    ⟨0, Couple.neighbours.own, Couple.neighbours.peer⟩ Stage.chatting := by
  intro round hr
  simp only [pair, List.mem_cons, List.not_mem_nil, or_false] at hr
  rcases hr with rfl | rfl
  all_goals
    constructor
    · rfl
    all_goals decide +kernel

theorem Stage.chat_delivered_pair :
    Stage.chatting.Reached ∧ Chat.Couple.neighbours.Engaged Stage.chatting.world ∧
      ∃ last, Performs Stage.chatting (Chat.Round.pair.map Chat.Round.step)
          (runSteps Stage.chatting (Chat.Round.pair.map Chat.Round.step)) last ∧
        last.world.pendingMessages
          ⟨0, Chat.Couple.neighbours.own, Chat.Couple.neighbours.peer⟩ = 0 ∧
        Act.findAll 5 .chatRecord last.world = (.ok [
          ⟨.incoming, "O=Bob, L=Bonn, C=DE", "O=Alice, L=Oslo, C=NO", "\"hi\"\n"⟩,
          ⟨.incoming, "O=Bob, L=Bonn, C=DE", "O=Alice, L=Oslo, C=NO", "\u0001\\ é"⟩],
          last.world) := by
  have reached : Stage.chatting.Reached := .prepared _
  obtain ⟨-, -, -, delivered⟩ := reached.chat_delivered Chat.Couple.engaged_neighbours
  obtain ⟨⟨last, performs⟩, each⟩ :=
    delivered _ Chat.Couple.joined_neighbours Chat.Round.pair Chat.Round.fits_pair
  obtain ⟨-, ⟨joined, ⟨records, before, after⟩, -, -⟩, -⟩ := each _ last performs
  refine ⟨reached, Chat.Couple.engaged_neighbours, last, performs, joined.silent, ?_⟩
  -- Nothing was recorded before.
  have none : records = [] := by
    have found : Act.findAll 5 .chatRecord Stage.chatting.world = (.ok [], Stage.chatting.world) :=
      rfl
    have same := before.symm.trans found
    cases same
    rfl
  rw [none] at after
  exact after

end Rehearsal
