import Rehearsal.Proofs.World.Operations
import Rehearsal.Proofs.World.Outcomes

/-!
# Which operations concern mocks

Most operations leave all mocks as they are. Those that are calls of a mock change that mock, and
linking two registries changes the sessions of their messaging mocks; each kind of mock is changed
by its own calls only.
-/

namespace Rehearsal

namespace World

variable {w w' w'' : World}

/-- All mocks of two worlds are the same. -/
structure SameMocks (w w' : World) : Prop where
  engines : w'.engines = w.engines
  messagings : w'.messagings = w.messagings
  marshallings : w'.marshallings = w.marshallings
  persistences : w'.persistences = w.persistences

theorem sameMocks_of_registers (h : Act.Registers w w') : w.SameMocks w' := by
  obtain ⟨registries, mockCount, log, rfl⟩ := h
  exact ⟨rfl, rfl, rfl, rfl⟩

end World

namespace Messaging

/-- Attached sessions come in front, the latest first. -/
theorem sessions_foldl_attach (m : Messaging) (sessions : List Session) :
    (sessions.foldl attach m).sessions =
      (sessions.map fun s => (s.counterparty, s)).reverse ++ m.sessions := by
  induction sessions generalizing m with
  | nil => rfl
  | cons s sessions ih => simp [ih, attach]

/-- Sessions are attached without being asked for. -/
theorem initiated_foldl_attach (m : Messaging) (sessions : List Session) :
    (sessions.foldl attach m).initiated = m.initiated := by
  induction sessions generalizing m with
  | nil => rfl
  | cons s sessions ih => exact ih (m.attach s)

end Messaging

namespace Operation

open World (SameMocks)

/-- Whether an operation is a call of a mock, or attaches sessions to some. -/
def ConcernsMocks : Operation → Prop
  | linkRegistries _ _ => True
  | setNodeName _ _ => True
  | setSubFlow _ _ _ => True
  | subFlow _ _ _ => True
  | initiate _ _ => True
  | format _ _ => True
  | parse _ _ _ => True
  | persist _ _ => True
  | _ => False

theorem sameMocks_run (w : World) {op : Operation} (h : ¬ op.ConcernsMocks) :
    w.SameMocks (op.run w) := by
  cases op with
  | register r c => exact World.sameMocks_of_registers (Act.registers_register r c w)
  | create r flow => exact World.sameMocks_of_registers (Act.registers_createFlow r flow w)
  | check l =>
    show w.SameMocks (Act.failIfPending l w).2
    rw [Act.failIfPending_apply]
    split <;> exact ⟨rfl, rfl, rfl, rfl⟩
  | await s expected =>
    show w.SameMocks (w.awaitMessage s expected)
    unfold World.awaitMessage
    split <;> exact ⟨rfl, rfl, rfl, rfl⟩
  | look me s =>
    show w.SameMocks (w.lookFor me s).2
    unfold World.lookFor
    dsimp only
    split <;> exact ⟨rfl, rfl, rfl, rfl⟩
  | build participant capabilities =>
    show w.SameMocks (Act.buildRegistry participant capabilities w).2
    rw [Act.buildRegistry_apply]
    exact ⟨rfl, rfl, rfl, rfl⟩
  | linkMembers | send | answer | withdraw | ready | note => exact ⟨rfl, rfl, rfl, rfl⟩
  | _ => exact absurd trivial h

/-! ## Calls -/

theorem run_subFlow (w : World) (m : MockId) (flow : String) (input : Json) :
    (subFlow m flow input).run w =
      { w with engines := w.engines.modify m (·.record flow input) } :=
  congrArg Prod.snd (Act.subFlow_apply m flow input w)

theorem run_initiate (w : World) (m : MockId) (counterparty : Member) :
    (initiate m counterparty).run w =
      { w with messagings := w.messagings.modify m (·.record counterparty) } :=
  congrArg Prod.snd (Act.initiate_apply m counterparty w)

theorem run_format (w : World) (m : MockId) (p : Payload) : (format m p).run w =
    { w with marshallings := w.marshallings.modify m (·.countFormat) } :=
  congrArg Prod.snd (Act.format_apply m p w)

theorem run_parse (w : World) (m : MockId) (k : Kind) (text : String) : (parse m k text).run w =
    { w with marshallings := w.marshallings.modify m (·.countParse) } :=
  congrArg Prod.snd (Act.parse_apply m k text w)

theorem run_persist (w : World) (m : MockId) (p : Payload) : (persist m p).run w =
    match Persistence.stored p with
    | .ok j => { w with persistences := w.persistences.modify m fun s => s.add p.kind j }
    | .error _ => w := by
  show (Act.persist m p w).2 = _
  rw [Act.persist_apply]
  cases Persistence.stored p <;> rfl

/-- Whether an operation is a call of a mock. -/
def CallsMock : Operation → Prop
  | setNodeName _ _ => True
  | setSubFlow _ _ _ => True
  | subFlow _ _ _ => True
  | initiate _ _ => True
  | format _ _ => True
  | parse _ _ _ => True
  | persist _ _ => True
  | _ => False

/-- A call of a mock changes nothing but mocks. -/
theorem run_of_callsMock (w : World) {op : Operation} (h : op.CallsMock) :
    ∃ engines messagings marshallings persistences,
      op.run w = { w with engines, messagings, marshallings, persistences } := by
  cases op with
  | setNodeName | setSubFlow => exact ⟨_, _, _, _, rfl⟩
  | subFlow m flow input => exact ⟨_, _, _, _, run_subFlow w m flow input⟩
  | initiate m counterparty => exact ⟨_, _, _, _, run_initiate w m counterparty⟩
  | format m p => exact ⟨_, _, _, _, run_format w m p⟩
  | parse m k text => exact ⟨_, _, _, _, run_parse w m k text⟩
  | persist m p =>
    rw [run_persist]
    cases Persistence.stored p with
    | ok j => exact ⟨_, _, _, _, rfl⟩
    | error fault => exact ⟨_, _, _, _, rfl⟩
  | _ => exact h.elim

/-! ## Sessions -/

/-- The sessions that linking two registries attaches to a messaging mock: its own ends of the link,
side `a` first. -/
def ownEnds (w : World) (m : MockId) (a b : RegistryId) (l : Link) : List Session :=
  (if (w.registry a).mock? .messaging = some m then [l.session .a] else []) ++
    if (w.registry b).mock? .messaging = some m then [l.session .b] else []

/-- The sessions that an operation attaches to a messaging mock. -/
def attaches (m : MockId) (w : World) : Operation → List Session
  | linkRegistries a b =>
    match (Act.linkRegistries a b w).1 with
    | .ok l => ownEnds w m a b l
    | .error _ => []
  | _ => []

/-- Linking two registries attaches sessions to their messaging mocks, and changes no other mock. -/
theorem linkRegistries_eq (w : World) (a b : RegistryId) : ∃ messagings linkCount log,
    (linkRegistries a b).run w = { w with messagings, linkCount, log } ∧
    ∀ m, messagings.get m =
      (attaches m w (linkRegistries a b)).foldl Messaging.attach (w.messagings.get m) := by
  simp only [attaches, run, Act.linkRegistries_apply]
  cases w.memberOf a with
  | error e => exact ⟨w.messagings, w.linkCount, w.log, rfl, fun _ => rfl⟩
  | ok own =>
    cases w.memberOf b with
    | error e => exact ⟨w.messagings, w.linkCount, w.log, rfl, fun _ => rfl⟩
    | ok peer =>
      dsimp only
      obtain ⟨messagings, events, -, same, attached⟩ :=
        (w.addLink own peer).2.attachTo_attachTo a b ((w.addLink own peer).1.session .a)
          ((w.addLink own peer).1.session .b)
      rw [same]
      exact ⟨messagings, _, _, rfl, attached⟩

/-- Only linking registries attaches sessions. -/
theorem sessions_run (w : World) (op : Operation) (m : MockId) :
    ((op.run w).messagings.get m).sessions =
      ((op.attaches m w).map fun s => (s.counterparty, s)).reverse ++
        (w.messagings.get m).sessions := by
  cases op with
  | linkRegistries a b =>
    obtain ⟨messagings, linkCount, log, same, attached⟩ := linkRegistries_eq w a b
    rw [same]
    exact (congrArg Messaging.sessions (attached m)).trans (Messaging.sessions_foldl_attach ..)
  | initiate m' counterparty =>
    rw [run_initiate, Store.get_modify]
    split <;> rfl
  | setNodeName | setSubFlow => rfl
  | subFlow => rw [run_subFlow]; rfl
  | format => rw [run_format]; rfl
  | parse => rw [run_parse]; rfl
  | persist m' p =>
    rw [run_persist]
    cases Persistence.stored p <;> rfl
  | _ => rw [(sameMocks_run w id).messagings]; rfl

/-! ## Stores -/

/-- Only persisting changes a store. -/
theorem persistences_run (w : World) {op : Operation} (other : ∀ m p, op ≠ persist m p) :
    (op.run w).persistences = w.persistences := by
  cases op with
  | linkRegistries a b =>
    obtain ⟨messagings, linkCount, log, same, -⟩ := linkRegistries_eq w a b
    rw [same]
  | setNodeName | setSubFlow => rfl
  | subFlow => rw [run_subFlow]
  | initiate => rw [run_initiate]
  | format => rw [run_format]
  | parse => rw [run_parse]
  | persist m p => exact absurd rfl (other m p)
  | _ => exact (sameMocks_run w id).persistences

end Operation

end Rehearsal
