import Rehearsal.Proofs.World.Changes
import Rehearsal.Proofs.World.History

/-!
# Histories of operations

What happens to a world is a row of operations: calls on registries, mocks, links and sessions,
steps of receivers, and what a driver logs. `World.Undergoes` keeps the row, so that what a world
holds can be said in terms of everything that was done before: `World.told` collects, along a row,
what each operation tells at the moment it is carried out, and a part of the world that every
operation extends by what it tells is, after any row, what the row tells.
-/

namespace Rehearsal

/-- One operation on a world. Registries and mocks are given by their numbers, so it does not matter
through which copy of a handle they are reached. -/
inductive Operation : Type 1 where
  | build (participant : String) (capabilities : List Capability)
  | register (r : RegistryId) (c : Capability)
  | create {α : Type} (r : RegistryId) (flow : Blueprint α)
  | linkMembers (a b : Member)
  | linkRegistries (a b : RegistryId)
  /-- Asks a link to fail if messages are pending. -/
  | check (l : Link)
  | setNodeName (m : MockId) (name : Member)
  | setSubFlow (m : MockId) (flow : String) (result : Json)
  | subFlow (m : MockId) (flow : String) (input : Json)
  | initiate (m : MockId) (counterparty : Member)
  | format (m : MockId) (p : Payload)
  | parse (m : MockId) (k : Kind) (text : String)
  | persist (m : MockId) (p : Payload)
  | send (s : Session) (p : Payload)
  /-- A receive begins. -/
  | await (s : Session) (expected : Kind)
  /-- A receiver looks into its queue. -/
  | look (me : Waiter) (s : Session)
  /-- A receiver that was called is back. -/
  | answer (me : Waiter) (s : Session)
  /-- A receiver gives up waiting. -/
  | withdraw (me : Waiter) (s : Session)
  /-- Others can go on. -/
  | ready (waiters : List Waiter)
  /-- A driver logs. -/
  | note (e : Event)

namespace Operation

/-- The world after an operation, whether the operation succeeds or not. -/
def run (w : World) : Operation → World
  | build participant capabilities => (Act.buildRegistry participant capabilities w).2
  | register r c => (Act.register r c w).2
  | create r flow => (Act.createFlow r flow w).2
  | linkMembers a b => (Act.linkMembers a b w).2
  | linkRegistries a b => (Act.linkRegistries a b w).2
  | check l => (Act.failIfPending l w).2
  | setNodeName m name => (Act.setNodeName m name w).2
  | setSubFlow m flow result => (Act.setSubFlow m flow result w).2
  | subFlow m flow input => (Act.subFlow m flow input w).2
  | initiate m counterparty => (Act.initiate m counterparty w).2
  | format m p => (Act.format m p w).2
  | parse m k text => (Act.parse m k text w).2
  | persist m p => (Act.persist m p w).2
  | send s p => (Act.send s p w).2
  | await s expected => w.awaitMessage s expected
  | look me s => (w.lookFor me s).2
  | answer me s => w.answerCall me s
  | withdraw me s => w.withdraw me s
  | ready waiters => { w with ready := waiters }
  | note e => w.note e

/-- Whether an operation can be carried out: only registries that were made are registered on and
built from, and a driver logs nothing but its own events. -/
def Applies (w : World) : Operation → Prop
  | register r _ => r < w.registryCount
  | create r _ => r < w.registryCount
  | note e => e.OfDriver
  | _ => True

/-- An operation comes down to changes. -/
theorem changes {w : World} {op : Operation} (applies : op.Applies w) : w.Changes (op.run w) := by
  cases op with
  | build participant capabilities => exact Act.change_buildRegistry participant capabilities w
  | register r c => exact Act.change_register r c w applies
  | create r flow => exact Act.change_createFlow r flow w applies
  | linkMembers a b => exact Act.change_linkMembers a b w
  | linkRegistries a b => exact Act.change_linkRegistries a b w
  | check l => exact Act.change_failIfPending l w
  | setNodeName m name => exact Act.change_setNodeName m name w
  | setSubFlow m flow result => exact Act.change_setSubFlow m flow result w
  | subFlow m flow input => exact Act.change_subFlow m flow input w
  | initiate m counterparty => exact Act.change_initiate m counterparty w
  | format m p => exact Act.change_format m p w
  | parse m k text => exact Act.change_parse m k text w
  | persist m p => exact Act.change_persist m p w
  | send s p => exact Act.change_send s p w
  | await s expected =>
    show w.Changes (w.awaitMessage s expected)
    unfold World.awaitMessage
    split
    · exact (World.Change.noted _).changes
    · exact .refl w
  | look me s => exact (World.Change.looked me s).changes
  | answer me s => exact (World.Change.answered me s).changes
  | withdraw me s => exact (World.Change.withdrawn me s).changes
  | ready waiters => exact (World.Change.readied waiters).changes
  | note e => exact (World.Change.noted e).changes

end Operation

namespace World

variable {β : Type} {w w' w'' : World} {op : Operation} {ops ops' : List Operation}

/-- A row of operations leads from one world to another. -/
inductive Undergoes : World → List Operation → World → Prop where
  | nothing {w : World} : Undergoes w [] w
  | next {w w' : World} {op : Operation} {ops : List Operation} (applies : op.Applies w)
      (others : Undergoes (op.run w) ops w') : Undergoes w (op :: ops) w'

namespace Undergoes

theorem single (applies : op.Applies w) : w.Undergoes [op] (op.run w) := .next applies .nothing

theorem trans (h : w.Undergoes ops w') (h' : w'.Undergoes ops' w'') :
    w.Undergoes (ops ++ ops') w'' := by
  induction h with
  | nothing => exact h'
  | next applies _ ih => exact .next applies (ih h')

theorem changes (h : w.Undergoes ops w') : w.Changes w' := by
  induction h with
  | nothing => exact .refl _
  | next applies _ ih => exact (Operation.changes applies).trans ih

end Undergoes

/-- All that the operations of a row tell, each at its own moment. -/
def told (tells : World → Operation → List β) : World → List Operation → List β
  | _, [] => []
  | w, op :: ops => tells w op ++ told tells (op.run w) ops

variable {tells : World → Operation → List β}

/-- **What a history tells.** If every operation extends a part of the world by what it tells, a row
of operations extends it by all that they tell. -/
theorem Undergoes.extends {γ : Type} (part : World → List γ) {entryOf : β → Option γ}
    (step : ∀ w (op : Operation), op.Applies w →
      part (op.run w) = part w ++ (tells w op).filterMap entryOf)
    (h : w.Undergoes ops w') : part w' = part w ++ (w.told tells ops).filterMap entryOf := by
  induction h with
  | nothing => simp [told]
  | next applies _ ih =>
    rw [ih, step _ _ applies, told, List.filterMap_append, List.append_assoc]

/-- Some operations lead from one world to another. -/
def Evolves (w w' : World) : Prop := ∃ ops, w.Undergoes ops w'

namespace Evolves

theorem refl (w : World) : w.Evolves w := ⟨[], .nothing⟩

theorem single (op : Operation) (applies : op.Applies w) : w.Evolves (op.run w) :=
  ⟨[op], .single applies⟩

theorem trans (h : w.Evolves w') (h' : w'.Evolves w'') : w.Evolves w'' :=
  ⟨_, h.choose_spec.trans h'.choose_spec⟩

theorem changes (h : w.Evolves w') : w.Changes w' := h.choose_spec.changes

end Evolves

end World

end Rehearsal
