import Mathlib.Logic.Relation
import Rehearsal.Chat.Flows
import Rehearsal.Proofs.Keeping
import Rehearsal.Proofs.World.Builders

/-!
# What can change in the world

All that is ever done to the world is a row of changes from a short list. `World.Change` is that
list, with what holds whenever such a change is made, so that an invariant of the world is shown by
going through the list once.
-/

namespace Rehearsal

namespace World

/-- One change to the world. -/
inductive Change (w : World) : World → Prop where
  | noted (e : Event) : Change w (w.note e)
  /-- A new registry with a new mock for each of these. -/
  | built (participant : String) (capabilities : List Capability) : Change w
      ((w.freshServices capabilities).2.addRegistry participant
        (w.freshServices capabilities).1).2
  /-- A registry that is still open gets a mock that it lacks. -/
  | registered {r : RegistryId} {c : Capability} (known : r < w.registryCount)
      (lacks : (w.registry r).mock? c = none) (isOpen : (w.registry r).isSealed = false) :
      Change w (w.addService r c).2
  | closed {r : RegistryId} (known : r < w.registryCount) : Change w (w.sealRegistry r)
  | linked (a b : Member) : Change w (w.addLink a b).2
  | attached (m : MockId) (s : Session) : Change w (w.attach m s)
  | named (m : MockId) (name : Member) :
      Change w { w with engines := w.engines.modify m (·.setNodeName name) }
  | stubbed (m : MockId) (flow : String) (result : Json) :
      Change w { w with engines := w.engines.modify m (·.setResult flow result) }
  | called (m : MockId) (flow : String) (input : Json) :
      Change w { w with engines := w.engines.modify m (·.record flow input) }
  | opened (m : MockId) (counterparty : Member) :
      Change w { w with messagings := w.messagings.modify m (·.record counterparty) }
  | formatted (m : MockId) :
      Change w { w with marshallings := w.marshallings.modify m (·.countFormat) }
  | parsed (m : MockId) :
      Change w { w with marshallings := w.marshallings.modify m (·.countParse) }
  /-- A store keeps a value that it can hold. -/
  | kept (m : MockId) {p : Payload} {j : Json} (stored : Persistence.stored p = .ok j) :
      Change w { w with persistences := w.persistences.modify m fun s => s.add p.kind j }
  | sent (s : Session) (p : Payload) : Change w (w.send s p)
  | looked (me : Waiter) (s : Session) : Change w (w.lookFor me s).2
  | answered (me : Waiter) (s : Session) : Change w (w.answerCall me s)
  | withdrawn (me : Waiter) (s : Session) : Change w (w.withdraw me s)
  | readied (ready : List Waiter) : Change w { w with ready }

/-- Some changes, one after the other. -/
abbrev Changes : World → World → Prop := Relation.ReflTransGen Change

variable {w w' w'' : World}

theorem Changes.refl (w : World) : w.Changes w := Relation.ReflTransGen.refl

theorem Changes.trans (h : w.Changes w') (h' : w'.Changes w'') : w.Changes w'' :=
  Relation.ReflTransGen.trans h h'

theorem Change.changes (h : w.Change w') : w.Changes w' := .single h

@[simp] theorem registryCount_lookFor (w : World) (me : Waiter) (s : Session) :
    (w.lookFor me s).2.registryCount = w.registryCount := by
  unfold lookFor
  dsimp only
  split <;> rfl

/-- No registry is lost. -/
theorem Change.registryCount_le (h : w.Change w') : w.registryCount ≤ w'.registryCount := by
  cases h with
  | built participant capabilities =>
    rw [addRegistry_freshServices]
    exact Nat.le_succ _
  | closed =>
    unfold sealRegistry
    dsimp only
    split <;> exact Nat.le_refl _
  | attached =>
    unfold attach
    dsimp only
    split <;> exact Nat.le_refl _
  | looked => exact Nat.le_of_eq (registryCount_lookFor w _ _).symm
  | _ => exact Nat.le_refl _

theorem Changes.registryCount_le (h : w.Changes w') : w.registryCount ≤ w'.registryCount := by
  induction h with
  | refl => exact Nat.le_refl _
  | tail _ change ih => exact Nat.le_trans ih change.registryCount_le

end World

/-! ## Actions -/

namespace Act

variable {α β : Type} {r : RegistryId}

/-- An action that comes down to changes. -/
def IsChange (a : Act α) : Prop := Keeps World.Changes a

/-- An action that comes down to changes, provided that there is this registry. -/
def IsChangeAt (r : RegistryId) (a : Act α) : Prop :=
  Keeps (fun w w' : World => r < w.registryCount → w.Changes w') a

theorem IsChange.at (h : IsChange (α := α) a) (r : RegistryId) : IsChangeAt r a := fun w _ => h w

theorem change_pure (a : α) : IsChange (pure a) := keeps_pure World.Changes.refl a

theorem change_throw (e : Error) : IsChange (throw e : Act α) := keeps_throw World.Changes.refl e

theorem change_ask (question : World → Except Error α) : IsChange (ask question) :=
  keeps_ask World.Changes.refl question

theorem change_modify {f : World → World} (h : ∀ w : World, w.Change (f w)) :
    IsChange (modify f) :=
  keeps_modify fun w => (h w).changes

theorem IsChange.bind {a : Act α} {f : α → Act β} (ha : IsChange a) (hf : ∀ x, IsChange (f x)) :
    IsChange (a >>= f) :=
  keeps_bind (R := World.Changes) (fun _ _ _ h h' => h.trans h') ha hf

theorem IsChangeAt.bind {a : Act α} {f : α → Act β} (ha : IsChangeAt r a)
    (hf : ∀ x, IsChangeAt r (f x)) : IsChangeAt r (a >>= f) :=
  keeps_bind (fun _ _ _ h h' known =>
    (h known).trans (h' (Nat.lt_of_lt_of_le known (h known).registryCount_le))) ha hf

theorem change_get {f : World → Act β} (hf : ∀ w, IsChange (f w)) : IsChange (get >>= f) :=
  keeps_get hf

/-! ## Registries and flows -/

theorem change_buildRegistry (participant : String) (capabilities : List Capability) :
    IsChange (buildRegistry participant capabilities) :=
  keeps_modifyGet fun _ => (World.Change.built participant capabilities).changes

/-- A capability that is registered stays as it is, and one that is not gets a new mock, unless
the registry is sealed. -/
theorem register_apply (r : RegistryId) (c : Capability) (w : World) : register r c w =
    match (w.registry r).mock? c with
    | some m => (.ok m, w)
    | none =>
      if (w.registry r).isSealed then
        (.error (.registrySealed (w.registry r).participant c.name), w)
      else (.ok (w.addService r c).1, (w.addService r c).2) := by
  rw [register, bind_apply, get_apply]
  dsimp only
  cases (w.registry r).mock? c with
  | some m => rfl
  | none => cases (w.registry r).isSealed <;> rfl

theorem change_register (r : RegistryId) (c : Capability) : IsChangeAt r (register r c) := by
  intro w known
  rw [register_apply]
  cases lacks : (w.registry r).mock? c with
  | some m => exact .refl w
  | none =>
    cases isOpen : (w.registry r).isSealed with
    | true => exact .refl w
    | false => exact (World.Change.registered known lacks isOpen).changes

/-- Looking up a mock changes nothing. -/
theorem mock_apply (r : RegistryId) (c : Capability) (w : World) :
    mock r c w = (w.mock r c, w) := ask_apply _ w

/-- The mock that an injector hands out, or why it hands out none. -/
theorem inject_apply (flow : String) (declared : List Capability) (r : RegistryId)
    (c : Capability) (w : World) : inject flow declared r c w =
      (if declared.contains c then
        match (w.registry r).mock? c with
        | some m => .ok m
        | none => .error (.unsatisfiedDependency flow (w.registry r).participant c.name)
      else .error (.undeclaredDependency flow c.name), w) := by
  unfold inject
  cases declared.contains c with
  | false => rfl
  | true =>
    rw [if_pos rfl]
    show (get >>= _ : Act MockId) w = _
    rw [bind_apply, get_apply]
    dsimp only
    cases (w.registry r).mock? c <;> rfl

theorem change_inject (flow : String) (declared : List Capability) (r : RegistryId)
    (c : Capability) : IsChange (inject flow declared r c) := by
  intro w
  rw [inject_apply]

theorem change_construct (flow : String) (declared : List Capability) (r : RegistryId)
    (c : Constructor α) : IsChangeAt r (construct flow declared r c) := by
  induction c with
  | built a => exact (change_pure a).at r
  | failed e => exact (change_throw e).at r
  | register c next ih => exact IsChangeAt.bind (change_register r c) ih
  | inject c next ih => exact IsChangeAt.bind ((change_inject flow declared r c).at r) ih

theorem change_createFlow (r : RegistryId) (flow : Blueprint α) :
    IsChangeAt r (createFlow r flow) := by
  refine keeps_get fun w => ?_
  dsimp only
  split
  · exact (change_throw _).at r
  · refine (change_construct _ _ _ _).bind fun built => ?_
    refine IsChangeAt.bind (fun w known => (World.Change.closed known).changes) fun _ => ?_
    refine ((change_modify fun w => ?_).bind fun _ => change_pure built).at r
    exact .noted _

/-! ## Mocks -/

theorem change_setNodeName (m : MockId) (name : Member) : IsChange (setNodeName m name) :=
  change_modify fun _ => .named m name

theorem change_setSubFlow (m : MockId) (flow : String) (result : Json) :
    IsChange (setSubFlow m flow result) :=
  change_modify fun _ => .stubbed m flow result

theorem change_subFlow (m : MockId) (flow : String) (input : Json) :
    IsChange (subFlow m flow input) :=
  (change_modify fun _ => .called m flow input).bind fun _ => change_ask _

theorem change_initiate (m : MockId) (counterparty : Member) :
    IsChange (initiate m counterparty) :=
  (change_modify fun _ => .opened m counterparty).bind fun _ => change_ask _

theorem change_format (m : MockId) (p : Payload) : IsChange (format m p) :=
  (change_modify fun _ => .formatted m).bind fun _ => change_ask _

theorem change_parse (m : MockId) (k : Kind) (text : String) : IsChange (parse m k text) :=
  (change_modify fun _ => .parsed m).bind fun _ => change_ask _

/-- A value that is persisted is kept, unless the store cannot hold it. -/
theorem persist_apply (m : MockId) (p : Payload) (w : World) : persist m p w =
    match Error.ofFault (Persistence.stored p) with
    | .ok j => (.ok (), { w with persistences := w.persistences.modify m fun s => s.add p.kind j })
    | .error e => (.error e, w) := by
  rw [persist, bind_apply, ask_apply]
  cases Error.ofFault (Persistence.stored p) <;> rfl

theorem change_persist (m : MockId) (p : Payload) : IsChange (persist m p) := by
  intro w
  rw [persist_apply]
  cases stored : Persistence.stored p with
  | ok j => exact (World.Change.kept m stored).changes
  | error fault => exact .refl w

/-! ## Links and messages -/

theorem changes_attachTo (w : World) (r : RegistryId) (s : Session) :
    w.Changes (w.attachTo r s) := by
  unfold World.attachTo
  split
  · exact (World.Change.attached _ s).changes
  · exact .refl w

theorem change_linkMembers (a b : Member) : IsChange (linkMembers a b) :=
  keeps_modifyGet fun _ => (World.Change.linked a b).changes

theorem change_linkRegistries (a b : RegistryId) : IsChange (linkRegistries a b) := by
  refine (change_ask _).bind fun memberA => (change_ask _).bind fun memberB => ?_
  refine (change_linkMembers memberA memberB).bind fun l => ?_
  refine IsChange.bind (keeps_modify fun w => ?_) fun _ => change_pure l
  exact (changes_attachTo w a _).trans (changes_attachTo _ b _)

theorem change_failIfPending (l : Link) : IsChange (failIfPending l) := by
  refine change_get fun w => ?_
  split
  · exact change_pure _
  · exact (change_modify fun _ => .noted _).bind fun _ => change_throw _

theorem change_send (s : Session) (p : Payload) : IsChange (send s p) :=
  change_modify fun _ => .sent s p

end Act

end Rehearsal
