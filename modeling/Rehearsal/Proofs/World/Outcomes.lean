import Rehearsal.Proofs.World.Changes

/-!
# What operations come to

For each operation that may fail, its result and the world after it, in one equation. All that is
known of an operation is read off its equation, and what calls it need not open it again.
-/

namespace Rehearsal

variable {w w' : World}

namespace Act

/-! ## Mocks -/

theorem subFlow_apply (m : MockId) (flow : String) (input : Json) (w : World) :
    subFlow m flow input w = ((w.engines.get m).result flow,
      { w with engines := w.engines.modify m (·.record flow input) }) := by
  rw [subFlow, bind_apply, modify_apply]
  dsimp only
  rw [ask_apply, Store.modify, Store.get_set_self]
  rfl

theorem initiate_apply (m : MockId) (counterparty : Member) (w : World) :
    initiate m counterparty w = ((w.messagings.get m).session counterparty,
      { w with messagings := w.messagings.modify m (·.record counterparty) }) := by
  rw [initiate, bind_apply, modify_apply]
  dsimp only
  rw [ask_apply, Store.modify, Store.get_set_self]
  rfl

theorem format_apply (m : MockId) (p : Payload) (w : World) : format m p w =
    (p.format, { w with marshallings := w.marshallings.modify m (·.countFormat) }) := by
  rw [format, bind_apply, modify_apply]
  exact ask_apply _ _

theorem parse_apply (m : MockId) (k : Kind) (text : String) (w : World) : parse m k text w =
    (Error.ofRefusal (k.parse text),
      { w with marshallings := w.marshallings.modify m (·.countParse) }) := by
  rw [parse, bind_apply, modify_apply]
  exact ask_apply _ _

/-! ## Flows -/

/-- A flow is built if nothing that it depends on is missing and its constructor builds it. Then,
and only then, its registry is sealed. -/
theorem createFlow_apply {α : Type} (r : RegistryId) (flow : Blueprint α) (w : World) :
    createFlow r flow w =
      match flow.dependencies.find? fun c => !(w.registry r).contains c with
      | some missing =>
        (.error (.unsatisfiedDependency flow.name (w.registry r).participant missing.name), w)
      | none =>
        match construct flow.name flow.dependencies r flow.constructor w with
        | (.ok built, w') => (.ok built, (w'.sealRegistry r).note
            (.flowInstantiated flow.name (w.registry r).participant flow.dependencies.length))
        | (.error e, w') => (.error e, w') := by
  rw [createFlow, bind_apply, get_apply]
  dsimp only
  cases flow.dependencies.find? fun c => !(w.registry r).contains c with
  | some missing => rfl
  | none =>
    dsimp only
    rw [bind_apply]
    rcases construct flow.name flow.dependencies r flow.constructor w with ⟨_ | built, w'⟩ <;> rfl

/-- From one world to the other only registries, the number of mocks, and the log changed. -/
def Registers (w w' : World) : Prop :=
  ∃ registries mockCount log, w' = { w with registries, mockCount, log }

theorem Registers.refl (w : World) : Registers w w := ⟨w.registries, w.mockCount, w.log, rfl⟩

theorem Registers.trans {w'' : World} (h : Registers w w') (h' : Registers w' w'') :
    Registers w w'' := by
  obtain ⟨_, _, _, rfl⟩ := h
  obtain ⟨registries, mockCount, log, rfl⟩ := h'
  exact ⟨registries, mockCount, log, rfl⟩

theorem registers_register (r : RegistryId) (c : Capability) : Keeps Registers (register r c) := by
  intro w
  rw [register_apply]
  cases (w.registry r).mock? c with
  | some m => exact .refl w
  | none =>
    cases (w.registry r).isSealed with
    | true => exact .refl w
    | false => exact ⟨_, _, _, rfl⟩

theorem registers_construct {α : Type} (flow : String) (declared : List Capability)
    (r : RegistryId) (c : Constructor α) : Keeps Registers (construct flow declared r c) := by
  induction c with
  | built flow => exact keeps_pure .refl flow
  | failed e => exact keeps_throw .refl e
  | register c next ih =>
    exact keeps_bind (R := Registers) (fun _ _ _ => .trans)
      (keeps_attempt (registers_register r c)) ih
  | inject c next ih =>
    refine keeps_bind (R := Registers) (fun _ _ _ => .trans) (keeps_attempt fun w => ?_) ih
    rw [inject_apply]
    exact .refl w

/-- Building a flow concerns only registries. -/
theorem registers_createFlow {α : Type} (r : RegistryId) (flow : Blueprint α) :
    Keeps Registers (createFlow r flow) := by
  intro w
  rw [createFlow_apply]
  cases flow.dependencies.find? fun c => !(w.registry r).contains c with
  | some missing => exact .refl w
  | none =>
    have constructed := registers_construct flow.name flow.dependencies r flow.constructor w
    dsimp only
    revert constructed
    rcases construct flow.name flow.dependencies r flow.constructor w with ⟨e | built, w'⟩
    · exact id
    · refine fun constructed => constructed.trans ?_
      unfold World.sealRegistry
      dsimp only
      split <;> exact ⟨_, _, _, rfl⟩

/-! ## Links -/

theorem failIfPending_apply (l : Link) (w : World) : failIfPending l w =
    if w.pendingMessages l = 0 then (.ok (), w)
    else (.error (.unconsumedMessages (w.pendingMessages l)),
      w.note (.messagesPending l (w.pendingKinds l))) := by
  rw [failIfPending, bind_apply, get_apply]
  dsimp only
  split <;> rfl

/-- Two registries are linked if both run as a member; then each side's session is attached to its
registry, side `a` first. Otherwise nothing is done at all. -/
theorem linkRegistries_apply (a b : RegistryId) (w : World) : linkRegistries a b w =
    match w.memberOf a with
    | .error e => (.error e, w)
    | .ok own =>
      match w.memberOf b with
      | .error e => (.error e, w)
      | .ok peer => (.ok (w.addLink own peer).1,
          ((w.addLink own peer).2.attachTo a ((w.addLink own peer).1.session .a)).attachTo b
            ((w.addLink own peer).1.session .b)) := by
  rw [linkRegistries, bind_apply, ask_apply]
  cases w.memberOf a with
  | error e => rfl
  | ok own =>
    dsimp only
    rw [bind_apply, ask_apply]
    cases w.memberOf b <;> rfl

end Act

namespace World

theorem memberOf_of_engine {r : RegistryId} {m : MockId}
    (h : (w.registry r).mock? .engine = some m) : w.memberOf r =
      (w.engines.get m).virtualNodeName := by
  rw [memberOf, mock, h]
  rfl

/-- Attaching a session is logged, in one of two ways. -/
def IsAttachment (s : Session) (e : Event) : Prop :=
  e = .sessionAttached s ∨ e = .sessionReplaced s

/-- Attaching a session changes one messaging mock, and the log. -/
theorem attach_eq (w : World) (m : MockId) (s : Session) : ∃ e, IsAttachment s e ∧
    w.attach m s =
      { w with messagings := w.messagings.modify m (·.attach s), log := w.log ++ [e] } := by
  unfold attach
  dsimp only
  cases (w.messagings.get m).session? s.counterparty with
  | none => exact ⟨_, .inl rfl, rfl⟩
  | some => exact ⟨_, .inr rfl, rfl⟩

/-- Attaching a session to a registry changes at most its own messaging mock, and the log. -/
theorem attachTo_eq (w : World) (r : RegistryId) (s : Session) : ∃ messagings events,
    (∀ e ∈ events, IsAttachment s e) ∧
    w.attachTo r s = { w with messagings, log := w.log ++ events } ∧
    ∀ m, messagings.get m = if (w.registry r).mock? .messaging = some m
      then (w.messagings.get m).attach s else w.messagings.get m := by
  unfold attachTo
  cases (w.registry r).mock? .messaging with
  | none => exact ⟨w.messagings, [], by simp, by simp, by simp⟩
  | some n =>
    obtain ⟨e, he, same⟩ := attach_eq w n s
    refine ⟨w.messagings.modify n (·.attach s), [e], by simpa using he, same, fun m => ?_⟩
    rw [Store.get_modify]
    simp only [Option.some.injEq, eq_comm (a := m)]

/-- Two sessions that are attached to two registries go to the messaging mocks that these have, the
first session first. -/
theorem attachTo_attachTo (w : World) (a b : RegistryId) (s s' : Session) :
    ∃ messagings events, (∀ e ∈ events, IsAttachment s e ∨ IsAttachment s' e) ∧
      (w.attachTo a s).attachTo b s' = { w with messagings, log := w.log ++ events } ∧
      ∀ m, messagings.get m =
        ((if (w.registry a).mock? .messaging = some m then [s] else []) ++
          if (w.registry b).mock? .messaging = some m then [s'] else []).foldl
            Messaging.attach (w.messagings.get m) := by
  obtain ⟨messagings, events, ofA, first, mine⟩ := attachTo_eq w a s
  rw [first]
  obtain ⟨messagings', events', ofB, second, others⟩ :=
    attachTo_eq { w with messagings, log := w.log ++ events } b s'
  rw [second]
  refine ⟨messagings', events ++ events', fun e he => ?_, by simp, fun m => ?_⟩
  · exact (List.mem_append.mp he).imp (ofA e) (ofB e)
  · rw [others, mine, List.foldl_append]
    -- Attaching the first session left the registries alone.
    show (if (w.registry b).mock? .messaging = some m then _ else _) = _
    split <;> split <;> rfl

end World

end Rehearsal
