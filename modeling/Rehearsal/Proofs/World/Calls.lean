import Rehearsal.Flow.Scripted
import Rehearsal.Proofs.World.Builders
import Rehearsal.Proofs.World.History
import Rehearsal.World.Services

/-!
# Calls that move no message

Everything that flows and tests do with registries and mocks leaves the queues alone. Making a link
adds a link with a number of its own, and only that link's sessions are attached.
-/

namespace Rehearsal

namespace Act

variable {α β : Type}

/-- The action moves no message. -/
def IsQuiet (a : Act α) : Prop := Keeps World.Quiet a

/-! ## How quiet actions compose -/

theorem quiet_pure (a : α) : IsQuiet (pure a) := keeps_pure World.Quiet.refl a

theorem quiet_throw (e : Error) : IsQuiet (throw e : Act α) := keeps_throw World.Quiet.refl e

theorem quiet_ask (question : World → Except Error α) : IsQuiet (ask question) :=
  keeps_ask World.Quiet.refl question

theorem quiet_note {e : Event} (he : e.IsPlain) : IsQuiet (note e) :=
  keeps_modify fun w => World.Quiet.note w he

theorem IsQuiet.bind {a : Act α} {f : α → Act β} (ha : IsQuiet a) (hf : ∀ x, IsQuiet (f x)) :
    IsQuiet (a >>= f) :=
  keeps_bind (R := World.Quiet) (fun _ _ _ h h' => h.trans h') ha hf

theorem IsQuiet.attempt {a : Act α} (h : IsQuiet a) : IsQuiet (attempt a) := keeps_attempt h

/-- Looking at the world first changes nothing. -/
theorem quiet_get {f : World → Act β} (hf : ∀ w, IsQuiet (f w)) : IsQuiet (get >>= f) :=
  keeps_get hf

/-- A change of cells that hold neither queues nor sessions. -/
theorem quiet_modify {f : World → World} (queues : ∀ w, (f w).queues = w.queues)
    (ready : ∀ w, (f w).ready = w.ready) (log : ∀ w, (f w).log = w.log)
    (count : ∀ w, (f w).linkCount = w.linkCount)
    (messagings : ∀ w, (f w).messagings = w.messagings) : IsQuiet (modify f) :=
  keeps_modify fun w => .of_same (queues w) (ready w) (log w) (count w)
    fun m => by rw [messagings w]

/-! ## Registries -/

theorem quiet_addRegistry (w : World) (participant : String)
    (services : List (Capability × MockId)) : w.Quiet (w.addRegistry participant services).2 := by
  have noted := World.Quiet.note w
    (e := .registryCreated w.registryCount participant services.length)
    ⟨rfl, fun _ => ⟨rfl, rfl⟩⟩
  exact noted.trans (.of_same rfl rfl rfl rfl fun _ => rfl)

theorem quiet_newRegistry (participant : String) : IsQuiet (newRegistry participant) :=
  keeps_modifyGet fun w => quiet_addRegistry w participant []

theorem quiet_buildRegistry (participant : String) (capabilities : List Capability) :
    IsQuiet (buildRegistry participant capabilities) := by
  apply keeps_modifyGet
  intro w
  have fresh : w.Quiet (w.freshServices capabilities).2 := by
    rw [World.freshServices_eq]
    exact .of_same rfl rfl rfl rfl fun _ => rfl
  exact fresh.trans (quiet_addRegistry _ _ _)

theorem quiet_addService (w : World) (r : RegistryId) (c : Capability) :
    w.Quiet (w.addService r c).2 := by
  have added : w.Quiet { w with
      registries := w.registries.modify r fun registry => registry.add c w.mockCount
      mockCount := w.mockCount + 1 } := .of_same rfl rfl rfl rfl fun _ => rfl
  exact added.trans (.note _ ⟨rfl, fun _ => ⟨rfl, rfl⟩⟩)

theorem quiet_register (r : RegistryId) (c : Capability) : IsQuiet (register r c) := by
  apply quiet_get
  intro w
  dsimp only
  split
  · exact quiet_pure _
  · split
    · exact quiet_throw _
    · exact keeps_modifyGet fun w => quiet_addService w r c

theorem quiet_mock (r : RegistryId) (c : Capability) : IsQuiet (mock r c) := quiet_ask _

/-! ## Building flows -/

theorem quiet_inject (flow : String) (declared : List Capability) (r : RegistryId)
    (c : Capability) : IsQuiet (inject flow declared r c) := by
  unfold inject
  dsimp only
  split
  on_goal 1 => refine (quiet_throw _).bind fun _ => ?_
  all_goals
    -- The rest of the command stands in both branches of its first check.
    apply quiet_get
    intro w
    split
    · exact quiet_pure _
    · exact quiet_throw _

/-- Whatever a constructor asks for and registers, it moves no message. -/
theorem quiet_construct (flow : String) (declared : List Capability) (r : RegistryId)
    (c : Constructor α) : IsQuiet (construct flow declared r c) := by
  induction c with
  | built a => exact quiet_pure a
  | failed e => exact quiet_throw e
  | register c next ih => exact (quiet_register r c).attempt.bind ih
  | inject c next ih => exact (quiet_inject flow declared r c).attempt.bind ih

theorem quiet_sealRegistry (w : World) (r : RegistryId) : w.Quiet (w.sealRegistry r) := by
  unfold World.sealRegistry
  dsimp only
  split
  · exact .refl w
  · have closed : w.Quiet { w with
        registries := w.registries.set r { w.registry r with isSealed := true } } :=
      .of_same rfl rfl rfl rfl fun _ => rfl
    exact closed.trans (.note _ ⟨rfl, fun _ => ⟨rfl, rfl⟩⟩)

theorem quiet_createFlow (r : RegistryId) (flow : Blueprint α) : IsQuiet (createFlow r flow) := by
  apply quiet_get
  intro w
  dsimp only
  split
  · exact quiet_throw _
  · refine (quiet_construct _ _ _ _).bind fun built => ?_
    refine IsQuiet.bind (keeps_modify fun w => quiet_sealRegistry w r) fun _ => ?_
    exact (quiet_note ⟨rfl, fun _ => ⟨rfl, rfl⟩⟩).bind fun _ => quiet_pure built

/-! ## Mocks -/

theorem quiet_setNodeName (m : MockId) (name : Member) : IsQuiet (setNodeName m name) :=
  quiet_modify (fun _ => rfl) (fun _ => rfl) (fun _ => rfl) (fun _ => rfl) fun _ => rfl

theorem quiet_nodeName (m : MockId) : IsQuiet (nodeName m) := quiet_ask _

theorem quiet_setSubFlow (m : MockId) (flow : String) (result : Json) :
    IsQuiet (setSubFlow m flow result) :=
  quiet_modify (fun _ => rfl) (fun _ => rfl) (fun _ => rfl) (fun _ => rfl) fun _ => rfl

theorem quiet_subFlow (m : MockId) (flow : String) (input : Json) :
    IsQuiet (subFlow m flow input) :=
  IsQuiet.bind
    (quiet_modify (fun _ => rfl) (fun _ => rfl) (fun _ => rfl) (fun _ => rfl) fun _ => rfl)
    fun _ => quiet_ask _

/-- Keeping an attempt to open a session attaches none. -/
theorem quiet_initiate (m : MockId) (counterparty : Member) :
    IsQuiet (initiate m counterparty) := by
  refine IsQuiet.bind (keeps_modify fun w => ?_) fun _ => quiet_ask _
  refine .of_same rfl rfl rfl rfl fun m' => ?_
  rw [Store.get_modify]
  split <;> rfl

theorem quiet_format (m : MockId) (p : Payload) : IsQuiet (format m p) :=
  IsQuiet.bind
    (quiet_modify (fun _ => rfl) (fun _ => rfl) (fun _ => rfl) (fun _ => rfl) fun _ => rfl)
    fun _ => quiet_ask _

theorem quiet_parse (m : MockId) (k : Kind) (text : String) : IsQuiet (parse m k text) :=
  IsQuiet.bind
    (quiet_modify (fun _ => rfl) (fun _ => rfl) (fun _ => rfl) (fun _ => rfl) fun _ => rfl)
    fun _ => quiet_ask _

theorem quiet_persist (m : MockId) (p : Payload) : IsQuiet (persist m p) :=
  IsQuiet.bind (quiet_ask _) fun _ =>
    quiet_modify (fun _ => rfl) (fun _ => rfl) (fun _ => rfl) (fun _ => rfl) fun _ => rfl

theorem quiet_findAll (m : MockId) (k : Kind) : IsQuiet (findAll m k) := quiet_ask _

/-- A session that an attempt to open one gives was made. -/
theorem made_of_initiate {m : MockId} {counterparty : Member} {w : World} {s : Session}
    (hw : w.Linked) (h : (initiate m counterparty w).1 = .ok s) :
    (initiate m counterparty w).2.Made s := by
  have linked := (quiet_initiate m counterparty w).linked hw
  have attached : (counterparty, s) ∈
      ((initiate m counterparty w).2.messagings.get m).sessions := by
    simp only [initiate, bind_apply, modify_apply, ask_apply] at h ⊢
    unfold Messaging.session at h
    split at h
    · next found =>
      cases h
      exact mem_of_lookup found
    · cases h
  exact linked.attached m _ attached

/-! ## Links -/

/-- A new link has the next number. -/
theorem quiet_addLink (w : World) (a b : Member) : w.Quiet (w.addLink a b).2 := by
  have links : (w.addLink a b).2.links = w.links ++ [⟨w.linkCount, a, b⟩] := by
    simp [World.addLink, World.links, World.note, Event.link?]
  refine ⟨rfl, rfl, links ▸ List.prefix_append _ _, fun q => ?_, fun q => ?_, fun h => ⟨?_, ?_⟩⟩
  · simp [World.addLink, World.sent, World.note, Event.sent?]
  · simp [World.addLink, World.taken, World.note, Event.taken?]
  · rw [links, List.map_append, h.numbers]
    exact List.range_succ.symm
  · intro m p hp
    exact (h.attached m p hp).mono (links ▸ List.prefix_append _ _)

theorem mem_links_addLink (w : World) (a b : Member) :
    (w.addLink a b).1 ∈ (w.addLink a b).2.links := by
  simp [World.addLink, World.links, World.note, Event.link?]

theorem quiet_linkMembers (a b : Member) : IsQuiet (linkMembers a b) :=
  keeps_modifyGet fun w => quiet_addLink w a b

/-- Attaching a session that was made. -/
theorem quiet_attach {w : World} {s : Session} (hs : w.Made s) (m : MockId) :
    w.Quiet (w.attach m s) := by
  have attached : w.Quiet
      { w with messagings := w.messagings.set m ((w.messagings.get m).attach s) } := by
    refine ⟨rfl, rfl, List.prefix_refl _, fun _ => rfl, fun _ => rfl, fun h => ⟨h.numbers, ?_⟩⟩
    intro m' p hp
    by_cases hm : m' = m
    · subst hm
      simp only [Store.get_set_self, Messaging.attach, List.mem_cons] at hp
      rcases hp with rfl | hp
      · exact hs
      · exact h.attached m' p hp
    · simp only [Store.get_set_of_ne _ _ hm] at hp
      exact h.attached m' p hp
  unfold World.attach
  dsimp only
  split
  · exact attached.trans (.note _ ⟨rfl, fun _ => ⟨rfl, rfl⟩⟩)
  · exact attached.trans (.note _ ⟨rfl, fun _ => ⟨rfl, rfl⟩⟩)

theorem quiet_attachTo {w : World} {s : Session} (hs : w.Made s) (r : RegistryId) :
    w.Quiet (w.attachTo r s) := by
  unfold World.attachTo
  split
  · exact quiet_attach hs _
  · exact .refl w

/-- Both ends of a new link are attached once it is made. -/
theorem quiet_attachBoth {w : World} {l : Link} (hl : l ∈ w.links) (a b : RegistryId) :
    w.Quiet ((w.attachTo a (l.session .a)).attachTo b (l.session .b)) := by
  have first := quiet_attachTo (w := w) ⟨l, hl, .a, rfl⟩ a
  exact first.trans (quiet_attachTo ⟨l, first.links.subset hl, .b, rfl⟩ b)

theorem quiet_linkRegistries (a b : RegistryId) : IsQuiet (linkRegistries a b) := by
  refine (quiet_ask _).bind fun memberA => (quiet_ask _).bind fun memberB => ?_
  intro w
  rw [linkMembers, bind_apply, modifyGet_apply]
  exact (quiet_addLink w memberA memberB).trans
    (quiet_attachBoth (mem_links_addLink w memberA memberB) a b)

/-- A link between registries that is handed out was made. -/
theorem mem_links_of_linkRegistries {a b : RegistryId} {w : World} {l : Link}
    (h : (linkRegistries a b w).1 = .ok l) : l ∈ (linkRegistries a b w).2.links := by
  simp only [linkRegistries, linkMembers, bind_apply, ask_apply, modifyGet_apply, modify_apply,
    pure_apply] at h ⊢
  cases ha : w.memberOf a with
  | error e => simp [ha] at h
  | ok memberA =>
    cases hb : w.memberOf b with
    | error e => simp [ha, hb] at h
    | ok memberB =>
      simp only [ha, hb, Except.ok.injEq] at h ⊢
      subst h
      have made := mem_links_addLink w memberA memberB
      exact (quiet_attachBoth made a b).links.subset made

theorem quiet_failIfPending (l : Link) : IsQuiet (failIfPending l) := by
  apply quiet_get
  intro w
  split
  · exact quiet_pure _
  · exact (quiet_note ⟨rfl, fun _ => ⟨rfl, rfl⟩⟩).bind fun _ => quiet_throw _

end Act

end Rehearsal
