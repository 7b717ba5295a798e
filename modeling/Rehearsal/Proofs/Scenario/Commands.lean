import Rehearsal.Proofs.Alike.Stages
import Rehearsal.Proofs.Scenario.Errands

/-!
# What commands do

All commands but those that send or receive are routines. A routine answers the same on stages that
differ in their past only, does nothing to the world but errands, and moves no message. It may rely
on what it was handed: a registry, a link or a session that was made.
-/

namespace Rehearsal

variable {α β : Type} {me : Waiter}

/-- What an action is handed. -/
inductive Thing where
  | nothing
  | registry (r : RegistryId)
  | link (l : Link)
  | session (s : Session)

namespace Thing

/-- If it is a registry, it was made. -/
def Counted (w : World) : Thing → Prop
  | registry r => r < w.registryCount
  | _ => True

/-- If it is a link it was made, and if it is a session it is one of a link that was made. -/
def Laid (w : World) : Thing → Prop
  | link l => l ∈ w.links
  | session s => w.Made s
  | _ => True

theorem Counted.mono {t : Thing} {w w' : World} (h : t.Counted w) (changes : w.Changes w') :
    t.Counted w' := by
  cases t with
  | registry r => exact Nat.lt_of_lt_of_le h changes.registryCount_le
  | _ => trivial

theorem Laid.mono {t : Thing} {w w' : World} (h : t.Laid w) (links : w.links <+: w'.links) :
    t.Laid w' := by
  cases t with
  | link l => exact links.subset h
  | session s => exact World.Made.mono h links
  | _ => trivial

end Thing

namespace Play

/-- Whoever was handed this thing and does so cannot tell alike stages apart, runs errands, and
moves no message. -/
structure Routine (t : Thing) (x : Play α) : Prop where
  blind : IsBlind x
  errand : Keeps (fun stage stage' : Stage => stage.Enrolled → t.Counted stage.world →
    stage.world.Errands stage'.world ∧ stage'.Enrolled) x
  quiet : Keeps (fun stage stage' : Stage => stage.Genuine → t.Laid stage.world →
    stage.Quiet stage') x

variable {t t' : Thing}

/-! ## How routines compose -/

/-- Who may rely on more may do as much. -/
theorem Routine.weaken {x : Play α} (h : Routine t' x) (counted : ∀ w, t.Counted w → t'.Counted w)
    (laid : ∀ w, t.Laid w → t'.Laid w) : Routine t x :=
  ⟨h.blind, fun stage enrolled there => h.errand stage enrolled (counted _ there),
    fun stage genuine there => h.quiet stage genuine (laid _ there)⟩

theorem Routine.at {x : Play α} (h : Routine .nothing x) (t : Thing) : Routine t x :=
  h.weaken (fun _ _ => trivial) fun _ _ => trivial

/-- What follows a routine may rely on the things that it gives. -/
theorem Routine.bind_given {x : Play α} {f : α → Play β} {thing : α → Thing} (hx : Routine t x)
    (counted : ∀ stage a, stage.Enrolled → t.Counted stage.world → (x stage).1 = .ok a →
      (thing a).Counted (x stage).2.world)
    (laid : ∀ stage a, stage.Genuine → t.Laid stage.world → (x stage).1 = .ok a →
      (thing a).Laid (x stage).2.world)
    (hf : ∀ a, Routine (thing a) (f a)) : Routine t (x >>= f) := by
  refine ⟨hx.blind.bind fun a => (hf a).blind, fun stage enrolled there => ?_,
    fun stage genuine there => ?_⟩
  · obtain ⟨first, enrolled'⟩ := hx.errand stage enrolled there
    have given := counted stage
    rw [bind_apply]
    revert first enrolled' given
    rcases x stage with ⟨fault | a, stage'⟩
    · exact fun first enrolled' _ => ⟨first, enrolled'⟩
    · intro first enrolled' given
      obtain ⟨second, last⟩ := (hf a).errand stage' enrolled' (given a enrolled there rfl)
      exact ⟨first.trans second, last⟩
  · have first := hx.quiet stage genuine there
    exact quiet_bind_at first fun a given =>
      (hf a).quiet _ first.genuine (laid stage a genuine there given)

/-- What follows a routine may rely on what the routine could rely on. -/
theorem Routine.bind {x : Play α} {f : α → Play β} (hx : Routine t x)
    (hf : ∀ a, Routine t (f a)) : Routine t (x >>= f) :=
  hx.bind_given
    (fun stage _ enrolled there _ =>
      there.mono (hx.errand stage enrolled there).1.evolves.changes)
    (fun stage _ genuine there _ => there.mono (hx.quiet stage genuine there).world.links) hf

/-- An answer that does not depend on the stage. -/
theorem routine_answer (result : Except Failure α) :
    Routine t (fun stage => (result, stage) : Play α) :=
  ⟨fun _ _ _ _ h => ⟨rfl, h⟩, fun _ h _ => ⟨.refl _, h⟩, fun _ h _ => h.quiet⟩

theorem routine_pure (a : α) : Routine t (pure a) := routine_answer (.ok a)

theorem routine_throw (failure : Failure) : Routine t (throw failure : Play α) :=
  routine_answer (.error failure)

/-- A look at the stage that does not show its past. -/
theorem routine_get {f : Stage → Play β}
    (same : ∀ before before' stage stage', Stage.Alike before before' stage stage' →
      f stage' = f stage)
    (hf : ∀ stage, Routine t (f stage)) : Routine t (get >>= f) :=
  ⟨blind_get same fun stage => (hf stage).blind, keeps_get fun stage => (hf stage).errand,
    keeps_get fun stage => (hf stage).quiet⟩

theorem routine_act_at {a : Act α} (blind : a.IsBlind)
    (errand : ∀ w, t.Counted w → w.Errands (a w).2) (quiet : a.IsQuiet) : Routine t (act a) := by
  refine ⟨blind_act blind, fun stage enrolled there => ?_,
    fun stage genuine _ => quiet_act quiet stage genuine⟩
  have errands := errand stage.world there
  rw [act_apply]
  exact ⟨errands, enrolled.mapWorld errands.evolves.changes⟩

theorem routine_act {a : Act α} (blind : a.IsBlind) (errand : a.IsErrand) (quiet : a.IsQuiet) :
    Routine t (act a) :=
  routine_act_at blind (fun w _ => errand w) quiet

/-! ## Things that are given -/

/-- A routine that gives things that were made. -/
structure Gives (thing : α → Thing) (x : Play α) : Prop extends Routine .nothing x where
  counted : ∀ stage a, stage.Enrolled → (x stage).1 = .ok a → (thing a).Counted (x stage).2.world
  laid : ∀ stage a, stage.Genuine → (x stage).1 = .ok a → (thing a).Laid (x stage).2.world

theorem Gives.bind {thing : α → Thing} {x : Play α} {f : α → Play β} (hx : Gives thing x)
    (hf : ∀ a, Routine (thing a) (f a)) : Routine .nothing (x >>= f) :=
  hx.toRoutine.bind_given (fun stage a enrolled _ => hx.counted stage a enrolled)
    (fun stage a genuine _ => hx.laid stage a genuine) hf

/-- What gives back the thing that it was handed. -/
theorem Gives.handsOn {thing : α → Thing} {x : Play α} {f : α → Play α} (hx : Gives thing x)
    (hf : ∀ a, Routine (thing a) (f a))
    (same : ∀ a stage b, (f a stage).1 = .ok b → b = a) : Gives thing (x >>= f) := by
  refine ⟨hx.bind hf, fun stage b enrolled given => ?_, fun stage b genuine given => ?_⟩
  · obtain ⟨-, enrolled'⟩ := hx.errand stage enrolled trivial
    have counted := hx.counted stage
    rw [bind_apply] at given ⊢
    revert given enrolled' counted
    rcases x stage with ⟨_ | a, stage'⟩
    · exact fun given => by cases given
    · intro given enrolled' counted
      have there := counted a enrolled rfl
      cases same a stage' b given
      exact there.mono ((hf b).errand stage' enrolled' there).1.evolves.changes
  · have first := hx.quiet stage genuine trivial
    have laid := hx.laid stage
    rw [bind_apply] at given ⊢
    revert given first laid
    rcases x stage with ⟨_ | a, stage'⟩
    · exact fun given => by cases given
    · intro given first laid
      have there := laid a genuine rfl
      cases same a stage' b given
      exact there.mono ((hf b).quiet stage' first.genuine there).world.links

/-- What a name stands for, whatever it is good for. -/
theorem routine_resolve {names : Stage → Names α} (name : String)
    (apart : ∀ stage world, names { stage with world } = names stage) :
    Routine .nothing (resolve names name) :=
  ⟨blind_resolve name apart, fun stage enrolled _ => errand_resolve names name stage enrolled,
    fun stage genuine _ => quiet_resolve names name stage genuine⟩

theorem gives_registry (name : String) : Gives .registry (registry name) where
  toRoutine := routine_resolve name fun _ _ => rfl
  counted stage r enrolled found := by
    obtain ⟨mem, same⟩ := mem_of_resolve found
    rw [registry, same]
    exact enrolled _ mem
  laid _ _ _ _ := trivial

theorem gives_link (name : String) : Gives .link (link name) where
  toRoutine := routine_resolve name fun _ _ => rfl
  counted _ _ _ _ := trivial
  laid _ _ genuine := mem_links_of_link genuine

theorem gives_session (name : String) : Gives .session (session name) where
  toRoutine := routine_resolve name fun _ _ => rfl
  counted _ _ _ _ := trivial
  laid _ _ genuine := made_of_session genuine

theorem gives_newRegistry (participant : String) :
    Gives .registry (act (Act.newRegistry participant)) where
  toRoutine := routine_act (Act.blind_newRegistry _) (Act.errand_newRegistry _)
    (Act.quiet_newRegistry _)
  counted _ _ _ made := by
    cases made
    exact Nat.lt_succ_self _
  laid _ _ _ _ := trivial

theorem gives_linkMembers (a b : Member) : Gives .link (act (Act.linkMembers a b)) where
  toRoutine := routine_act (Act.blind_linkMembers _ _) (Act.errand_linkMembers _ _)
    (Act.quiet_linkMembers _ _)
  counted _ _ _ _ := trivial
  laid _ _ genuine := mem_links_of_linkMembers genuine

theorem gives_linkRegistries (a b : RegistryId) : Gives .link (act (Act.linkRegistries a b)) where
  toRoutine := routine_act (Act.blind_linkRegistries _ _) (Act.errand_linkRegistries _ _)
    (Act.quiet_linkRegistries _ _)
  counted _ _ _ _ := trivial
  laid _ _ genuine := mem_links_of_linkRegistries genuine

theorem gives_initiate (m : MockId) (counterparty : Member) :
    Gives .session (act (Act.initiate m counterparty)) where
  toRoutine := routine_act (Act.blind_initiate _ _) (Act.errand_initiate _ _)
    (Act.quiet_initiate _ _)
  counted _ _ _ _ := trivial
  laid _ _ genuine := made_of_initiate genuine

/-! ## Things that are stored -/

theorem routine_storeRegistry (name : String) (r : RegistryId) :
    Routine (.registry r) (storeRegistry name r) := by
  refine ⟨blind_modify fun _ _ => rfl, fun stage enrolled known => ⟨.refl _, fun p hp => ?_⟩,
    fun _ h _ => ⟨⟨h.linked, h.links, h.sessions⟩, .refl _⟩⟩
  rcases List.mem_cons.mp hp with rfl | hp
  · exact known
  · exact enrolled p hp

theorem routine_storeLink (name : String) (l : Link) : Routine (.link l) (storeLink name l) := by
  refine ⟨blind_modify fun _ _ => rfl, fun _ h _ => ⟨.refl _, h⟩,
    fun stage h made => ⟨⟨h.linked, fun p hp => ?_, h.sessions⟩, .refl _⟩⟩
  rcases List.mem_cons.mp hp with rfl | hp
  · exact made
  · exact h.links p hp

theorem routine_storeSession (name : String) (s : Session) :
    Routine (.session s) (storeSession name s) := by
  refine ⟨blind_modify fun _ _ => rfl, fun _ h _ => ⟨.refl _, h⟩,
    fun stage h made => ⟨⟨h.linked, h.links, fun p hp => ?_⟩, .refl _⟩⟩
  rcases List.mem_cons.mp hp with rfl | hp
  · exact made
  · exact h.sessions p hp

/-- A session of a link may be stored by whoever was handed the link. -/
theorem routine_storeSession_of_link (name : String) (l : Link) (side : Side) :
    Routine (.link l) (storeSession name (l.session side)) :=
  (routine_storeSession name (l.session side)).weaken (fun _ _ => trivial)
    fun _ made => ⟨l, made, side, rfl⟩

theorem routine_storeFlow (name : Option String) (f : Flow) : Routine t (storeFlow name f) := by
  cases name with
  | none => exact routine_pure _
  | some name => exact ⟨blind_modify fun _ _ => rfl, fun _ h _ => ⟨.refl _, h⟩,
      fun _ h _ => ⟨⟨h.linked, h.links, h.sessions⟩, .refl _⟩⟩

theorem routine_showMock (m : MockId) : Routine t (showMock m) := by
  refine routine_get (fun _ _ stage stage' h => by dsimp only; rw [h.shown]) fun stage => ?_
  dsimp only
  split
  · exact routine_pure _
  · refine Routine.bind ⟨blind_modify fun _ _ => rfl, fun _ h _ => ⟨.refl _, h⟩, ?_⟩
      fun _ => routine_pure _
    exact fun _ h _ => ⟨⟨h.linked, h.links, h.sessions⟩, .refl _⟩

theorem routine_showMocks (ms : List MockId) : Routine t (showMocks ms) := by
  induction ms with
  | nil => exact routine_pure _
  | cons m ms ih => exact (routine_showMock m).bind fun _ => ih.bind fun _ => routine_pure _

/-! ## Parts of commands -/

theorem routine_lookUp (r : RegistryId) (c : Capability) : Routine t (act (Act.mock r c)) :=
  routine_act (Act.blind_mock _ _) (Act.errand_ask _) (Act.quiet_mock _ _)

theorem routine_mock (registry : String) (c : Capability) : Routine .nothing (mock registry c) :=
  (gives_registry _).bind fun _ => routine_lookUp _ c

theorem routine_ask (question : Except Error α) : Routine t (act (Act.ask fun _ => question)) :=
  routine_act (Act.blind_ask fun _ _ _ _ _ => rfl) (Act.errand_ask _) (Act.quiet_ask _)

theorem routine_member (name : String) : Routine t (member name) := routine_ask _

theorem routine_setNodeName (m : MockId) (name : Member) :
    Routine t (act (Act.setNodeName m name)) :=
  routine_act (Act.blind_setNodeName _ _) (Act.errand_setNodeName _ _) (Act.quiet_setNodeName _ _)

/-- What remains to be done to a registry that was built. -/
theorem routine_named (r : RegistryId) (nodeName : Option String) :
    Routine t (match nodeName with
      | none => pure r
      | some name => do
        let engine ← act (Act.mock r .engine)
        let own ← member name
        act (Act.setNodeName engine own)
        return r) := by
  cases nodeName with
  | none => exact routine_pure r
  | some name =>
    refine (routine_lookUp _ _).bind fun engine => (routine_member name).bind fun own => ?_
    exact (routine_setNodeName _ _).bind fun _ => routine_pure r

theorem gives_buildRegistry (participant : String) (capabilities : List Capability)
    (nodeName : Option String) :
    Gives .registry (buildRegistry participant capabilities nodeName) := by
  have built : Gives .registry (act (Act.buildRegistry participant capabilities)) := by
    refine ⟨routine_act (Act.blind_buildRegistry _ _) (Act.errand_buildRegistry _ _)
      (Act.quiet_buildRegistry _ _), fun stage r _ made => ?_, fun _ _ _ _ => trivial⟩
    rw [act, Act.buildRegistry_apply] at made ⊢
    cases made
    exact Nat.lt_succ_self _
  refine built.handsOn (fun r => routine_named r nodeName) fun r stage r' given => ?_
  cases nodeName with
  | none => exact (Except.ok.inj given).symm
  | some name =>
    simp only [bind_apply] at given
    repeat' split at given
    all_goals cases given
    rfl

theorem routine_createFlow (r : RegistryId) (name : Option String) (choice : FlowChoice) :
    Routine (.registry r) (createFlow r name choice) := by
  have created {α : Type} (flow : Blueprint α) :
      Routine (.registry r) (act (Act.createFlow r flow)) :=
    routine_act_at (Act.blind_createFlow _ _) (Act.errand_createFlow r flow)
      (Act.quiet_createFlow _ _)
  cases choice with
  | outgoing =>
    exact (created _).bind fun flow => (routine_storeFlow _ _).bind fun _ => routine_pure _
  | incoming =>
    exact (created _).bind fun flow => (routine_storeFlow _ _).bind fun _ => routine_pure _
  | scripted flow =>
    refine (created _).bind fun mocks => (routine_storeFlow _ _).bind fun _ => ?_
    refine routine_get (fun _ _ stage stage' h => by rw [h.world.registry]) fun stage => ?_
    exact (routine_showMocks _).bind fun _ => routine_pure _

theorem routine_failIfPending (l : Link) : Routine t (act (Act.attempt (Act.failIfPending l))) :=
  routine_act (Act.blind_failIfPending l).attempt (keeps_attempt (Act.errand_failIfPending l))
    (Act.quiet_failIfPending l).attempt

theorem routine_describeLink (l : Link) : Routine t (describeLink l) := by
  refine routine_get (fun _ _ stage stage' h => ?_) fun stage => ?_
  · dsimp only
    rw [h.world.pendingMessages, h.world.pendingKinds, h.world.pendingInbound,
      h.world.pendingInbound]
  · exact (routine_failIfPending l).bind fun _ => routine_pure _

theorem routine_assertNonePending (l : Link) : Routine t (assertNonePending l) := by
  refine (routine_failIfPending l).bind fun result => ?_
  cases result with
  | ok => exact routine_pure _
  | error e =>
    exact routine_get (fun _ _ _ _ h => by dsimp only; rw [h.world.pendingKinds])
      fun _ => routine_throw _

theorem routine_describeSession (s : Session) : Routine t (describeSession s) :=
  routine_get (fun _ _ _ _ h => by dsimp only; rw [h.world.pendingInbound]) fun _ => routine_pure _

end Play

/-! ## Commands -/

open Play

namespace Command

/-- The commands that send or receive messages; a call of a flow may do either. -/
def Moves : Command → Prop
  | send _ _ | receive _ _ | call _ _ => True
  | _ => False

/-- **All other commands are routines.** -/
theorem routine_run (c : Command) (still : ¬ c.Moves) : Routine .nothing (c.run me) := by
  cases c with
  | inquire question => exact routine_answer _
  | assertLast which =>
    refine routine_get (fun _ _ stage stage' h => by rw [h.lastRun]) fun stage => ?_
    cases stage.lastRun with
    | none => exact routine_throw _
    | some result => exact routine_answer _
  | newRegistry r participant =>
    exact (gives_newRegistry _).bind fun id =>
      (routine_storeRegistry _ _).bind fun _ => routine_pure _
  | buildRegistry r participant capabilities own =>
    exact (gives_buildRegistry _ _ _).bind fun id =>
      (routine_storeRegistry _ _).bind fun _ => routine_pure _
  | copyRegistry r source =>
    exact (gives_registry _).bind fun id =>
      (routine_storeRegistry _ _).bind fun _ => routine_pure _
  | register r c =>
    refine (gives_registry _).bind fun id => Routine.bind ?_ fun m =>
      (routine_showMock _).bind fun _ => routine_pure _
    exact routine_act_at (Act.blind_register _ _) (Act.errand_register id c)
      (Act.quiet_register _ _)
  | lookUp r c =>
    exact (routine_mock _ _).bind fun m => (routine_showMock m).bind fun _ => routine_pure _
  | contains r c =>
    refine (gives_registry _).bind fun id => ?_
    exact routine_get (fun _ _ _ _ h => by rw [h.world.registry]) fun _ => routine_pure _
  | describeRegistry r =>
    refine (gives_registry _).bind fun id => ?_
    exact routine_get (fun _ _ _ _ h => by dsimp only; rw [h.world.registry]) fun _ =>
      routine_pure _
  | createFlow r choice name => exact (gives_registry _).bind fun id => routine_createFlow _ _ _
  | setNodeName r name =>
    refine (routine_mock _ _).bind fun engine => (routine_member _).bind fun own => ?_
    exact (routine_setNodeName _ _).bind fun _ => routine_pure _
  | nodeName r =>
    refine (routine_mock _ _).bind fun engine => Routine.bind ?_ fun _ => routine_pure _
    exact routine_act (Act.blind_nodeName _) (Act.errand_ask _) (Act.quiet_nodeName _)
  | setSubFlow r flow result =>
    refine (routine_mock _ _).bind fun engine => Routine.bind ?_ fun _ => routine_pure _
    exact routine_act (Act.blind_setSubFlow _ _ _) (Act.errand_setSubFlow _ _ _)
      (Act.quiet_setSubFlow _ _ _)
  | subFlow r flow input =>
    refine (routine_mock _ _).bind fun engine => Routine.bind ?_ fun _ => routine_pure _
    exact routine_act (Act.blind_subFlow _ _ _) (Act.errand_subFlow _ _ _)
      (Act.quiet_subFlow _ _ _)
  | subFlowCalls r =>
    refine (routine_mock _ _).bind fun engine => ?_
    exact routine_get (fun _ _ _ _ h => by rw [h.world.engines]) fun _ => routine_pure _
  | initiate r counterparty name =>
    refine (routine_mock _ _).bind fun m => (routine_member _).bind fun other => ?_
    refine (gives_initiate _ _).bind fun opened => ?_
    cases name with
    | none => exact routine_pure _
    | some name => exact (routine_storeSession _ _).bind fun _ => routine_pure _
  | initiated r =>
    refine (routine_mock _ _).bind fun m => ?_
    exact routine_get (fun _ _ _ _ h => by rw [h.world.messagings]) fun _ => routine_pure _
  | wasInitiated r counterparty =>
    refine (routine_mock _ _).bind fun m => (routine_member _).bind fun other => ?_
    exact routine_get (fun _ _ _ _ h => by rw [h.world.messagings]) fun _ => routine_pure _
  | format r p =>
    cases r with
    | none => exact (routine_ask _).bind fun _ => routine_pure _
    | some r =>
      refine (routine_mock _ _).bind fun m => Routine.bind ?_ fun _ => routine_pure _
      exact routine_act (Act.blind_format _ _) (Act.errand_format _ _) (Act.quiet_format _ _)
  | parse r k text =>
    cases r with
    | none => exact (routine_ask _).bind fun _ => routine_pure _
    | some r =>
      refine (routine_mock _ _).bind fun m => Routine.bind ?_ fun _ => routine_pure _
      exact routine_act (Act.blind_parse _ _ _) (Act.errand_parse _ _ _) (Act.quiet_parse _ _ _)
  | marshallingCalls r =>
    refine (routine_mock _ _).bind fun m => ?_
    exact routine_get (fun _ _ _ _ h => by rw [h.world.marshallings]) fun _ => routine_pure _
  | persist r p =>
    refine (routine_mock _ _).bind fun m => Routine.bind ?_ fun _ => routine_pure _
    exact routine_act (Act.blind_persist _ _) (Act.errand_persist _ _) (Act.quiet_persist _ _)
  | findAll r k =>
    refine (routine_mock _ _).bind fun m => Routine.bind ?_ fun _ => routine_pure _
    exact routine_act (Act.blind_findAll _ _) (Act.errand_ask _) (Act.quiet_findAll _ _)
  | count r k =>
    refine (routine_mock _ _).bind fun m => ?_
    exact routine_get (fun _ _ _ _ h => by rw [h.world.persistences]) fun _ => routine_pure _
  | isEmpty r =>
    refine (routine_mock _ _).bind fun m => ?_
    exact routine_get (fun _ _ _ _ h => by rw [h.world.persistences]) fun _ => routine_pure _
  | linkRegistries name a b =>
    refine (gives_registry _).bind fun a => Routine.at ?_ (.registry a)
    refine (gives_registry _).bind fun b => Routine.at ?_ (.registry b)
    exact (gives_linkRegistries _ _).bind fun l =>
      (routine_storeLink _ _).bind fun _ => routine_pure _
  | linkMembers name a b =>
    refine (routine_member _).bind fun a => (routine_member _).bind fun b => ?_
    exact (gives_linkMembers _ _).bind fun l =>
      (routine_storeLink _ _).bind fun _ => routine_pure _
  | sessions name a b =>
    refine (gives_link _).bind fun l => (routine_storeSession_of_link _ _ _).bind fun _ => ?_
    exact (routine_storeSession_of_link _ _ _).bind fun _ => routine_pure _
  | takeSession name side as =>
    refine (gives_link _).bind fun l => ?_
    exact (routine_storeSession_of_link _ _ _).bind fun _ => routine_pure _
  | copySession name copy =>
    refine (gives_session _).bind fun s => ?_
    exact (routine_storeSession _ _).bind fun _ => routine_pure _
  | sameLink name other =>
    refine (gives_link _).bind fun l => Routine.at ?_ (.link l)
    exact (gives_link _).bind fun _ => routine_pure _
  | describeLink name => exact (gives_link _).bind fun l => routine_describeLink l
  | assertNonePending name => exact (gives_link _).bind fun l => routine_assertNonePending l
  | describeSession name => exact (gives_session _).bind fun s => routine_describeSession s
  | send | receive | call => exact absurd trivial still

/-- **Every command answers the same on alike stages**, and leaves them alike. -/
theorem blind_run (me : Waiter) (c : Command) : IsBlind (c.run me) := by
  by_cases still : c.Moves
  · cases c with
    | send name p =>
      refine (blind_session _).bind fun s => ?_
      exact (blind_act (Act.blind_send _ _)).bind fun _ => blind_pure _
    | receive name k => exact (blind_session _).bind fun s => blind_lookOnce me _
    | call name input =>
      refine (blind_call name input).bind fun called => ?_
      cases called with
      | answered a => exact blind_pure a
      | receives r => exact blind_lookOnce me r
    | _ => exact still.elim
  · exact (c.routine_run still).blind

/-- **Every command is an errand**, and the names of registries stay good. -/
theorem errand_run (me : Waiter) (c : Command) : (c.run me).IsErrand := by
  by_cases still : c.Moves
  · cases c with
    | send name p =>
      refine (errand_resolve _ _).bind fun s => ?_
      exact (errand_act (Act.errand_send _ _)).bind fun _ => errand_pure _
    | receive name k => exact (errand_resolve _ _).bind fun s => errand_lookOnce me _
    | call name input =>
      refine (errand_call name input).bind fun called => ?_
      cases called with
      | answered a => exact errand_pure a
      | receives x => exact errand_lookOnce me x
    | _ => exact still.elim
  · exact fun stage enrolled => (c.routine_run still).errand stage enrolled trivial

/-- **A command sends at most one message**, and keeps what the names of the stage stand for. -/
theorem moves_run (c : Command) {stage : Stage} (genuine : stage.Genuine) :
    Stage.Moves me 1 stage (c.run me stage).2 := by
  by_cases still : c.Moves
  · cases c with
    | send name p =>
      have named := quiet_resolve (·.sessions) name stage genuine
      refine moves_bind_at named fun s found => ?_
      have made := made_of_session genuine found
      exact moves_bind_quiet (moves_act named.genuine (World.moves_send made p)) fun _ =>
        quiet_pure _
    | receive name k =>
      have named := quiet_resolve (·.sessions) name stage genuine
      refine moves_bind_at named fun s found => ?_
      exact Play.moves_lookOnce named.genuine (made_of_session genuine found)
    | call name input =>
      have calls : Calls me stage _ _ := calls_call name input genuine
      rw [run, bind_apply]
      cases h : Play.call name input stage with
      | mk r stage' =>
        rw [h] at calls
        rcases r with _ | _ | reception
        · exact calls.moves
        · exact calls.moves
        · obtain ⟨quiet, made⟩ := calls.receives reception rfl
          exact quiet.before (Play.moves_lookOnce quiet.genuine made)
    | _ => exact still.elim
  · exact ((c.routine_run still).quiet stage genuine trivial).moves 1

end Command

end Rehearsal
