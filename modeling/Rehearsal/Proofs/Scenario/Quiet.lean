import Rehearsal.Proofs.Scenario.Receptions
import Rehearsal.Scenario.Command

/-!
# Actions that leave the messages alone

The names of a stage stand for links that were made and for their sessions. An action keeps them so
and moves no message, or it moves as much as somebody does who does not wait.
-/

namespace Rehearsal

variable {α β : Type} {me : Waiter}

namespace Stage

/-- Named links were made, and named sessions are sessions of such links. -/
structure Genuine (stage : Stage) : Prop where
  linked : stage.world.Linked
  links : ∀ p ∈ stage.links, p.2 ∈ stage.world.links
  sessions : ∀ p ∈ stage.sessions, stage.world.Made p.2

theorem Genuine.empty : ({} : Stage).Genuine :=
  ⟨World.Linked.empty, by simp, by simp⟩

/-- The names stay as they are while the world goes on. -/
theorem Genuine.mapWorld {stage : Stage} (h : stage.Genuine) {w : World} (linked : w.Linked)
    (links : stage.world.links <+: w.links) : ({ stage with world := w } : Stage).Genuine :=
  ⟨linked, fun p hp => links.subset (h.links p hp), fun p hp => (h.sessions p hp).mono links⟩

/-- A genuine stage follows, and no message moved. -/
structure Quiet (stage stage' : Stage) : Prop where
  genuine : stage'.Genuine
  world : stage.world.Quiet stage'.world

theorem Genuine.quiet {stage : Stage} (h : stage.Genuine) : stage.Quiet stage :=
  ⟨h, .refl _⟩

theorem Quiet.trans {stage stage' stage'' : Stage} (h : stage.Quiet stage')
    (h' : stage'.Quiet stage'') : stage.Quiet stage'' :=
  ⟨h'.genuine, h.world.trans h'.world⟩

/-- A genuine stage follows, by what somebody did who does not wait. -/
structure Moves (me : Waiter) (n : Nat) (stage stage' : Stage) : Prop where
  genuine : stage'.Genuine
  world : ∃ ts, World.Acts me stage.world ts stage'.world ∧ Transfer.sends ts ≤ n

theorem Quiet.moves {stage stage' : Stage} (h : stage.Quiet stage') (n : Nat) :
    Moves me n stage stage' :=
  ⟨h.genuine, [], .quiet h.world, Nat.zero_le n⟩

theorem Quiet.before {stage stage' stage'' : Stage} {n : Nat} (h : stage.Quiet stage')
    (h' : Moves me n stage' stage'') : Moves me n stage stage'' := by
  obtain ⟨ts, acts, bound⟩ := h'.world
  exact ⟨h'.genuine, ts, .after h.world acts, bound⟩

theorem Moves.before {stage stage' stage'' : Stage} {n : Nat} (h : Moves me n stage stage')
    (h' : stage'.Quiet stage'') : Moves me n stage stage'' := by
  obtain ⟨ts, acts, bound⟩ := h.world
  exact ⟨h'.genuine, ts, .before acts h'.world, bound⟩

/-- What is done in the world of a stage. -/
theorem Genuine.moves {stage : Stage} (h : stage.Genuine) {n : Nat} {w : World}
    (moves : World.Moves me n stage.world w) : Moves me n stage { stage with world := w } := by
  obtain ⟨ts, acts, bound⟩ := moves h.linked
  exact ⟨h.mapWorld (acts.exchange.linked h.linked) acts.exchange.links, ts, acts, bound⟩

end Stage

namespace Play

/-- From a genuine stage on, the action moves no message. -/
def IsQuiet (x : Play α) : Prop :=
  Keeps (fun stage stage' : Stage => stage.Genuine → stage.Quiet stage') x

/-! ## How quiet actions compose -/

theorem quiet_pure (a : α) : IsQuiet (pure a) := fun _ h => h.quiet

theorem quiet_throw (failure : Failure) : IsQuiet (throw failure : Play α) := fun _ h => h.quiet

theorem IsQuiet.bind {x : Play α} {f : α → Play β} (hx : IsQuiet x) (hf : ∀ a, IsQuiet (f a)) :
    IsQuiet (x >>= f) :=
  keeps_bind (fun _ _ _ h h' g => (h g).trans (h' (h g).genuine)) hx hf

/-- What follows a quiet action may rely on what that action gave. -/
theorem quiet_bind_at {x : Play α} {f : α → Play β} {stage : Stage}
    (hx : stage.Quiet (x stage).2)
    (hf : ∀ a, (x stage).1 = .ok a → (x stage).2.Quiet (f a (x stage).2).2) :
    stage.Quiet ((x >>= f) stage).2 := by
  rw [bind_apply]
  cases h : x stage with
  | mk r stage' =>
    rw [h] at hx hf
    cases r with
    | ok a => exact hx.trans (hf a rfl)
    | error e => exact hx

/-- What follows a quiet action may move messages. -/
theorem moves_bind_at {n : Nat} {x : Play α} {f : α → Play β} {stage : Stage}
    (hx : stage.Quiet (x stage).2)
    (hf : ∀ a, (x stage).1 = .ok a → Stage.Moves me n (x stage).2 (f a (x stage).2).2) :
    Stage.Moves me n stage ((x >>= f) stage).2 := by
  rw [bind_apply]
  cases h : x stage with
  | mk r stage' =>
    rw [h] at hx hf
    cases r with
    | ok a => exact hx.before (hf a rfl)
    | error e => exact hx.moves n

/-- What follows an action that moves messages may be quiet. -/
theorem moves_bind_quiet {n : Nat} {x : Play α} {f : α → Play β} {stage : Stage}
    (hx : Stage.Moves me n stage (x stage).2) (hf : ∀ a, IsQuiet (f a)) :
    Stage.Moves me n stage ((x >>= f) stage).2 := by
  rw [bind_apply]
  cases h : x stage with
  | mk r stage' =>
    rw [h] at hx
    cases r with
    | ok a => exact hx.before (hf a stage' hx.genuine)
    | error e => exact hx

/-! ## Actions on the world -/

theorem act_apply (a : Act α) (stage : Stage) : act a stage =
    ((a stage.world).1.mapError .error, { stage with world := (a stage.world).2 }) := by
  unfold act
  rcases a stage.world with ⟨r, w⟩
  cases r <;> rfl

theorem quiet_act {a : Act α} (h : a.IsQuiet) : IsQuiet (act a) := by
  intro stage genuine
  have quiet := h stage.world
  rw [act_apply]
  exact ⟨genuine.mapWorld (quiet.linked genuine.linked) quiet.links, quiet⟩

theorem moves_act {n : Nat} {a : Act α} {stage : Stage} (genuine : stage.Genuine)
    (h : World.Moves me n stage.world (a stage.world).2) :
    Stage.Moves me n stage (act a stage).2 := by
  rw [act_apply]
  exact genuine.moves h

/-- What an action on the world gives, it gives in the world it leaves. -/
theorem ok_of_act {a : Act α} {stage : Stage} {x : α} (h : (act a stage).1 = .ok x) :
    (a stage.world).1 = .ok x := by
  rw [act_apply] at h
  cases ha : (a stage.world).1 with
  | ok y =>
    rw [ha] at h
    exact congrArg Except.ok (Except.ok.inj h)
  | error e =>
    rw [ha] at h
    cases h

/-- A session that an attempt to open one gives was made. -/
theorem made_of_initiate {m : MockId} {counterparty : Member} {stage : Stage} {s : Session}
    (genuine : stage.Genuine) (h : (act (Act.initiate m counterparty) stage).1 = .ok s) :
    (act (Act.initiate m counterparty) stage).2.world.Made s := by
  rw [act_apply]
  exact Act.made_of_initiate genuine.linked (ok_of_act h)

/-- A link between registries that is handed out was made. -/
theorem mem_links_of_linkRegistries {a b : RegistryId} {stage : Stage} {l : Link}
    (_ : stage.Genuine) (h : (act (Act.linkRegistries a b) stage).1 = .ok l) :
    l ∈ (act (Act.linkRegistries a b) stage).2.world.links := by
  rw [act_apply]
  exact Act.mem_links_of_linkRegistries (ok_of_act h)

/-- A link between members was made. -/
theorem mem_links_of_linkMembers {a b : Member} {stage : Stage} {l : Link}
    (_ : stage.Genuine) (h : (act (Act.linkMembers a b) stage).1 = .ok l) :
    l ∈ (act (Act.linkMembers a b) stage).2.world.links := by
  rw [act_apply]
  cases ok_of_act h
  exact Act.mem_links_addLink _ a b

/-! ## Names -/

theorem resolve_apply (names : Stage → Names α) (name : String) (stage : Stage) :
    resolve names name stage = (match (names stage).lookup name with
      | some a => (.ok a, stage)
      | none => (.error (.unknown name), stage)) := by
  unfold resolve
  rw [bind_apply, get_apply]
  cases h : (names stage).lookup name <;> simp [h, pure_apply, throw_apply]

theorem quiet_resolve (names : Stage → Names α) (name : String) : IsQuiet (resolve names name) := by
  intro stage genuine
  rw [resolve_apply]
  cases (names stage).lookup name <;> exact genuine.quiet

/-- A name gives what is stored under it, and the stage stays as it is. -/
theorem mem_of_resolve {names : Stage → Names α} {name : String} {stage : Stage} {a : α}
    (h : (resolve names name stage).1 = .ok a) :
    (name, a) ∈ names stage ∧ (resolve names name stage).2 = stage := by
  rw [resolve_apply] at h ⊢
  cases found : (names stage).lookup name with
  | some b =>
    rw [found] at h
    cases h
    exact ⟨mem_of_lookup found, rfl⟩
  | none =>
    rw [found] at h
    cases h

/-- A named session was made. -/
theorem made_of_session {name : String} {stage : Stage} {s : Session} (genuine : stage.Genuine)
    (h : (session name stage).1 = .ok s) : (session name stage).2.world.Made s := by
  obtain ⟨found, same⟩ := mem_of_resolve h
  rw [session, same]
  exact genuine.sessions _ found

/-- A named link was made. -/
theorem mem_links_of_link {name : String} {stage : Stage} {l : Link} (genuine : stage.Genuine)
    (h : (link name stage).1 = .ok l) : l ∈ (link name stage).2.world.links := by
  obtain ⟨found, same⟩ := mem_of_resolve h
  rw [link, same]
  exact genuine.links _ found

/-- A reception that does not wait. -/
theorem moves_lookOnce {r : Reception} {stage : Stage} (genuine : stage.Genuine)
    (made : r.Made stage.world) : Stage.Moves me 1 stage (lookOnce me r stage).2 := by
  have moves : Stage.Moves me 1 stage _ := genuine.moves (Reception.moves_lookOnce made)
  unfold lookOnce
  split
  all_goals
    rename_i h
    rw [h] at moves
    exact moves

/-! ## Calls of flows -/

theorem quiet_needed (part : String) (a : Option α) : IsQuiet (needed part a) := by
  cases a with
  | none => exact quiet_throw _
  | some a => exact quiet_pure a

theorem quiet_ofIncoming (flow : Chat.IncomingFlow) (s : Session) :
    (Reception.ofIncoming flow s).IsQuiet :=
  (Act.quiet_nodeName _).bind fun _ => Act.quiet_pure _

/-- The reception of an incoming chat flow is one on the session that the flow was called with. -/
theorem made_of_ofIncoming {flow : Chat.IncomingFlow} {s : Session} {w : World} {r : Reception}
    (made : w.Made s) (h : (Reception.ofIncoming flow s w).1 = .ok r) : r.Made w := by
  simp only [Reception.ofIncoming, Act.nodeName, bind_apply, ask_apply] at h
  cases own : (w.engines.get flow.engine).virtualNodeName with
  | ok m =>
    rw [own] at h
    cases h
    exact made
  | error e =>
    rw [own] at h
    cases h

/-- What comes of calling a flow: something that may have sent a message, or a reception. -/
structure Calls (me : Waiter) (stage : Stage) (r : Except Failure Called) (stage' : Stage) :
    Prop where
  moves : Stage.Moves me 1 stage stage'
  receives : ∀ reception, r = .ok (.receives reception) →
    stage.Quiet stage' ∧ reception.Made stage'.world

theorem Calls.of_moves {stage stage' : Stage} {r : Except Failure Called}
    (h : Stage.Moves me 1 stage stage') (answered : ∀ reception, r ≠ .ok (.receives reception)) :
    Calls me stage r stage' :=
  ⟨h, fun reception he => absurd he (answered reception)⟩

/-- An outgoing chat is answered in the call, whether it fails or not. -/
theorem calls_outgoing (f : Chat.OutgoingFlow) (input : CallInput) {stage : Stage}
    (genuine : stage.Genuine) :
    let x : Play Called := do
      let source ← needed "the request of a call" input.request
      let request ← act (Act.ask fun _ => source.request)
      return .answered (.text (← act (f.call request)))
    Calls me stage (x stage).1 (x stage).2 := by
  intro x
  refine .of_moves ?_ fun reception h => ?_
  · refine moves_bind_at (quiet_needed _ _ stage genuine) fun source _ => ?_
    have genuine' := (quiet_needed "the request of a call" input.request stage genuine).genuine
    have asked := quiet_act (Act.quiet_ask fun _ => source.request) _ genuine'
    refine moves_bind_at asked fun request _ => ?_
    have sent : World.Moves me 1 _ _ := Act.moves_outgoing f request asked.genuine.linked
    exact moves_bind_quiet (moves_act asked.genuine sent) fun _ => quiet_pure _
  · simp only [x, bind_apply] at h
    repeat' split at h
    all_goals cases h

/-- An incoming chat goes on with a reception, and nothing has happened yet. -/
theorem calls_incoming (f : Chat.IncomingFlow) (input : CallInput) {stage : Stage}
    (genuine : stage.Genuine) :
    let x : Play Called := do
      let s ← session (← needed "the session of a call" input.session)
      return .receives (← act (Reception.ofIncoming f s))
    Calls me stage (x stage).1 (x stage).2 := by
  intro x
  have named := quiet_needed "the session of a call" input.session stage genuine
  have quiet : stage.Quiet (x stage).2 := by
    refine quiet_bind_at named fun name _ => ?_
    refine ((quiet_resolve _ name).bind fun s => ?_) _ named.genuine
    exact (quiet_act (quiet_ofIncoming f s)).bind fun _ => quiet_pure _
  refine ⟨quiet.moves 1, fun reception h => ⟨quiet, ?_⟩⟩
  obtain ⟨name, hn⟩ : ∃ name, input.session = some name := by
    cases given : input.session with
    | none =>
      simp only [x, given] at h
      cases h
    | some name => exact ⟨name, rfl⟩
  simp only [x, hn, bind_apply, needed, pure_apply, act_apply] at h ⊢
  cases found : session name stage with
  | mk found' stage' =>
    rw [found] at h
    cases found' with
    | error e => cases h
    | ok s =>
      have made : stage'.world.Made s := by
        have named : (session name stage).2.world.Made s :=
          made_of_session genuine (by rw [found])
        rwa [found] at named
      cases given : Reception.ofIncoming f s stage'.world with
      | mk given' w =>
        have grows := (quiet_ofIncoming f s stage'.world).links
        have own := fun r (h : (Reception.ofIncoming f s stage'.world).1 = .ok r) =>
          made_of_ofIncoming made h
        simp only [given] at h grows own ⊢
        cases given' with
        | error e => cases h
        | ok r =>
          cases h
          exact (own reception rfl).mono grows

theorem calls_call (name : String) (input : CallInput) {stage : Stage} (genuine : stage.Genuine) :
    Calls me stage (call name input stage).1 (call name input stage).2 := by
  rw [call, bind_apply]
  have found := quiet_resolve (·.flows) name stage genuine
  have same : (flow name stage).2 = stage := by
    rw [flow, resolve_apply]
    cases stage.flows.lookup name <;> rfl
  rcases h : flow name stage with ⟨_ | f, stage'⟩
  · rw [h] at same
    subst same
    exact .of_moves (genuine.quiet.moves 1) (by simp)
  · rw [h] at same
    subst same
    cases f with
    | outgoing f => exact calls_outgoing f input genuine
    | incoming f => exact calls_incoming f input genuine
    | scripted => exact .of_moves (genuine.quiet.moves 1) (by simp [pure_apply])

end Play

end Rehearsal
