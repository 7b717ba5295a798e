import Rehearsal.Proofs.Alike.Worlds
import Rehearsal.Proofs.Scenario.Quiet

/-!
# Stages that differ in their past

Two stages are alike if they have the same names for the same things and their worlds are alike. An
action that cannot tell them apart answers the same on both and leaves them alike.
-/

namespace Rehearsal

variable {α β : Type} {me : Waiter} {before before' : List Event}

/-! ## Receptions -/

namespace Reception

theorem alike_start (r : Reception) {w w' : World} (h : World.Alike before before' w w') :
    World.Alike before before' (r.start w) (r.start w') :=
  h.awaitMessage r.session r.kind

theorem blind_finish (r : Reception) (v : r.kind.Value) : Act.IsBlind (r.finish v) := by
  cases r with
  | keep => exact Act.blind_pure _
  | relay => exact (Act.blind_send _ _).bind fun _ => Act.blind_pure _
  | record => exact (Act.blind_persist _ _).bind fun _ => Act.blind_pure _

/-- A look comes to the same in both worlds. -/
theorem alike_look (r : Reception) (me : Waiter) {w w' : World}
    (h : World.Alike before before' w w') : (r.look me w').1 = (r.look me w).1 ∧
      World.Alike before before' (r.look me w).2 (r.look me w').2 := by
  obtain ⟨found, looked⟩ := h.lookFor me r.session
  unfold look
  revert found looked
  rcases w.lookFor me r.session with ⟨e, w₁⟩
  rcases w'.lookFor me r.session with ⟨e', w₁'⟩
  rintro ⟨⟩ looked
  cases e with
  | none => exact ⟨rfl, looked⟩
  | some e =>
    dsimp only
    cases e.parcel.receive r.kind with
    | error e => exact ⟨rfl, looked⟩
    | ok v =>
      obtain ⟨same, finished⟩ := blind_finish r v before before' w₁ w₁' looked
      exact ⟨congrArg some same, finished⟩

theorem alike_lookOnce (r : Reception) (me : Waiter) {w w' : World}
    (h : World.Alike before before' w w') : (r.lookOnce me w').1 = (r.lookOnce me w).1 ∧
      World.Alike before before' (r.lookOnce me w).2 (r.lookOnce me w').2 := by
  obtain ⟨found, looked⟩ := r.alike_look me (r.alike_start h)
  unfold lookOnce
  revert found looked
  rcases r.look me (r.start w) with ⟨result, w₁⟩
  rcases r.look me (r.start w') with ⟨result', w₁'⟩
  rintro ⟨⟩ looked
  cases result with
  | none => exact ⟨rfl, looked.withdraw me r.session⟩
  | some result => exact ⟨rfl, looked⟩

theorem blind_ofIncoming (flow : Chat.IncomingFlow) (s : Session) :
    Act.IsBlind (ofIncoming flow s) :=
  (Act.blind_nodeName _).bind fun _ => Act.blind_pure _

end Reception

theorem Act.blind_outgoing (flow : Chat.OutgoingFlow) (request : FlowRequest) :
    Act.IsBlind (flow.call request) := by
  refine (blind_parse _ _ _).bind fun parameter => ?_
  refine (blind_ask fun _ _ _ _ _ => rfl).bind fun recipient => ?_
  refine (blind_nodeName _).bind fun own => (blind_initiate _ _).bind fun session => ?_
  refine (blind_send _ _).bind fun _ => (blind_persist _ _).bind fun _ => ?_
  exact blind_pure _

/-! ## Stages -/

/-- Two stages that are the same but for their worlds, which are alike. -/
structure Stage.Alike (before before' : List Event) (stage stage' : Stage) : Prop where
  rest : stage' = { stage with world := stage'.world }
  world : World.Alike before before' stage.world stage'.world

namespace Stage.Alike

variable {stage stage' : Stage}

theorem shown (h : Alike before before' stage stage') : stage'.shown = stage.shown := by rw [h.rest]

theorem lastRun (h : Alike before before' stage stage') : stage'.lastRun = stage.lastRun := by
  rw [h.rest]

/-- The names stay as they are while the worlds go on. -/
theorem mapWorld (h : Alike before before' stage stage') {w w' : World}
    (alike : World.Alike before before' w w') :
    Alike before before' { stage with world := w } { stage' with world := w' } := by
  refine ⟨?_, alike⟩
  rw [h.rest]

/-- A change that knows nothing of the world. -/
theorem change (h : Alike before before' stage stage') {f : Stage → Stage}
    (apart : ∀ stage world, f { stage with world } = { f stage with world }) :
    Alike before before' (f stage) (f stage') := by
  have same : ∀ stage, (f stage).world = stage.world := fun stage => by
    have own : f stage = { f stage with world := stage.world } := apart stage stage.world
    rw [own]
  have moved : f stage' = { f stage with world := stage'.world } := by
    rw [← apart, ← h.rest]
  refine ⟨?_, ?_⟩
  · rw [same stage']
    exact moved
  · rw [same stage, same stage']
    exact h.world

end Stage.Alike

namespace Play

/-- Nobody who does this can tell alike stages apart. -/
def IsBlind (x : Play α) : Prop :=
  ∀ before before', Agrees (Stage.Alike before before') x

theorem blind_pure (a : α) : IsBlind (pure a) := fun _ _ => agrees_pure a

theorem blind_throw (failure : Failure) : IsBlind (throw failure : Play α) :=
  fun _ _ => agrees_throw failure

theorem IsBlind.bind {x : Play α} {f : α → Play β} (hx : IsBlind x) (hf : ∀ a, IsBlind (f a)) :
    IsBlind (x >>= f) :=
  fun before before' => (hx before before').bind fun a => hf a before before'

theorem blind_get {f : Stage → Play β}
    (same : ∀ before before' stage stage', Stage.Alike before before' stage stage' →
      f stage' = f stage)
    (hf : ∀ stage, IsBlind (f stage)) : IsBlind (get >>= f) :=
  fun before before' => agrees_get (same before before') fun stage => hf stage before before'

/-- What the names stand for is the same on both stages. -/
theorem blind_modify {f : Stage → Stage}
    (apart : ∀ stage world, f { stage with world } = { f stage with world }) :
    IsBlind (modify f) :=
  fun _ _ => agrees_modify fun _ _ h => h.change apart

theorem blind_act {a : Act α} (h : a.IsBlind) : IsBlind (act a) := by
  intro before before' stage stage' alike
  obtain ⟨same, after⟩ := h before before' stage.world stage'.world alike.world
  rw [act_apply, act_apply, same]
  exact ⟨rfl, alike.mapWorld after⟩

theorem blind_resolve {names : Stage → Names α} (name : String)
    (apart : ∀ stage world, names { stage with world } = names stage) :
    IsBlind (resolve names name) := by
  intro before before' stage stage' alike
  have same : names stage' = names stage := by rw [alike.rest, apart]
  rw [resolve_apply, resolve_apply, same]
  cases (names stage).lookup name with
  | some a => exact ⟨rfl, alike⟩
  | none => exact ⟨rfl, alike⟩

theorem blind_session (name : String) : IsBlind (session name) := blind_resolve name fun _ _ => rfl

theorem blind_flow (name : String) : IsBlind (flow name) := blind_resolve name fun _ _ => rfl

/-! ## Parts of commands -/

theorem blind_ask_value (question : Except Error α) : IsBlind (act (Act.ask fun _ => question)) :=
  blind_act (Act.blind_ask fun _ _ _ _ _ => rfl)

theorem blind_needed (part : String) (a : Option α) : IsBlind (needed part a) := by
  cases a with
  | none => exact blind_throw _
  | some a => exact blind_pure a

theorem blind_call (name : String) (input : CallInput) : IsBlind (call name input) := by
  refine (blind_flow name).bind fun f => ?_
  cases f with
  | outgoing f =>
    refine (blind_needed _ _).bind fun source => (blind_ask_value _).bind fun request => ?_
    exact (blind_act (Act.blind_outgoing _ _)).bind fun _ => blind_pure _
  | incoming f =>
    refine (blind_needed _ _).bind fun name => (blind_session name).bind fun s => ?_
    exact (blind_act (Reception.blind_ofIncoming f s)).bind fun _ => blind_pure _
  | scripted => exact blind_pure _

theorem blind_lookOnce (me : Waiter) (r : Reception) : IsBlind (lookOnce me r) := by
  intro before before' stage stage' alike
  obtain ⟨same, after⟩ := r.alike_lookOnce me alike.world
  unfold lookOnce
  revert same after
  rcases r.lookOnce me stage.world with ⟨result, w⟩
  rcases r.lookOnce me stage'.world with ⟨result', w'⟩
  rintro ⟨⟩ after
  rcases result with _ | _ | a
  · exact ⟨rfl, alike.mapWorld after⟩
  · exact ⟨rfl, alike.mapWorld after⟩
  · exact ⟨rfl, alike.mapWorld after⟩

end Play

end Rehearsal
