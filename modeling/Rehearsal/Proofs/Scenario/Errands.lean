import Rehearsal.Proofs.Scenario.Quiet
import Rehearsal.Proofs.World.Errands

/-!
# Actions that run errands

The names of registries stand for registries that there are. An action that runs errands keeps them
so, and whatever it does to the world is done by errands.
-/

namespace Rehearsal

variable {α β : Type} {me : Waiter} {r : RegistryId}

/-- Named registries were made. -/
def Stage.Enrolled (stage : Stage) : Prop :=
  ∀ p ∈ stage.registries, p.2 < stage.world.registryCount

theorem Stage.Enrolled.empty : ({} : Stage).Enrolled := by
  intro p hp
  cases hp

/-- The names stay as they are while the world goes on. -/
theorem Stage.Enrolled.mapWorld {stage : Stage} (h : stage.Enrolled) {w : World}
    (changes : stage.world.Changes w) : ({ stage with world := w } : Stage).Enrolled :=
  fun p hp => Nat.lt_of_lt_of_le (h p hp) changes.registryCount_le

namespace Reception

theorem errand_finish (x : Reception) (v : x.kind.Value) : Act.IsErrand (x.finish v) := by
  cases x with
  | keep => exact Act.errand_pure _
  | relay => exact (Act.errand_send _ _).bind fun _ => Act.errand_pure _
  | record => exact (Act.errand_persist _ _).bind fun _ => Act.errand_pure _

/-- A look that comes to something takes a message, and the rest are errands. -/
theorem errands_of_look_some {x : Reception} {w w' : World} {result : Except Error Answer}
    (h : x.look me w = (some result, w')) :
    ∃ e w'', w.lookFor me x.session = (some e, w'') ∧ w''.Errands w' := by
  unfold look at h
  split at h
  · cases h
  · next e w'' found =>
    refine ⟨e, w'', found, ?_⟩
    split at h
    · cases h
      exact .refl _
    · next v _ =>
      cases h
      exact errand_finish x v w''

/-- A reception that begins and finds a message is an errand. -/
theorem errands_of_start_look {x : Reception} {w w' : World} {result : Except Error Answer}
    (h : x.look me (x.start w) = (some result, w')) : w.Errands w' := by
  obtain ⟨e, w'', found, errands⟩ := errands_of_look_some h
  exact (World.Errands.receive found).trans errands

theorem errands_lookOnce (x : Reception) (me : Waiter) (w : World) :
    w.Errands (x.lookOnce me w).2 := by
  unfold lookOnce
  rcases looked : x.look me (x.start w) with ⟨_ | result, w'⟩
  · exact .giveUp (lookFor_of_look_none looked)
  · exact errands_of_start_look looked

end Reception

namespace Play

/-- An action that does nothing to the world but errands. -/
def IsErrand (x : Play α) : Prop :=
  Keeps (fun stage stage' : Stage => stage.Enrolled →
    stage.world.Errands stage'.world ∧ stage'.Enrolled) x

/-! ## How errands compose -/

theorem errand_pure (a : α) : IsErrand (pure a) := fun _ h => ⟨.refl _, h⟩

theorem errand_throw (failure : Failure) : IsErrand (throw failure : Play α) :=
  fun _ h => ⟨.refl _, h⟩

theorem IsErrand.bind {x : Play α} {f : α → Play β} (hx : IsErrand x) (hf : ∀ a, IsErrand (f a)) :
    IsErrand (x >>= f) :=
  keeps_bind (fun _ _ _ h h' g => ⟨(h g).1.trans (h' (h g).2).1, (h' (h g).2).2⟩) hx hf

theorem errand_act {a : Act α} (h : a.IsErrand) : IsErrand (act a) := by
  intro stage enrolled
  have errands := h stage.world
  rw [act_apply]
  exact ⟨errands, enrolled.mapWorld errands.evolves.changes⟩

/-! ## Names -/

theorem resolve_snd (names : Stage → Names α) (name : String) (stage : Stage) :
    (resolve names name stage).2 = stage := by
  rw [resolve_apply]
  cases (names stage).lookup name <;> rfl

theorem errand_resolve (names : Stage → Names α) (name : String) :
    IsErrand (resolve names name) := by
  intro stage enrolled
  rw [resolve_snd]
  exact ⟨.refl _, enrolled⟩

/-! ## Parts of commands -/

theorem errand_ask (question : World → Except Error α) : IsErrand (act (Act.ask question)) :=
  errand_act (Act.errand_ask _)

theorem errand_needed (part : String) (a : Option α) : IsErrand (needed part a) := by
  cases a with
  | none => exact errand_throw _
  | some a => exact errand_pure a

theorem errand_call (name : String) (input : CallInput) : IsErrand (call name input) := by
  refine (errand_resolve _ _).bind fun f => ?_
  cases f with
  | outgoing f =>
    refine (errand_needed _ _).bind fun source => (errand_ask _).bind fun request => ?_
    exact (errand_act (Act.errand_outgoing _ _)).bind fun _ => errand_pure _
  | incoming f =>
    refine (errand_needed _ _).bind fun name => (errand_resolve _ _).bind fun s => ?_
    refine IsErrand.bind (errand_act ?_) fun _ => errand_pure _
    exact (Act.errand_ask _).bind fun _ => Act.errand_pure _
  | scripted => exact errand_pure _

theorem errand_lookOnce (me : Waiter) (x : Reception) : IsErrand (lookOnce me x) := by
  intro stage enrolled
  have errands := x.errands_lookOnce me stage.world
  unfold lookOnce
  revert errands
  rcases x.lookOnce me stage.world with ⟨_ | _ | a, w⟩
  · exact fun errands => ⟨errands, enrolled.mapWorld errands.evolves.changes⟩
  · exact fun errands => ⟨errands, enrolled.mapWorld errands.evolves.changes⟩
  · exact fun errands => ⟨errands, enrolled.mapWorld errands.evolves.changes⟩

end Play

end Rehearsal
