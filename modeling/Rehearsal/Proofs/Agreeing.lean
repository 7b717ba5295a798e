import Rehearsal.Proofs.Keeping

/-!
# Actions on two states

An action may come to the same on two states that are not the same. `Agrees R` says so of all states
in a relation: the action ends alike on both, and leaves two states in the relation. Like `Keeps`,
it composes along `do` blocks.
-/

namespace Rehearsal

variable {ε σ α β : Type} {R : σ → σ → Prop}

/-- On related states an action ends alike, and leaves related states. -/
def Agrees (R : σ → σ → Prop) (x : ExceptT ε (StateM σ) α) : Prop :=
  ∀ s s', R s s' → (x s').1 = (x s).1 ∧ R (x s).2 (x s').2

theorem agrees_pure (a : α) : Agrees R (pure a : ExceptT ε (StateM σ) α) :=
  fun _ _ h => ⟨rfl, h⟩

theorem agrees_throw (e : ε) : Agrees R (throw e : ExceptT ε (StateM σ) α) :=
  fun _ _ h => ⟨rfl, h⟩

theorem agrees_modify {f : σ → σ} (h : ∀ s s', R s s' → R (f s) (f s')) :
    Agrees R (modify f : ExceptT ε (StateM σ) PUnit) :=
  fun s s' hs => ⟨rfl, h s s' hs⟩

theorem agrees_modifyGet {f : σ → α × σ}
    (h : ∀ s s', R s s' → (f s').1 = (f s).1 ∧ R (f s).2 (f s').2) :
    Agrees R (modifyGet f : ExceptT ε (StateM σ) α) := by
  intro s s' hs
  obtain ⟨same, after⟩ := h s s' hs
  exact ⟨congrArg Except.ok same, after⟩

theorem Agrees.bind {x : ExceptT ε (StateM σ) α} {f : α → ExceptT ε (StateM σ) β}
    (hx : Agrees R x) (hf : ∀ a, Agrees R (f a)) : Agrees R (x >>= f) := by
  intro s s' hs
  obtain ⟨same, after⟩ := hx s s' hs
  rw [bind_apply, bind_apply]
  rcases h : x s with ⟨r, t⟩
  rcases h' : x s' with ⟨r', t'⟩
  rw [h, h'] at same after
  cases same
  cases r with
  | ok a => exact hf a t t' after
  | error e => exact ⟨rfl, after⟩

/-- What is done does not depend on which of two related states was looked at. -/
theorem agrees_get {f : σ → ExceptT ε (StateM σ) β} (same : ∀ s s', R s s' → f s' = f s)
    (hf : ∀ s, Agrees R (f s)) : Agrees R (get >>= f) := by
  intro s s' hs
  rw [bind_apply, bind_apply, get_apply, get_apply]
  dsimp only
  rw [same s s' hs]
  exact hf s s s' hs

/-! ## Actions on the world -/

variable {R : World → World → Prop}

theorem agrees_ask {question : World → Except Error α}
    (same : ∀ w w', R w w' → question w' = question w) : Agrees R (Act.ask question) := by
  intro w w' h
  rw [ask_apply, ask_apply]
  exact ⟨same w w' h, h⟩

theorem Agrees.attempt {a : Act α} (h : Agrees R a) : Agrees R (Act.attempt a) := by
  intro w w' hw
  obtain ⟨same, after⟩ := h w w' hw
  exact ⟨congrArg Except.ok same, after⟩

end Rehearsal
