import Rehearsal.World.Basic

/-!
# Actions and what they keep

An action on a state may fail, and then keeps what it did before. So what it does to the state is
said without regard to how it ends: `Keeps R` relates the state after an action to the state before,
and composes along `do` blocks when the relation does.
-/

namespace Rehearsal

variable {ε σ α β : Type}

/-- However an action ends, the state after it stands in this relation to the state before. -/
def Keeps (R : σ → σ → Prop) (x : ExceptT ε (StateM σ) α) : Prop := ∀ s, R s (x s).2

/-! ## How actions compute -/

theorem bind_apply (x : ExceptT ε (StateM σ) α) (f : α → ExceptT ε (StateM σ) β) (s : σ) :
    (x >>= f) s = match x s with
      | (.ok a, s') => f a s'
      | (.error e, s') => (.error e, s') := by
  show (ExceptT.bind x f) s = _
  simp only [ExceptT.bind, ExceptT.mk, bind, StateT.bind]
  rcases x s with ⟨r, s'⟩
  cases r <;> rfl

theorem pure_apply (a : α) (s : σ) : (pure a : ExceptT ε (StateM σ) α) s = (.ok a, s) := rfl

theorem throw_apply (e : ε) (s : σ) :
    (throw e : ExceptT ε (StateM σ) α) s = (.error e, s) := rfl

theorem get_apply (s : σ) : (get : ExceptT ε (StateM σ) σ) s = (.ok s, s) := rfl

theorem modify_apply (f : σ → σ) (s : σ) :
    (modify f : ExceptT ε (StateM σ) PUnit) s = (.ok ⟨⟩, f s) := rfl

theorem modifyGet_apply (f : σ → α × σ) (s : σ) :
    (modifyGet f : ExceptT ε (StateM σ) α) s = (.ok (f s).1, (f s).2) := rfl

/-! ## What `do` blocks keep -/

section
variable {R : σ → σ → Prop}

theorem keeps_pure (refl : ∀ s, R s s) (a : α) : Keeps R (pure a : ExceptT ε (StateM σ) α) :=
  fun s => refl s

theorem keeps_throw (refl : ∀ s, R s s) (e : ε) :
    Keeps R (throw e : ExceptT ε (StateM σ) α) :=
  fun s => refl s

theorem keeps_modify {f : σ → σ} (h : ∀ s, R s (f s)) :
    Keeps R (modify f : ExceptT ε (StateM σ) PUnit) :=
  h

theorem keeps_modifyGet {f : σ → α × σ} (h : ∀ s, R s (f s).2) :
    Keeps R (modifyGet f : ExceptT ε (StateM σ) α) :=
  h

theorem keeps_bind (trans : ∀ s t u, R s t → R t u → R s u) {x : ExceptT ε (StateM σ) α}
    {f : α → ExceptT ε (StateM σ) β} (hx : Keeps R x) (hf : ∀ a, Keeps R (f a)) :
    Keeps R (x >>= f) := by
  intro s
  have first := hx s
  rw [bind_apply]
  cases h : x s with
  | mk r s' =>
    rw [h] at first
    cases r with
    | ok a => exact trans _ _ _ first (hf a s')
    | error e => exact first

theorem keeps_get {f : σ → ExceptT ε (StateM σ) β} (hf : ∀ a, Keeps R (f a)) :
    Keeps R (get >>= f) := by
  intro s
  rw [bind_apply, get_apply]
  exact hf s s

end

/-! ## Actions on the world -/

theorem ask_apply (question : World → Except Error α) (w : World) :
    Act.ask question w = (question w, w) := by
  unfold Act.ask
  rw [bind_apply, get_apply]
  cases h : question w <;> simp [h, pure_apply, throw_apply]

theorem keeps_ask {R : World → World → Prop} (refl : ∀ w, R w w)
    (question : World → Except Error α) : Keeps R (Act.ask question) := by
  intro w
  rw [ask_apply]
  exact refl w

theorem keeps_attempt {R : World → World → Prop} {a : Act α} (h : Keeps R a) :
    Keeps R (Act.attempt a) :=
  h

end Rehearsal
