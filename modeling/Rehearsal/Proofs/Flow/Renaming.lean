import Mathlib.Logic.Equiv.Defs
import Rehearsal.Chat.Flows
import Rehearsal.Flow.Scripted

/-!
# Renaming mocks

Two runs that make other mocks besides number their mocks differently. A constructor is given mocks
and can tell one from another, but what it does is to be the same whatever their numbers are: such a
constructor is `Impartial`. All flows of the library are built by impartial constructors.
-/

namespace Rehearsal

variable {α β : Type}

/-- Two constructors do the same as long as the answers to the second are those to the first with
the mocks renamed; what they build is related. -/
inductive Constructor.Renamed (σ : Equiv.Perm MockId) (R : α → α → Prop) :
    Constructor α → Constructor α → Prop where
  | built {a b : α} (related : R a b) : Renamed σ R (.built a) (.built b)
  | failed (e : Error) : Renamed σ R (.failed e) (.failed e)
  | register {c : Capability} {next next' : Except Error MockId → Constructor α}
      (others : ∀ answer, Renamed σ R (next answer) (next' (answer.map σ))) :
      Renamed σ R (.register c next) (.register c next')
  | inject {c : Capability} {next next' : Except Error MockId → Constructor α}
      (others : ∀ answer, Renamed σ R (next answer) (next' (answer.map σ))) :
      Renamed σ R (.inject c next) (.inject c next')

namespace Constructor

variable {σ : Equiv.Perm MockId}

/-- What is built holds the same mocks, renamed. -/
def Holds (holds : α → List MockId) (σ : Equiv.Perm MockId) (a b : α) : Prop :=
  holds b = (holds a).map σ

/-- A constructor that does the same whatever numbers its mocks have. -/
def Impartial (holds : α → List MockId) (c : Constructor α) : Prop :=
  ∀ σ : Equiv.Perm MockId, c.Renamed σ (Holds holds σ) c

theorem Renamed.bind {R : α → α → Prop} {S : β → β → Prop} {c c' : Constructor α}
    {k k' : α → Constructor β} (h : c.Renamed σ R c')
    (others : ∀ a b, R a b → (k a).Renamed σ S (k' b)) : (c >>= k).Renamed σ S (c' >>= k') := by
  induction h with
  | built related => exact others _ _ related
  | failed e => exact .failed e
  | register _ ih => exact .register ih
  | inject _ ih => exact .inject ih

theorem renamed_ofExcept (answer : Except Error MockId) :
    (ofExcept answer).Renamed σ (fun m n => n = σ m) (ofExcept (answer.map σ)) := by
  cases answer with
  | ok m => exact .built rfl
  | error e => exact .failed e

theorem renamed_registering (c : Capability) :
    (registering c).Renamed σ (fun m n => n = σ m) (registering c) :=
  .register renamed_ofExcept

theorem renamed_injecting (c : Capability) :
    (injecting c).Renamed σ (fun m n => n = σ m) (injecting c) :=
  .inject renamed_ofExcept

end Constructor

/-! The flows of the library, and those for testing, do not look at numbers. -/

open Constructor (Impartial Renamed renamed_registering renamed_injecting)

theorem Chat.OutgoingFlow.impartial : Impartial
    (fun flow : OutgoingFlow => [flow.messaging, flow.marshalling, flow.engine, flow.persistence])
    blueprint.constructor := by
  intro σ
  apply (renamed_injecting _).bind
  intro messaging _ same
  apply (renamed_injecting _).bind
  intro marshalling _ same₁
  apply (renamed_injecting _).bind
  intro engine _ same₂
  apply (renamed_injecting _).bind
  intro persistence _ same₃
  apply Renamed.built
  rw [same, same₁, same₂, same₃]
  rfl

theorem Chat.IncomingFlow.impartial : Impartial
    (fun flow : IncomingFlow => [flow.engine, flow.persistence]) blueprint.constructor := by
  intro σ
  apply (renamed_injecting _).bind
  intro engine _ same
  apply (renamed_injecting _).bind
  intro persistence _ same₁
  apply Renamed.built
  rw [same, same₁]
  rfl

namespace ScriptedFlow

variable {σ : Equiv.Perm MockId}

theorem renamed_registerAll (cs : List Capability) :
    (registerAll cs).Renamed σ (fun _ _ => True) (registerAll cs) := by
  induction cs with
  | nil => exact .built trivial
  | cons c cs ih => exact (renamed_registering c).bind fun _ _ _ => ih

theorem renamed_injectAll (cs : List Capability) :
    (injectAll cs).Renamed σ (fun ms ns => ns = ms.map σ) (injectAll cs) := by
  induction cs with
  | nil => exact .built rfl
  | cons c cs ih =>
    apply (renamed_injecting c).bind
    intro m n same
    apply ih.bind
    intro ms ns others
    apply Renamed.built
    rw [same, others, List.map_cons]

theorem impartial (flow : ScriptedFlow) : Impartial id flow.blueprint.constructor := by
  intro σ
  apply (renamed_registerAll flow.registers).bind
  intro _ _ _
  apply (renamed_injectAll flow.injects).bind
  intro ms ns same
  cases flow.failure with
  | some message => exact .failed _
  | none => exact .built same

end ScriptedFlow

end Rehearsal
