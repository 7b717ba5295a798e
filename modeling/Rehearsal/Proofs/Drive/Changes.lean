import Rehearsal.Proofs.Drive.Histories
import Rehearsal.Proofs.Drive.Strides

/-!
# What can change in a run

A turn comes down to operations on the world, and everything else that can happen in a run at least
to changes of it.
-/

namespace Rehearsal

variable {stage : Stage}

/-- A stage that came of another by changes of the world, and by names for what was made. -/
structure Stage.Follows (stage stage' : Stage) : Prop where
  world : stage.world.Changes stage'.world
  enrolled : stage'.Enrolled

theorem Stage.Enrolled.follows (h : stage.Enrolled) : stage.Follows stage := ⟨.refl _, h⟩

theorem Stage.Follows.trans {stage' stage'' : Stage} (h : stage.Follows stage')
    (h' : stage'.Follows stage'') : stage.Follows stage'' :=
  ⟨h.world.trans h'.world, h'.enrolled⟩

/-- Only the world changed. -/
theorem Stage.Enrolled.goOn (h : stage.Enrolled) {w : World} (changes : stage.world.Changes w) :
    stage.Follows { stage with world := w } :=
  ⟨changes, h.mapWorld changes⟩

theorem Task.changes_withdraw (t : Task) (me : Waiter) (w : World) :
    w.Changes (t.withdraw me w) := by
  unfold withdraw
  split
  · exact (World.Change.withdrawn me _).changes
  · exact .refl w

/-! ## Histories -/

namespace Run

variable {r r' : Run}

theorem follows_turn (i : Nat) (r : Run) (enrolled : r.stage.Enrolled) :
    r.stage.Follows (r.turn i).stage := by
  have begun : r.stage.Follows (r.begun i) := enrolled.goOn (World.Change.readied _).changes
  cases ht : r.tasks[i]? with
  | none =>
    rw [turn_of_none ht]
    exact begun
  | some t =>
    rw [turn_eq ht]
    obtain ⟨polls, enrolled'⟩ := t.polls_poll i r.now begun.enrolled
    exact begun.trans ⟨polls.evolves.changes, enrolled'⟩

/-- Everything that happens comes down to changes of the world. -/
theorem Step.follows (step : Step r r') (enrolled : r.stage.Enrolled) :
    r.stage.Follows r'.stage := by
  cases step with
  | @command c me _ =>
    obtain ⟨errands, enrolled'⟩ := c.errand_run me r.stage enrolled
    exact ⟨errands.evolves.changes, enrolled'⟩
  | join => exact enrolled.goOn (World.Change.readied _).changes
  | @turn i _ => exact follows_turn i r enrolled
  | pass => exact enrolled.goOn (World.Change.readied _).changes
  | drop i result =>
    cases ht : r.tasks[i]? with
    | none =>
      rw [drop_of_none ht]
      exact enrolled.follows
    | some t =>
      rw [Run.drop, ht]
      exact enrolled.goOn
        ((t.changes_withdraw i r.stage.world).trans (World.Change.readied _).changes)
  | note => exact enrolled.goOn (World.Change.noted _).changes
  | looked => exact enrolled.follows
  | report => exact ⟨.refl _, enrolled⟩
  | clear => exact enrolled.follows

theorem Reached.follows (h : r.Reached) : Stage.Follows {} r.stage := by
  induction h with
  | refl => exact Stage.Enrolled.empty.follows
  | tail _ step ih => exact ih.trans (step.follows ih.enrolled)

end Run

end Rehearsal
