import Rehearsal.Proofs.Composition
import Rehearsal.Proofs.Drive.Changes
import Rehearsal.Proofs.World.Receives

/-!
# Scenarios are accounts

Whatever steps come to, in whatever order turns are taken, every receive of a body or of a test is
one of an account: it begins, looks, and looks again when its task takes another turn, and whoever
still waits as a run ends is aborted. So the log of every scenario tells the whole exchange, and
what holds after every row of operations holds after every scenario.
-/

namespace Rehearsal

/-- A receive that waits for somebody's message. -/
structure Receive.WaitsFor (x : Receive) (me : Waiter) (y : Reception) : Prop where
  waits : x.stand = .waits
  me : x.me = me
  session : x.session = y.session
  kind : x.kind = y.kind

/-- Among these receives is one that waits for somebody's message. -/
def Awaited (receives : List Receive) (me : Waiter) (y : Reception) : Prop :=
  ∃ (n : Nat) (x : Receive), receives[n]? = some x ∧ x.WaitsFor me y

namespace Awaited

variable {receives : List Receive} {me other : Waiter} {y : Reception}

theorem append (h : Awaited receives me y) (more : List Receive) :
    Awaited (receives ++ more) me y := by
  obtain ⟨n, x, here, waits⟩ := h
  exact ⟨n, x, (List.getElem?_append_left (List.getElem?_eq_some_iff.mp here).1).trans here, waits⟩

/-- The receives of others are not concerned. -/
theorem set (h : Awaited receives other y) {n : Nat} {x : Receive}
    (here : receives[n]? = some x) (apart : x.me ≠ other) (z : Receive) :
    Awaited (receives.set n z) other y := by
  obtain ⟨m, x', there, waits⟩ := h
  refine ⟨m, x', ?_, waits⟩
  rw [List.getElem?_set_ne, there]
  rintro rfl
  rw [here] at there
  cases there
  exact apart waits.me

end Awaited

namespace Account

variable {a a' : Account} {w w' w'' : World} {me : Waiter}

/-- The steps of an account are operations. -/
theorem Step.evolves (step : Step a a') : a.world.Evolves a'.world := by
  cases step with
  | other op _ applies => exact .single op applies
  | send s p => exact .single (.send s p) trivial
  | begins me s k => exact .single (.await s k) trivial
  | looks _ _ looked => exact .of_run (.look _ _) trivial (congrArg Prod.snd looked)
  | looksAgain _ _ looked => exact World.evolves_answer looked
  | cancels => exact .single (.withdraw _ _) trivial

theorem History.evolves (h : History a a') : a.world.Evolves a'.world := by
  induction h with
  | refl => exact .refl _
  | tail _ step ih => exact ih.trans step.evolves

/-! ## What bodies do -/

theorem set_length_append (receives : List Receive) (x y : Receive) :
    (receives ++ [x]).set receives.length y = receives ++ [y] := by
  rw [List.set_append_right _ _ (Nat.le_refl _), Nat.sub_self]
  rfl

/-- A receive that begins and looks at once. -/
theorem history_receive {s : Session} {k : Kind} {found : Option Envelope}
    (looked : (w.awaitMessage s k).lookFor me s = (found, w')) (receives : List Receive) :
    ∃ x : Receive, History ⟨w, receives⟩ ⟨w', receives ++ [x]⟩ ∧ x.me = me ∧ x.session = s ∧
      x.kind = k ∧ x.stand = .after found := by
  have begins := Step.begins ⟨w, receives⟩ me s k
  have here := List.getElem?_concat_length (l := receives) (a := (⟨me, s, k,
    (w.queue s.inbound).isEmpty, .begun, w.since (w.awaitMessage s k)⟩ : Receive))
  have looks := Step.looks (a := ⟨w.awaitMessage s k, _⟩) here rfl looked
  rw [set_length_append] at looks
  exact ⟨_, (Relation.ReflTransGen.single begins).tail looks, rfl, rfl, rfl, rfl⟩

/-- Errands add receives that are over. -/
theorem history_errands (h : w.Errands w') (receives : List Receive) :
    ∃ more, History ⟨w, receives⟩ ⟨w', receives ++ more⟩ := by
  induction h generalizing receives with
  | refl w => exact ⟨[], by rw [List.append_nil]⟩
  | aside op aside applies =>
    refine ⟨[], ?_⟩
    rw [List.append_nil]
    exact .single (.other (a := ⟨_, receives⟩) op (.inl aside) applies)
  | send w s p =>
    refine ⟨[], ?_⟩
    rw [List.append_nil]
    exact .single (.send ⟨w, receives⟩ s p)
  | receive found =>
    obtain ⟨x, history, -⟩ := history_receive found receives
    exact ⟨[x], history⟩
  | @giveUp w w' me s k missed =>
    obtain ⟨x, history, rfl, rfl, -, waits⟩ := history_receive missed receives
    have gives := Step.cancels (a := ⟨w', receives ++ [x]⟩) List.getElem?_concat_length waits
    rw [set_length_append] at gives
    exact ⟨[_], history.tail gives⟩
  | trans _ _ ih ih' =>
    obtain ⟨more, first⟩ := ih receives
    obtain ⟨more', second⟩ := ih' (receives ++ more)
    exact ⟨more ++ more', List.append_assoc receives more more' ▸ first.trans second⟩

/-- A stride adds receives: those of the errands, and the one that it ends with. -/
theorem history_strides {heard : Option Reception} (strides : w.Strides me heard w')
    (receives : List Receive) : ∃ more, History ⟨w, receives⟩ ⟨w', receives ++ more⟩ ∧
      ∀ y, heard = some y → Awaited (receives ++ more) me y := by
  cases strides with
  | rests errands =>
    obtain ⟨more, history⟩ := history_errands errands receives
    exact ⟨more, history, by simp⟩
  | listens errands missed =>
    obtain ⟨more, history⟩ := history_errands errands receives
    obtain ⟨x, receive, own, session, kind, waits⟩ := history_receive missed (receives ++ more)
    rw [List.append_assoc] at receive
    refine ⟨more ++ [x], history.trans receive, fun y' same => ?_⟩
    cases same
    rw [← List.append_assoc]
    exact ⟨_, x, List.getElem?_concat_length, waits, own, session, kind⟩

/-- A turn takes the receive further that its task waited for, and leaves those of others alone. -/
theorem history_polls {before after : Option Reception} {receives : List Receive}
    (polls : Task.Polls me w before after w')
    (awaited : ∀ y, before = some y → Awaited receives me y) :
    ∃ receives', History ⟨w, receives⟩ ⟨w', receives'⟩ ∧
      (∀ y, after = some y → Awaited receives' me y) ∧
      ∀ other y, other ≠ me → Awaited receives other y → Awaited receives' other y := by
  cases polls with
  | goes strides =>
    obtain ⟨more, history, waits⟩ := history_strides strides receives
    exact ⟨_, history, waits, fun _ _ _ others => others.append more⟩
  | found found strides =>
    obtain ⟨n, x, here, waits, rfl, session, kind⟩ := awaited _ rfl
    rw [← session] at found
    have again := Step.looksAgain (a := ⟨w, receives⟩) here waits found
    obtain ⟨more, history, waits'⟩ := history_strides strides (receives.set n _)
    exact ⟨_, .head again history, waits', fun _ _ apart others =>
      (others.set here (Ne.symm apart) _).append more⟩
  | missed missed =>
    obtain ⟨n, x, here, waits, rfl, session, kind⟩ := awaited _ rfl
    rw [← session] at missed
    have again := Step.looksAgain (a := ⟨w, receives⟩) here waits missed
    refine ⟨_, .single again, fun y same => ?_, fun _ _ apart others =>
      others.set here (Ne.symm apart) _⟩
    cases same
    have inside := (List.getElem?_eq_some_iff.mp here).1
    exact ⟨n, _, List.getElem?_set_self inside, rfl, rfl, session, kind⟩

/-- Whoever still waits gives up. -/
theorem history_withdraw {receives : List Receive} {t : Task}
    (awaited : ∀ y, t.reception? = some y → Awaited receives me y) (w : World) :
    ∃ receives', History ⟨w, receives⟩ ⟨t.withdraw me w, receives'⟩ ∧
      ∀ other y, other ≠ me → Awaited receives other y → Awaited receives' other y := by
  unfold Task.withdraw
  split
  · next y _ phase =>
    obtain ⟨n, x, here, waits, rfl, session, -⟩ := awaited y (by rw [Task.reception?, phase]; rfl)
    rw [← session]
    exact ⟨_, .single (.cancels (a := ⟨w, receives⟩) here waits), fun _ _ apart others =>
      others.set here (Ne.symm apart) _⟩
  · exact ⟨receives, .refl, fun _ _ _ others => others⟩

theorem history_withdrawAll {ps : List (Task × Nat)} (once : (ps.map Prod.snd).Nodup)
    {receives : List Receive}
    (awaited : ∀ p ∈ ps, ∀ y, p.1.reception? = some y → Awaited receives p.2 y) (w : World) :
    ∃ receives', History ⟨w, receives⟩ ⟨withdrawAll ps w, receives'⟩ := by
  induction ps generalizing receives w with
  | nil => exact ⟨receives, .refl⟩
  | cons p ps ih =>
    obtain ⟨new, once⟩ := List.nodup_cons.mp once
    obtain ⟨receives', first, others⟩ :=
      history_withdraw (awaited p (List.mem_cons_self ..)) w
    obtain ⟨receives'', rest⟩ := ih once (fun q hq y heard =>
      others q.2 y (fun same => new (List.mem_map.mpr ⟨q, hq, same⟩))
        (awaited q (List.mem_cons_of_mem _ hq) y heard)) (p.1.withdraw p.2 w)
    exact ⟨receives'', first.trans rest⟩

/-- What a driver logs are steps of an account. -/
theorem history_notes {events : List Event} (ofDriver : ∀ e ∈ events, e.OfDriver) (w : World)
    (receives : List Receive) : History ⟨w, receives⟩ ⟨events.foldl World.note w, receives⟩ := by
  induction events generalizing w with
  | nil => exact .refl
  | cons e events ih =>
    have first : Step ⟨w, receives⟩ ⟨w.note e, receives⟩ :=
      .other (a := ⟨w, receives⟩) (.note e) (.inr ⟨e, rfl⟩) (ofDriver e (List.mem_cons_self ..))
    exact .head first (ih (fun e he => ofDriver e (List.mem_cons_of_mem _ he)) _)

/-- Others can go on. -/
theorem step_ready (w : World) (ready : List Waiter) (receives : List Receive) :
    Step ⟨w, receives⟩ ⟨{ w with ready }, receives⟩ :=
  .other (a := ⟨w, receives⟩) (.ready ready) (.inl trivial) trivial

end Account

/-! ## Driven runs -/

/-- A run that came of an account, with a receive that waits for each task that does. -/
structure Run.Continues (start : Account) (r : Run) (receives : List Receive) : Prop where
  history : start.History ⟨r.stage.world, receives⟩
  awaited : ∀ i y, r.tasks[i]?.bind Task.reception? = some y → Awaited receives i y
  enrolled : r.stage.Enrolled

section
variable {config : Config} {participants : List Participant} {stage stage' : Stage}
  {marks : List Mark} {w : Watch} {r r' : Run} {start : Account} {receives : List Receive}

namespace Run.Continues

/-- Whatever else is done to the world while the tasks stay as they are. -/
theorem same_tasks (h : r.Continues start receives) {world : World}
    (history : Account.History ⟨r.stage.world, receives⟩ ⟨world, receives⟩)
    (tasks : r'.tasks = r.tasks) (stage : r'.stage = { r.stage with world }) :
    r'.Continues start receives := by
  refine ⟨?_, tasks ▸ h.awaited, ?_⟩
  · rw [stage]
    exact h.history.trans history
  · rw [stage]
    exact h.enrolled.mapWorld history.evolves.changes

theorem opened (enrolled : stage.Enrolled) (participants : List Participant)
    (receives : List Receive) :
    (Run.opened participants stage).Continues ⟨stage.world, receives⟩ receives := by
  have started : (Run.start participants stage).Continues ⟨stage.world, receives⟩ receives := by
    have history := Account.step_ready stage.world (List.range participants.length) receives
    refine ⟨.single history, fun i y heard => ?_, enrolled.mapWorld history.evolves.changes⟩
    replace heard : (participants.map fun p => ({ script := p.script } : Task))[i]?.bind
      Task.reception? = some y := heard
    rw [List.getElem?_map] at heard
    cases hp : participants[i]? <;> rw [hp] at heard <;> cases heard
  rw [Run.opened_eq]
  refine started.same_tasks (Account.history_notes (fun e he => ?_) _ receives) rfl rfl
  obtain ⟨p, -, rfl⟩ := List.mem_map.mp he
  trivial

theorem turn (h : r.Continues start receives) (i : Nat) :
    ∃ receives', (r.turn i).Continues start receives' := by
  have begun := Account.step_ready r.stage.world (r.stage.world.ready.erase i) receives
  cases ht : r.tasks[i]? with
  | none =>
    rw [Run.turn_of_none ht]
    exact ⟨receives, h.same_tasks (.single begun) rfl rfl⟩
  | some t =>
    have enrolled := (Run.follows_turn i r h.enrolled).enrolled
    rw [Run.turn_eq ht] at enrolled ⊢
    obtain ⟨polls, -⟩ := t.polls_poll i r.now (h.enrolled.mapWorld begun.evolves.changes)
    obtain ⟨receives', history, own, others⟩ := Account.history_polls polls fun y heard =>
      h.awaited i y (by rw [ht]; exact heard)
    refine ⟨receives', (h.history.tail begun).trans history, fun j y heard => ?_, enrolled⟩
    by_cases hj : j = i
    · subst hj
      rw [Run.tasks_put_self ht] at heard
      exact own y heard
    · rw [Run.tasks_put_of_ne (Ne.symm hj)] at heard
      exact others j y hj (h.awaited j y heard)

theorem advance (h : r.Continues start receives) (due : Tick) :
    (r.advance due).Continues start receives :=
  h.same_tasks (.single (Account.step_ready _ _ receives)) rfl rfl

/-- Whoever still waits as the run ends is aborted, and the driver closes the log. -/
theorem concluded (h : r.Continues start receives) (config : Config)
    (participants : List Participant) (w : Watch) : ∃ receives',
      start.History ⟨(concluded config participants w r).2.world, receives'⟩ ∧
        (concluded config participants w r).2.Enrolled := by
  obtain ⟨receives', withdrawn⟩ := Account.history_withdrawAll (nodup_zipIdx r.tasks)
    (fun p hp y heard => h.awaited p.2 y (by
      rw [List.mem_zipIdx_iff_getElem?.mp hp]
      exact heard)) r.stage.world
  have closed := (withdrawn.tail (Account.step_ready _ [] receives')).trans
    (Account.history_notes (ofDriver_closing w config (participants.map (·.name))) _ receives')
  exact ⟨receives', h.history.trans closed,
    h.enrolled.mapWorld (Account.History.evolves closed).changes⟩

variable [Clock]

theorem look {names : List String} {w' : Watch} (h : r.Continues start receives)
    (looked : r.observeAll config names w = (w', r')) : r'.Continues start receives := by
  obtain ⟨events, ofDriver, same⟩ := Run.observeAll_eq config names w r
  rw [looked] at same
  rw [show r' = _ from same]
  exact h.same_tasks (Account.history_notes ofDriver _ receives) rfl rfl

end Run.Continues

variable [Clock]

/-- Whatever happens in a driven run, its receives are those of an account. -/
theorem Underway.continues (under : Underway config participants stage marks w r)
    (enrolled : stage.Enrolled) (receives : List Receive) :
    ∃ receives', r.Continues ⟨stage.world, receives⟩ receives' := by
  induction under with
  | opened => exact ⟨receives, .opened enrolled participants receives⟩
  | turn _ _ ih =>
    obtain ⟨_, continues⟩ := ih
    exact continues.turn _
  | look _ looked _ _ ih =>
    obtain ⟨receives', continues⟩ := ih
    exact ⟨receives', continues.look looked⟩
  | sleep _ _ _ _ _ ih =>
    obtain ⟨receives', continues⟩ := ih
    exact ⟨receives', continues.advance _⟩

theorem Over.continues (atEnd : Over config participants stage marks w r)
    (enrolled : stage.Enrolled) (receives : List Receive) :
    ∃ receives', r.Continues ⟨stage.world, receives⟩ receives' := by
  cases atEnd with
  | unopened => exact ⟨receives, .opened enrolled participants receives⟩
  | looked under looked _ =>
    obtain ⟨receives', continues⟩ := under.continues enrolled receives
    exact ⟨receives', continues.look looked⟩
  | late under =>
    obtain ⟨receives', continues⟩ := under.continues enrolled receives
    exact ⟨receives', continues.same_tasks .refl rfl rfl⟩

end

/-! ## Scenarios -/

section
variable [Clock]

variable {stage next last : Stage} {step : Step} {outcome : Outcome} {steps : List Step}
  {answers : List (Outcome × List LogLine)}

theorem Step.Comes.accounts (comes : step.Comes stage outcome next) (enrolled : stage.Enrolled)
    (receives : List Receive) : ∃ receives',
      Account.History ⟨stage.world, receives⟩ ⟨next.world, receives'⟩ ∧ next.Enrolled := by
  cases comes with
  | command c =>
    obtain ⟨errands, enrolled'⟩ := c.errand_run 0 stage enrolled
    obtain ⟨more, history⟩ := Account.history_errands errands receives
    exact ⟨_, history, enrolled'⟩
  | tooFew => exact ⟨receives, .refl, enrolled⟩
  | driven _ atEnd =>
    obtain ⟨receives', continues⟩ := atEnd.continues enrolled receives
    exact continues.concluded _ _ _

/-- **Scenarios are accounts**, in whatever order turns are taken. -/
theorem Performs.accounts (performs : Performs stage steps answers last)
    (enrolled : stage.Enrolled) (receives : List Receive) : ∃ receives',
      Account.History ⟨stage.world, receives⟩ ⟨last.world, receives'⟩ ∧ last.Enrolled := by
  induction performs generalizing receives with
  | nothing => exact ⟨receives, .refl, enrolled⟩
  | step comes _ ih =>
    obtain ⟨receives', first, enrolled'⟩ := comes.accounts enrolled receives
    obtain ⟨receives'', rest, enrolled''⟩ := ih enrolled' receives'
    exact ⟨receives'', first.trans rest, enrolled''⟩

/-- What a scenario leaves behind came of a row of operations, from nothing on. -/
theorem Performs.undergoes (performs : Performs {} steps answers last) :
    ∃ ops, ({} : World).Undergoes ops last.world := by
  obtain ⟨_, history, -⟩ := performs.accounts .empty []
  exact history.evolves

end

attribute [local instance] Clock.usual

end Rehearsal
