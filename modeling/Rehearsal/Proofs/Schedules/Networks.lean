import Mathlib.Logic.Function.Basic
import Mathlib.Logic.Relation
import Rehearsal.Proofs.World.Exchange

/-!
# Networks of processes

A process is asked what comes next: it is over, it acts on its own, or it waits for a message of one
queue. Nothing else is open to it, least of all a look at whether a message is there. Where each
queue has one sender and one receiver, steps of different processes commute, so whatever the order
of steps there is at most one place where a network comes to rest.
-/

namespace Rehearsal

open Relation

/-- Something that is sent: where to, by whom, and what. -/
abbrev Dispatch := QueueId × (Member × Payload)

/-- What is sent to a queue. -/
def sentTo (q : QueueId) (sends : List Dispatch) : List (Member × Payload) :=
  sends.filterMap fun s => if s.1 = q then some s.2 else none

/-- What comes next for a process. -/
inductive Next (α : Type) where
  | over
  /-- Sends messages, and goes on from there. -/
  | acts (sends : List Dispatch) (a : α)
  /-- Takes a message of a queue, sends messages, and goes on from there. -/
  | waits (q : QueueId) (use : Envelope → List Dispatch × α)

/-- The messages of a network and its processes. -/
structure Network (α : Type) where
  processes : Nat → Option α
  queued : QueueId → List Envelope
  nextSequence : QueueId → Nat
  sent : QueueId → List Envelope

namespace Network

variable {α : Type} {next : α → Next α} {n n' n₁ n₂ : Network α} {i j : Nat}

@[ext] theorem ext (processes : n.processes = n'.processes) (queued : n.queued = n'.queued)
    (nextSequence : n.nextSequence = n'.nextSequence) (sent : n.sent = n'.sent) : n = n' := by
  cases n
  cases n'
  cases processes
  cases queued
  cases nextSequence
  cases sent
  rfl

/-- A process goes on, having sent messages. -/
def send (n : Network α) (i : Nat) (sends : List Dispatch) (a : α) : Network α where
  processes := Function.update n.processes i (some a)
  queued q := n.queued q ++ stamp (n.nextSequence q) (sentTo q sends)
  nextSequence q := n.nextSequence q + (sentTo q sends).length
  sent q := n.sent q ++ stamp (n.nextSequence q) (sentTo q sends)

/-- The oldest message of a queue is taken. -/
def pop (n : Network α) (q : QueueId) : Network α :=
  { n with queued := Function.update n.queued q (n.queued q).tail }

@[simp] theorem processes_send_self (n : Network α) (i : Nat) (sends : List Dispatch) (a : α) :
    (n.send i sends a).processes i = some a := by
  simp [send]

theorem processes_send_of_ne (n : Network α) {i j : Nat} (h : j ≠ i) (sends : List Dispatch)
    (a : α) : (n.send i sends a).processes j = n.processes j := by
  simp [send, h]

/-- A step of a process. -/
inductive Act (next : α → Next α) (i : Nat) : Network α → Network α → Prop where
  | acts {n : Network α} {a a' : α} {sends : List Dispatch} (here : n.processes i = some a)
      (asked : next a = .acts sends a') : Act next i n (n.send i sends a')
  | takes {n : Network α} {a : α} {q : QueueId} {use : Envelope → List Dispatch × α} {e : Envelope}
      (here : n.processes i = some a) (asked : next a = .waits q use)
      (oldest : (n.queued q).head? = some e) :
      Act next i n ((n.pop q).send i (use e).1 (use e).2)

/-- Nothing else is possible for a process. -/
theorem Act.deterministic (h₁ : Act next i n n₁) (h₂ : Act next i n n₂) : n₁ = n₂ := by
  cases h₁ with
  | acts here asked =>
    cases h₂ with
    | acts here' asked' =>
      rw [here] at here'
      cases here'
      rw [asked] at asked'
      cases asked'
      rfl
    | takes here' asked' =>
      rw [here] at here'
      cases here'
      rw [asked] at asked'
      cases asked'
  | takes here asked oldest =>
    cases h₂ with
    | acts here' asked' =>
      rw [here] at here'
      cases here'
      rw [asked] at asked'
      cases asked'
    | takes here' asked' oldest' =>
      rw [here] at here'
      cases here'
      rw [asked] at asked'
      cases asked'
      rw [oldest] at oldest'
      cases oldest'
      rfl

/-! ## Wiring -/

/-- Who may send to a queue and who may receive from it, and which processes keep to that from
where they are on. -/
structure Wiring (next : α → Next α) where
  sender : QueueId → Nat
  receiver : QueueId → Nat
  keeps : Nat → α → Prop
  of_acts : ∀ {i a a' sends}, keeps i a → next a = .acts sends a' →
    (∀ s ∈ sends, sender s.1 = i) ∧ keeps i a'
  of_waits : ∀ {i a q use}, keeps i a → next a = .waits q use →
    receiver q = i ∧ ∀ e, (∀ s ∈ (use e).1, sender s.1 = i) ∧ keeps i (use e).2

/-- All processes keep to the wiring. -/
def Wired (w : Wiring next) (n : Network α) : Prop :=
  ∀ i a, n.processes i = some a → w.keeps i a

variable {w : Wiring next}

theorem Wired.send (h : n.Wired w) {sends : List Dispatch} {a : α} (keeps : w.keeps i a) :
    (n.send i sends a).Wired w := by
  intro j b hb
  by_cases hj : j = i
  · subst hj
    rw [processes_send_self] at hb
    cases hb
    exact keeps
  · rw [processes_send_of_ne n hj] at hb
    exact h j b hb

theorem Act.wired (h : n.Wired w) (act : Act next i n n') : n'.Wired w := by
  cases act with
  | acts here asked => exact h.send (w.of_acts (h i _ here) asked).2
  | takes here asked oldest =>
    have kept := (w.of_waits (h i _ here) asked).2
    exact Wired.send (n := n.pop _) h (kept _).2

/-! ## Steps of different processes commute -/

theorem sentTo_eq_nil {q : QueueId} {sends : List Dispatch} (h : ∀ s ∈ sends, s.1 ≠ q) :
    sentTo q sends = [] := by
  rw [sentTo, List.filterMap_eq_nil_iff]
  intro s hs
  exact if_neg (h s hs)

/-- No queue gets messages from two processes. -/
theorem sentTo_apart {sender : QueueId → Nat} {sends sends' : List Dispatch} (apart : i ≠ j)
    (own : ∀ s ∈ sends, sender s.1 = i) (own' : ∀ s ∈ sends', sender s.1 = j) (q : QueueId) :
    sentTo q sends = [] ∨ sentTo q sends' = [] := by
  by_cases hq : sender q = i
  · right
    refine sentTo_eq_nil fun s hs same => ?_
    rw [← same, own' s hs] at hq
    exact apart hq.symm
  · left
    refine sentTo_eq_nil fun s hs same => ?_
    rw [← same] at hq
    exact hq (own s hs)

theorem send_comm (n : Network α) (apart : i ≠ j) {sends sends' : List Dispatch} (a b : α)
    (one : ∀ q, sentTo q sends = [] ∨ sentTo q sends' = []) :
    (n.send i sends a).send j sends' b = (n.send j sends' b).send i sends a := by
  refine Network.ext (Function.update_comm apart.symm _ _ _).symm ?_ ?_ ?_
  · funext q
    rcases one q with none | none <;> simp [send, none]
  · funext q
    rcases one q with none | none <;> simp [send, none]
  · funext q
    rcases one q with none | none <;> simp [send, none]

theorem pop_send {q : QueueId} {e : Envelope} (oldest : (n.queued q).head? = some e) (i : Nat)
    (sends : List Dispatch) (a : α) : (n.send i sends a).pop q = (n.pop q).send i sends a := by
  obtain ⟨rest, cons⟩ : ∃ rest, n.queued q = e :: rest :=
    ⟨_, (List.cons_head?_tail (by simpa using oldest)).symm⟩
  refine Network.ext rfl ?_ rfl rfl
  funext q'
  by_cases hq : q' = q
  · subst hq
    simp [send, pop, cons]
  · simp [send, pop, hq]

theorem pop_comm (n : Network α) {q q' : QueueId} (apart : q ≠ q') :
    (n.pop q).pop q' = (n.pop q').pop q := by
  refine Network.ext rfl ?_ rfl rfl
  simp only [pop, Function.update_of_ne apart, Function.update_of_ne apart.symm]
  exact (Function.update_comm apart.symm _ _ _).symm

theorem head?_send {q : QueueId} {e : Envelope} (oldest : (n.queued q).head? = some e) (i : Nat)
    (sends : List Dispatch) (a : α) : ((n.send i sends a).queued q).head? = some e := by
  rw [send, List.head?_append, oldest, Option.some_or]

theorem head?_pop {q q' : QueueId} (apart : q ≠ q') :
    ((n.pop q').queued q).head? = (n.queued q).head? := by
  simp [pop, apart]

/-- A process that acts on its own does not hinder another one. -/
theorem Act.comm_acts (h : n.Wired w) (apart : i ≠ j) {a a' : α} {sends : List Dispatch}
    (here : n.processes i = some a) (asked : next a = .acts sends a') (h₂ : Act next j n n₂) :
    ∃ n₃, Act next j (n.send i sends a') n₃ ∧ Act next i n₂ n₃ := by
  have own := (w.of_acts (h i _ here) asked).1
  cases h₂ with
  | @acts b b' sends' there asked' =>
    have own' := (w.of_acts (h j _ there) asked').1
    refine ⟨(n.send i sends a').send j sends' b', .acts ?_ asked', ?_⟩
    · rwa [processes_send_of_ne n apart.symm]
    · rw [send_comm n apart _ _ (sentTo_apart apart own own')]
      exact .acts (by rwa [processes_send_of_ne n apart]) asked
  | @takes b q use e there asked' oldest =>
    have own' := ((w.of_waits (h j _ there) asked').2 e).1
    refine ⟨((n.send i sends a').pop q).send j (use e).1 (use e).2,
      .takes ?_ asked' (head?_send oldest _ _ _), ?_⟩
    · rwa [processes_send_of_ne n apart.symm]
    · rw [pop_send oldest, send_comm _ apart _ _ (sentTo_apart apart own own')]
      exact .acts (by rwa [processes_send_of_ne _ apart]) asked

/-- Steps of different processes may be taken in either order. -/
theorem Act.comm (h : n.Wired w) (apart : i ≠ j) (h₁ : Act next i n n₁) (h₂ : Act next j n n₂) :
    ∃ n₃, Act next j n₁ n₃ ∧ Act next i n₂ n₃ := by
  cases h₁ with
  | acts here asked => exact comm_acts h apart here asked h₂
  | @takes a q use e here asked oldest =>
    cases h₂ with
    | acts there asked' =>
      obtain ⟨n₃, act, act'⟩ := comm_acts h apart.symm there asked' (.takes here asked oldest)
      exact ⟨n₃, act', act⟩
    | @takes b q' use' e' there asked' oldest' =>
      obtain ⟨receiver, kept⟩ := w.of_waits (h i _ here) asked
      obtain ⟨receiver', kept'⟩ := w.of_waits (h j _ there) asked'
      -- The two take from different queues, and neither sends to a queue that the other sends to.
      have queues : q ≠ q' := fun same => apart (by rw [← receiver, ← receiver', same])
      have one := sentTo_apart apart (kept e).1 (kept' e').1
      have still : ((n.pop q).queued q').head? = some e' := by
        rwa [head?_pop queues.symm]
      have still' : ((n.pop q').queued q).head? = some e := by
        rwa [head?_pop queues]
      refine ⟨(((n.pop q).send i (use e).1 (use e).2).pop q').send j (use' e').1 (use' e').2,
        .takes ?_ asked' (head?_send still _ _ _), ?_⟩
      · rwa [processes_send_of_ne _ apart.symm]
      · rw [pop_send still, pop_comm n queues, send_comm _ apart _ _ one, ← pop_send still']
        exact .takes (by rwa [processes_send_of_ne _ apart]) asked (head?_send still' _ _ _)

/-! ## Where a network comes to rest -/

/-- A step of some process. -/
def Step (next : α → Next α) (n n' : Network α) : Prop := ∃ i, Act next i n n'

/-- No process can take a step. -/
def AtRest (next : α → Next α) (n : Network α) : Prop := ∀ n', ¬ Step next n n'

theorem diamond (h : n.Wired w) (h₁ : Step next n n₁) (h₂ : Step next n n₂) :
    n₁ = n₂ ∨ ∃ n₃, Step next n₁ n₃ ∧ Step next n₂ n₃ := by
  obtain ⟨i, act⟩ := h₁
  obtain ⟨j, act'⟩ := h₂
  by_cases same : i = j
  · subst same
    exact .inl (act.deterministic act')
  · obtain ⟨n₃, act₁, act₂⟩ := act.comm h same act'
    exact .inr ⟨n₃, ⟨j, act₁⟩, ⟨i, act₂⟩⟩

theorem wired_of_steps (h : n.Wired w) (steps : ReflTransGen (Step next) n n') : n'.Wired w := by
  induction steps with
  | refl => exact h
  | tail _ step ih =>
    obtain ⟨i, act⟩ := step
    exact act.wired ih

theorem eq_of_atRest (rest : n.AtRest next) (steps : ReflTransGen (Step next) n n') : n' = n := by
  rcases steps.cases_head with same | ⟨n'', first, -⟩
  · exact same.symm
  · exact absurd first (rest n'')

/-- **One place of rest.** A wired network comes to rest in at most one way, whatever the order of
steps. -/
theorem atRest_unique (h : n.Wired w) (steps₁ : ReflTransGen (Step next) n n₁)
    (rest₁ : n₁.AtRest next) (steps₂ : ReflTransGen (Step next) n n₂) (rest₂ : n₂.AtRest next) :
    n₁ = n₂ := by
  -- Confluence is a matter of wired networks only, so steps are taken among these.
  let WiredStep : Network α → Network α → Prop := fun m m' => m.Wired w ∧ Step next m m'
  have lift : ∀ {m}, ReflTransGen (Step next) n m → ReflTransGen WiredStep n m := by
    intro m steps
    induction steps with
    | refl => exact .refl
    | tail before step ih => exact ih.tail ⟨wired_of_steps h before, step⟩
  have drop : ∀ {m m'}, ReflTransGen WiredStep m m' → ReflTransGen (Step next) m m' :=
    fun steps => ReflTransGen.mono (fun _ _ step => step.2) _ _ steps
  obtain ⟨m, steps, steps'⟩ := church_rosser (r := WiredStep) (fun a b c hb hc => by
    rcases diamond hb.1 hb.2 hc.2 with rfl | ⟨d, hbd, hcd⟩
    · exact ⟨b, .refl, .refl⟩
    · obtain ⟨i, act⟩ := hb.2
      obtain ⟨j, act'⟩ := hc.2
      exact ⟨d, .single ⟨act.wired hb.1, hbd⟩, .single ⟨act'.wired hb.1, hcd⟩⟩)
    (lift steps₁) (lift steps₂)
  rw [← eq_of_atRest rest₁ (drop steps), ← eq_of_atRest rest₂ (drop steps')]

end Network

end Rehearsal
