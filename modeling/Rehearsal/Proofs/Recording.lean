import Rehearsal.Flow.Request
import Rehearsal.Proofs.Identity
import Rehearsal.Proofs.World.Mocks

/-!
# What mocks record

A mock keeps every call in the order of the calls, whether the call succeeds or not, and answers
from the stub that was set last. Each operation of a history tells on its own which call it makes on
a mock and which stub it sets there, so what a mock holds after a history is read off the row of
operations.
-/

namespace Rehearsal

/-! ## Stubs -/

namespace Engine

/-- What a stub answers, if there is one. -/
def answer {α : Type} (method : String) : Option α → Except Error α
  | some a => .ok a
  | none => .error (.unstubbedCall "FlowEngine" method)

theorem virtualNodeName_eq (e : Engine) :
    e.virtualNodeName = answer "virtual_node_name" e.nodeName := by
  unfold virtualNodeName
  cases e.nodeName <;> rfl

theorem result_eq (e : Engine) (flow : String) :
    e.result flow = answer "sub_flow" (e.results.lookup flow) := by
  unfold result
  cases e.results.lookup flow <;> rfl

end Engine

/-! ## What an operation tells -/

namespace Operation

/-- The sub-flow call that an operation makes on an engine. -/
def subFlowCall? (m : MockId) : Operation → Option SubFlowCall
  | subFlow m' flow input => if m = m' then some ⟨flow, input⟩ else none
  | _ => none

/-- The result that an operation stubs for a sub-flow. -/
def stubbedResult? (m : MockId) (flow : String) : Operation → Option Json
  | setSubFlow m' flow' result => if m = m' ∧ flow = flow' then some result else none
  | _ => none

/-- The name that an operation stubs for an engine. -/
def stubbedName? (m : MockId) : Operation → Option Member
  | setNodeName m' name => if m = m' then some name else none
  | _ => none

/-- The member that an operation asks a messaging mock for a session with. -/
def askedFor? (m : MockId) : Operation → Option Member
  | initiate m' counterparty => if m = m' then some counterparty else none
  | _ => none

/-- Whether an operation writes with a marshalling mock. -/
def formats (m : MockId) : Operation → Bool
  | format m' _ => m = m'
  | _ => false

/-- Whether an operation reads with a marshalling mock. -/
def parses (m : MockId) : Operation → Bool
  | parse m' _ _ => m = m'
  | _ => false

/-! ## What an operation does to a mock -/

/-- What an operation does to an engine. -/
def onEngine (m : MockId) (e : Engine) : Operation → Engine
  | setNodeName m' name => if m = m' then e.setNodeName name else e
  | setSubFlow m' flow result => if m = m' then e.setResult flow result else e
  | subFlow m' flow input => if m = m' then e.record flow input else e
  | _ => e

/-- What becomes of the mocks of one number as an operation is carried out. -/
structure Leaves (op : Operation) (m : MockId) (w w' : World) : Prop where
  engine : w'.engines.get m = op.onEngine m (w.engines.get m)
  initiated : (w'.messagings.get m).initiated =
    (w.messagings.get m).initiated ++ (op.askedFor? m).toList
  marshalling : w'.marshallings.get m = {
    formatCalls := (w.marshallings.get m).formatCalls + (op.formats m).toNat
    parseCalls := (w.marshallings.get m).parseCalls + (op.parses m).toNat }

/-- What one operation does to mocks, whether it succeeds or not. -/
theorem leaves_run (op : Operation) (m : MockId) (w : World) : op.Leaves m w (op.run w) := by
  have untouched : ¬ op.ConcernsMocks → w.SameMocks (op.run w) := sameMocks_run w
  cases op with
  | linkRegistries a b =>
    obtain ⟨messagings, linkCount, log, same, attached⟩ := linkRegistries_eq w a b
    rw [same]
    refine ⟨rfl, ?_, rfl⟩
    -- Sessions are attached, but nobody asked for one.
    show (messagings.get m).initiated = (w.messagings.get m).initiated ++ []
    rw [attached, Messaging.initiated_foldl_attach, List.append_nil]
  | setNodeName m' name =>
    exact ⟨Store.get_modify w.engines m' m (·.setNodeName name), (List.append_nil _).symm, rfl⟩
  | setSubFlow m' flow result =>
    exact ⟨Store.get_modify w.engines m' m (·.setResult flow result), (List.append_nil _).symm, rfl⟩
  | subFlow m' flow input =>
    rw [run_subFlow]
    exact ⟨Store.get_modify w.engines m' m (·.record flow input), (List.append_nil _).symm, rfl⟩
  | initiate m' counterparty =>
    rw [run_initiate]
    refine ⟨rfl, ?_, rfl⟩
    rw [Store.get_modify, askedFor?]
    split
    · rfl
    · exact (List.append_nil _).symm
  | format m' p =>
    rw [run_format]
    refine ⟨rfl, (List.append_nil _).symm, ?_⟩
    rw [Store.get_modify]
    by_cases here : m = m' <;> simp [here, Marshalling.countFormat, formats, parses]
  | parse m' k text =>
    rw [run_parse]
    refine ⟨rfl, (List.append_nil _).symm, ?_⟩
    rw [Store.get_modify]
    by_cases here : m = m' <;> simp [here, Marshalling.countParse, formats, parses]
  | persist m' p =>
    rw [run_persist]
    cases Persistence.stored p <;> exact ⟨rfl, (List.append_nil _).symm, rfl⟩
  | _ =>
    have same := untouched id
    refine ⟨?_, ?_, ?_⟩
    · rw [same.engines]
      rfl
    · rw [same.messagings]
      exact (List.append_nil _).symm
    · rw [same.marshallings]
      rfl

variable (op : Operation) (m : MockId)

/-- A sub-flow call is kept whether it is stubbed or not, and nothing else is kept. -/
theorem calls_onEngine (e : Engine) :
    (op.onEngine m e).calls = e.calls ++ (op.subFlowCall? m).toList := by
  cases op with
  | subFlow m' flow input =>
    by_cases here : m = m' <;> simp [onEngine, subFlowCall?, here, Engine.record]
  | setNodeName m' | setSubFlow m' =>
    by_cases here : m = m' <;>
      simp [onEngine, subFlowCall?, here, Engine.setNodeName, Engine.setResult]
  | _ => exact (List.append_nil _).symm

theorem nodeName_onEngine (e : Engine) :
    (op.onEngine m e).nodeName = (op.stubbedName? m).or e.nodeName := by
  cases op with
  | setNodeName m' name =>
    by_cases here : m = m' <;> simp [onEngine, stubbedName?, here, Engine.setNodeName]
  | setSubFlow m' | subFlow m' =>
    by_cases here : m = m' <;>
      simp [onEngine, stubbedName?, here, Engine.setResult, Engine.record]
  | _ => rfl

theorem lookup_onEngine (flow : String) (e : Engine) :
    (op.onEngine m e).results.lookup flow =
      (op.stubbedResult? m flow).or (e.results.lookup flow) := by
  cases op with
  | setSubFlow m' flow' result =>
    by_cases here : m = m'
    · by_cases same : flow = flow'
      · simp [onEngine, stubbedResult?, here, same, Engine.setResult]
      · have other : (flow == flow') = false := beq_false_of_ne same
        simp [onEngine, stubbedResult?, here, same, other, Engine.setResult, List.lookup_cons]
    · simp [onEngine, stubbedResult?, here]
  | setNodeName m' | subFlow m' =>
    by_cases here : m = m' <;>
      simp [onEngine, stubbedResult?, here, Engine.setNodeName, Engine.record]
  | _ => rfl

end Operation

/-! ## What a history tells -/

namespace World

variable {w w' : World} {m : MockId} {ops : List Operation}

/-- A record to which every operation adds what it tells is what the history tells. -/
theorem Undergoes.records {γ : Type} (part : World → List γ) (tells : Operation → Option γ)
    (step : ∀ w op, part (op.run w) = part w ++ (tells op).toList) (h : w.Undergoes ops w') :
    part w' = part w ++ ops.filterMap tells := by
  induction h with
  | nothing => simp
  | @next w w' op ops _ _ ih =>
    rw [ih, step, List.append_assoc]
    cases told : tells op <;> simp [told]

/-- A stub that every operation may set is the last that was set. -/
theorem Undergoes.latest {γ : Type} (part : World → Option γ) (tells : Operation → Option γ)
    (step : ∀ w op, part (op.run w) = (tells op).or (part w)) (h : w.Undergoes ops w') :
    part w' = (ops.filterMap tells).getLast?.or (part w) := by
  induction h with
  | nothing => simp
  | @next w w' op ops _ _ ih =>
    rw [ih, step]
    cases told : tells op with
    | none => simp [told]
    | some stub => simp [told, List.getLast?_cons]

/-- A count that some operations raise by one is their number. -/
theorem Undergoes.counts (part : World → Nat) (tells : Operation → Bool)
    (step : ∀ w op, part (op.run w) = part w + (tells op).toNat) (h : w.Undergoes ops w') :
    part w' = part w + ops.countP tells := by
  induction h with
  | nothing => simp
  | @next w w' op ops _ _ ih =>
    rw [ih, step, List.countP_cons, Nat.add_assoc, Nat.add_comm (tells op).toNat]
    cases tells op <;> rfl

/-- Whoever is given a mock has its registry's mock of that capability. -/
theorem Gives.mock? {r : RegistryId} {c : Capability} (h : w.Gives r c m) :
    (w.registry r).mock? c = some m := by
  have given := congrArg Prod.fst h.mock
  rw [Act.mock_apply, World.mock] at given
  cases found : (w.registry r).mock? c with
  | some n =>
    rw [found] at given
    cases given
    rfl
  | none =>
    rw [found] at given
    cases given

/-- **Record law.** After any history, whichever of its calls failed, an engine holds every sub-flow
call with its input, a messaging mock every member that it was asked for, both in their order, and a
marshalling mock the number of its calls. A sub-flow and the name of the member are answered by the
stub that was set last for them, and by an error if there is none. Reading the body of a request is
one call to read, and making a request is no call. Whoever is given a mock shares it for good with
all who are given the mock of that capability by that registry, and with nobody else. -/
theorem Undergoes.record_law (h : ({} : World).Undergoes ops w) (m : MockId) :
    (w.engines.get m).calls = ops.filterMap (Operation.subFlowCall? m) ∧
    (∀ flow input, (Act.subFlow m flow input w).1 =
      Engine.answer "sub_flow" (ops.filterMap (Operation.stubbedResult? m flow)).getLast?) ∧
    Act.nodeName m w = (Engine.answer "virtual_node_name"
      (ops.filterMap (Operation.stubbedName? m)).getLast?, w) ∧
    (w.messagings.get m).initiated = ops.filterMap (Operation.askedFor? m) ∧
    (∀ counterparty, (w.messagings.get m).wasInitiated counterparty = true ↔
      counterparty ∈ ops.filterMap (Operation.askedFor? m)) ∧
    (w.marshallings.get m).formatCalls = ops.countP (Operation.formats m) ∧
    (w.marshallings.get m).parseCalls = ops.countP (Operation.parses m) ∧
    (∀ (request : FlowRequest) k,
      w.Undergoes [.parse m k request.body] (request.bodyAs m k w).2) ∧
    (∀ me source stage, ((Command.inquire (.request source)).run me stage).2 = stage) ∧
    ∀ r c, w.Gives r c m →
      (∀ later w', w.Undergoes later w' → w'.Gives r c m) ∧
      ∀ r' c', w.Gives r' c' m → r' = r ∧ c' = c := by
  have initiated : (w.messagings.get m).initiated = ops.filterMap (Operation.askedFor? m) :=
    h.records (fun w => (w.messagings.get m).initiated) (Operation.askedFor? m)
      fun w op => (op.leaves_run m w).initiated
  refine ⟨?_, fun flow input => ?_, ?_, initiated, fun counterparty => ?_, ?_, ?_,
    fun request k => .single trivial, fun _ _ _ => rfl, fun r c gives => ?_⟩
  · refine h.records (fun w => (w.engines.get m).calls) (Operation.subFlowCall? m) fun w op => ?_
    rw [(op.leaves_run m w).engine, op.calls_onEngine]
  · have stub := h.latest (fun w => (w.engines.get m).results.lookup flow)
      (Operation.stubbedResult? m flow) fun w op => by
        rw [(op.leaves_run m w).engine, op.lookup_onEngine]
    rw [Act.subFlow_apply, Engine.result_eq, stub]
    simp [default]
  · have stub := h.latest (fun w => (w.engines.get m).nodeName)
      (Operation.stubbedName? m) fun w op => by
        rw [(op.leaves_run m w).engine, op.nodeName_onEngine]
    rw [Act.nodeName, ask_apply, Engine.virtualNodeName_eq, stub]
    simp [default]
  · rw [Messaging.wasInitiated, initiated, List.contains_iff_mem]
  · have count := h.counts (fun w => (w.marshallings.get m).formatCalls)
      (Operation.formats m) fun w op => by
        rw [(op.leaves_run m w).marshalling]
    simpa [default] using count
  · have count := h.counts (fun w => (w.marshallings.get m).parseCalls)
      (Operation.parses m) fun w op => by
        rw [(op.leaves_run m w).marshalling]
    simpa [default] using count
  · have owned := (h.changes.retains World.Owned.empty).1
    refine ⟨fun later w' history => ?_, fun r' c' gives' => ?_⟩
    · exact gives_of_mock? ((history.changes.retains owned).2.mocks r c m gives.mock?)
    · exact owned.owner r' r c' c m (Registry.mem_of_mock? gives'.mock?)
        (Registry.mem_of_mock? gives.mock?)

/-- Calls of Alice's mocks before and after they are stubbed. She has no link, and the text that is
read is no JSON. -/
def restubbed (alice bob : Member) : List Operation :=
  [.build "alice" [.engine, .messaging, .marshalling], .subFlow 0 "pay" .null,
    .setSubFlow 0 "pay" (.integer 1), .setSubFlow 0 "audit" (.bool true),
    .setSubFlow 0 "pay" (.integer 2), .subFlow 0 "pay" (.bool false), .setNodeName 0 alice,
    .setNodeName 0 bob, .initiate 1 bob, .initiate 1 bob, .format 2 ⟨.unit, ()⟩,
    .parse 2 .unit "no"]

theorem record_law_restubbed : ∃ alice bob w, ({} : World).Undergoes (restubbed alice bob) w ∧
    (w.engines.get 0).calls = [⟨"pay", .null⟩, ⟨"pay", .bool false⟩] ∧
    (Act.subFlow 0 "pay" .null w).1 = .ok (.integer 2) ∧
    (Act.subFlow 0 "Pay" .null w).1 = .error (.unstubbedCall "FlowEngine" "sub_flow") ∧
    Act.nodeName 0 w = (.ok bob, w) ∧
    (w.messagings.get 1).initiated = [bob, bob] ∧
    ¬ (w.messagings.get 1).wasInitiated alice = true ∧
    (w.marshallings.get 2).formatCalls = 1 ∧ (w.marshallings.get 2).parseCalls = 1 ∧
    ∀ later w', w.Undergoes later w' → w'.Gives 0 .engine 0 := by
  let alice : Member := ⟨none, none, "Alice", "Oslo", none, "NO"⟩
  let bob : Member := ⟨none, none, "Bob", "Bonn", none, "DE"⟩
  have undergoes : ({} : World).Undergoes (restubbed alice bob) _ :=
    .next trivial (.next trivial (.next trivial (.next trivial (.next trivial (.next trivial
      (.next trivial (.next trivial (.next trivial (.next trivial (.next trivial (.next trivial
        .nothing)))))))))))
  obtain ⟨calls, answers, name, -, -, -, -, -, -, handles⟩ := undergoes.record_law 0
  obtain ⟨-, -, -, initiated, wasInitiated, -⟩ := undergoes.record_law 1
  obtain ⟨-, -, -, -, -, formats, parses, -⟩ := undergoes.record_law 2
  refine ⟨alice, bob, _, undergoes, calls, answers "pay" .null, answers "Pay" .null, name,
    initiated, ?_, formats, parses, (handles 0 .engine (gives_of_mock? (by rfl))).1⟩
  rw [wasInitiated]
  decide +kernel

end World

end Rehearsal
