import Rehearsal.Error
import Rehearsal.Json.Basic

/-!
# The engine mock

Stands in for the service that tells a flow who it runs as and that runs sub-flows. It answers from
the latest stub and keeps every sub-flow call, answered or not.
-/

namespace Rehearsal

/-- A sub-flow call: which flow, with what input. -/
structure SubFlowCall where
  flow : String
  input : Json

/-- The stubs and the record of an engine mock. -/
structure Engine where
  nodeName : Option Member := none
  /-- Stubbed results, latest first. -/
  results : List (String × Json) := []
  /-- All calls, oldest first. -/
  calls : List SubFlowCall := []

namespace Engine

instance : Inhabited Engine := ⟨{}⟩

/-- Stubs the name of the member that the flow runs as. -/
def setNodeName (e : Engine) (m : Member) : Engine := { e with nodeName := some m }

/-- The name of the member that the flow runs as. -/
def virtualNodeName (e : Engine) : Except Error Member :=
  match e.nodeName with
  | some m => .ok m
  | none => .error (.unstubbedCall "FlowEngine" "virtual_node_name")

/-- Stubs the result of a sub-flow. -/
def setResult (e : Engine) (flow : String) (result : Json) : Engine :=
  { e with results := (flow, result) :: e.results }

/-- Keeps a call. -/
def record (e : Engine) (flow : String) (input : Json) : Engine :=
  { e with calls := e.calls ++ [⟨flow, input⟩] }

/-- The stubbed result of a sub-flow. -/
def result (e : Engine) (flow : String) : Except Error Json :=
  match e.results.lookup flow with
  | some j => .ok j
  | none => .error (.unstubbedCall "FlowEngine" "sub_flow")

end Engine

end Rehearsal
