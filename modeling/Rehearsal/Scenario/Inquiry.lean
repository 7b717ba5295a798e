import Rehearsal.Assertion
import Rehearsal.Flow.Request
import Rehearsal.Scenario.Answer

/-!
# Inquiries

Steps that ask about values alone and leave the world as it is.
-/

namespace Rehearsal

/-- A step on a configuration. -/
inductive ConfigStep where
  | preset (c : Config)
  | new (timeout grace : Duration)
  | withTimeout (timeout : Duration)
  | withFailureGrace (grace : Duration)
  | fromEnvironment (value : Option ByteArray)

/-- The configuration after a step. -/
def ConfigStep.apply (c : Config) : ConfigStep → Except Config.Fault Config
  | preset c => .ok c
  | new timeout grace => Config.new timeout grace
  | withTimeout timeout => c.withTimeout timeout
  | withFailureGrace grace => c.withFailureGrace grace
  | fromEnvironment value => Config.fromEnvironment value

/-- Step after step; one that fails leaves the configuration as it was. -/
def ConfigStep.reports (c : Config) : List ConfigStep → List ConfigReport
  | [] => []
  | step :: steps =>
    match step.apply c with
    | .ok next => .ok (next, decide (next = c)) :: reports next steps
    | .error fault => .error fault :: reports c steps

/-- The text of a request, or the value that it is made from. -/
inductive RequestSource where
  | body (text : String)
  | value (p : Payload)

/-- The request. -/
def RequestSource.request : RequestSource → Except Error FlowRequest
  | body text => .ok ⟨text⟩
  | value p => FlowRequest.ofPayload p

/-- A question about values. -/
inductive Inquiry where
  | member (name : String)
  | members (names : List String)
  | config (steps : List ConfigStep)
  | error (e : Error)
  | assertion (which : Assertion) (result : Except Error Unit)
  | capabilities (a b : Capability)
  | payload (p : Payload) (k : Kind)
  | request (source : RequestSource)

/-- The place of the first item equal to each. -/
def firstEqual {α : Type} [DecidableEq α] (items : List α) : List Nat :=
  items.map fun a => items.idxOf a

namespace Inquiry

/-- What an assertion on a result comes to. -/
def assertionReport (which : Assertion) (result : Except Error Unit) : Report :=
  match which.check result with
  | .ok () => .ok .nothing
  | .error message => .error (.assertion message)

/-- The answer to a question. -/
def answer : Inquiry → Report
  | member name =>
    match Member.read name with
    | .ok m => .ok (.member m)
    | .error e => .error (.error e)
  | members names =>
    match names.mapM Member.read with
    | .ok ms => .ok (.members (firstEqual ms) ms.eraseDups.length)
    | .error e => .error (.error e)
  | config steps => .ok (.configs (ConfigStep.reports .default steps))
  | error e => .ok (.error e)
  | assertion which result => assertionReport which result
  | capabilities a b =>
    .ok (.capabilities {
      equal := decide (a = b)
      distinct := [a, b].eraseDups.length
      name := a.name
      display := a.name
      debug := a.debug })
  | payload p k =>
    let parcel := Parcel.pack p
    .ok (.payload {
      name := parcel.tag.name
      debug := parcel.debug
      equal := decide (parcel.tag = k)
      expectKind := parcel.expectKind k
      taken := (parcel.take k).map k.shown })
  | request source =>
    match source.request with
    | .ok r => .ok (.request r.body (decide (r = ⟨r.body⟩)))
    | .error e => .error (.error e)

end Inquiry

end Rehearsal
