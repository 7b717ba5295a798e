import Rehearsal.Duration
import Rehearsal.Text.Blank

/-!
# Configurations

How long a driven run may take, and how long the other participants may go on once one has failed.
A configuration built here has a positive timeout and a grace no longer than it.
-/

namespace Rehearsal

/-- The bounds of a run. -/
structure Config where
  timeout : Duration
  failureGrace : Duration
  deriving DecidableEq

namespace Config

/-- Why bounds are refused. -/
inductive Fault where
  | zeroTimeout
  | graceTooLong
  /-- The environment holds a text that is no number of milliseconds. -/
  | notMilliseconds (raw : String)
  deriving DecidableEq

/-- The variable of the environment that holds a timeout in milliseconds. -/
def environmentKey : String := "FLOWLINK_DRIVER_TIMEOUT_MS"

/-- What is wrong. -/
def Fault.reason : Fault → String
  | zeroTimeout => "timeout must be positive"
  | graceTooLong => "failure_grace must not exceed timeout"
  | notMilliseconds raw =>
    environmentKey ++ " must be a number of milliseconds, got '" ++ raw ++ "'"

/-- The wording of a refused value, for a reason. -/
def refusal (reason : String) : String :=
  "Invalid configuration value: " ++ reason

/-- The wording of a fault. -/
def Fault.text (fault : Fault) : String := refusal fault.reason

/-- Ten seconds, and one of grace. -/
def default : Config := ⟨.ofParts 10 0, .ofParts 1 0⟩

/-- A short bound, for runs that are expected to fail. -/
def fast : Config := ⟨.ofParts 1 0, .ofMilliseconds 100⟩

/-- A generous bound, for slow machines. -/
def patient : Config := ⟨.ofParts 60 0, .ofParts 5 0⟩

/-- The configuration of these bounds, if the timeout is positive and the grace not longer. -/
def new (timeout failureGrace : Duration) : Except Fault Config :=
  if timeout = .zero then .error .zeroTimeout
  else if timeout < failureGrace then .error .graceTooLong
  else .ok ⟨timeout, failureGrace⟩

/-- Another timeout with the same grace. -/
def withTimeout (c : Config) (timeout : Duration) : Except Fault Config :=
  new timeout c.failureGrace

/-- Another grace with the same timeout. -/
def withFailureGrace (c : Config) (failureGrace : Duration) : Except Fault Config :=
  new c.timeout failureGrace

/-- The value of a list of ASCII digits that is not empty. -/
def decimal? (cs : List Char) : Option Nat :=
  if cs.isEmpty || !cs.all Char.isDigit then none
  else some (cs.foldl (fun n c => n * 10 + (c.toNat - '0'.toNat)) 0)

/-- A whole number below `2 ^ 64` with blanks around it and perhaps a plus sign in front. -/
def milliseconds? (raw : String) : Option UInt64 :=
  let digits :=
    match Text.trim raw.toList with
    | '+' :: cs => cs
    | cs => cs
  match decimal? digits with
  | some n => if n < UInt64.size then some (UInt64.ofNat n) else none
  | none => none

/-- The configuration with the timeout that a text gives, and a grace cut to it. -/
def override (c : Config) (raw : String) : Except Fault Config :=
  match milliseconds? raw with
  | none => .error (.notMilliseconds raw)
  | some millis =>
    let timeout := Duration.ofMilliseconds millis
    new timeout (c.failureGrace.min timeout)

/-- The default configuration, with the timeout of the environment if there is one. A value that
is no UTF-8 counts as none. -/
def fromEnvironment (value : Option ByteArray) : Except Fault Config :=
  match value.bind String.fromUTF8? with
  | none => .ok default
  | some raw => default.override raw

/-- The configuration as a diagnostic shows it. -/
def debug (c : Config) : String :=
  "DriverConfig \x7b timeout: " ++ c.timeout.text ++ ", failure_grace: " ++ c.failureGrace.text ++
    " \x7d"

end Config

end Rehearsal
