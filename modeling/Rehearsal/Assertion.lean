import Rehearsal.Error
import Rehearsal.Text.Excerpt

/-!
# Assertions on the result of a run

What a test expects of a run: that everybody completed, that one participant failed in a certain
way, or that one was stuck. An assertion that does not hold says what was found instead.
-/

namespace Rehearsal

/-- What a test expects of a run. -/
inductive Assertion where
  /-- Every participant completed. -/
  | completed
  /-- This participant failed, and the wording of its error contains this text. -/
  | failedWith (participant excerpt : String)
  /-- The run was stopped because this participant, perhaps among others, did not complete. -/
  | deadlocked (participant : String)

namespace Assertion

/-- Holds, or says what was found instead. -/
def check : Assertion → Except Error Unit → Except String Unit
  | completed, .ok () => .ok ()
  | completed, .error e =>
    .error ("Expected all participants to complete successfully, but got error: " ++ e.text)
  | failedWith participant excerpt, .ok () =>
    .error ("Expected participant '" ++ participant ++ "' to fail with error containing '" ++
      excerpt ++ "', but the run succeeded")
  | failedWith participant excerpt, .error (.participantFailed actual source) =>
    if actual ≠ participant then
      .error ("Expected participant '" ++ participant ++ "' to fail, but '" ++ actual ++
        "' failed: " ++ source.text)
    else if !Text.occursIn excerpt.toList source.text.toList then
      .error ("Expected error to contain '" ++ excerpt ++ "', but got: " ++ source.text)
    else .ok ()
  | failedWith participant _, .error e =>
    .error ("Expected participant '" ++ participant ++ "' to fail, but got different error: " ++
      e.text)
  | deadlocked participant, .ok () =>
    .error ("Expected participant '" ++ participant ++ "' to deadlock, but the run succeeded")
  | deadlocked participant, .error e =>
    let different :=
      "Expected participant '" ++ participant ++ "' to deadlock, but got different error: " ++
        e.text
    match e with
    | .participantDeadlock participants _ =>
      if participants.contains participant then .ok () else .error different
    | _ => .error different

end Assertion

end Rehearsal
