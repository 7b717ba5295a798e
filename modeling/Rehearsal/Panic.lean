/-!
# Panics

What a body that panics leaves behind, and how its driver puts it into words when it joins the task
of the body.
-/

namespace Rehearsal

/-- The value that a body panicked with. -/
inductive PanicPayload where
  /-- A text that was put together. -/
  | string (message : String)
  /-- A text that stands in the program. -/
  | str (message : String)
  /-- A value of any other type. -/
  | other

/-- The text of a panic. Only texts can be read. -/
def PanicPayload.message : PanicPayload → String
  | string message => message
  | str message => message
  | other => "non-string panic payload"

/-- Why a task has no result. -/
inductive JoinError where
  | cancelled
  | panicked (payload : PanicPayload)

/-- How the driver describes a task that has no result. -/
def JoinError.describe : JoinError → String
  | cancelled => "task was cancelled"
  | panicked payload => payload.message

end Rehearsal
