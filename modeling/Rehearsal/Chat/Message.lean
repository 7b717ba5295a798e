/-!
# What a chat is made of

The data of the chat flows: the request that starts one, the message that travels, and the record
that each side keeps.
-/

namespace Rehearsal.Chat

/-- The request that starts an outgoing chat: whom to write to, as a member name, and what. -/
structure Request where
  recipient : String
  message : String
  deriving DecidableEq

/-- What travels between the two sides. -/
structure Message where
  message : String
  deriving DecidableEq

/-- Which side of a chat a record belongs to. -/
inductive Direction where
  | outgoing
  | incoming
  deriving DecidableEq

/-- The name of a direction in data. -/
def Direction.name : Direction → String
  | outgoing => "Outgoing"
  | incoming => "Incoming"

/-- What each side keeps of a chat message: its own name, the other's, and the text. -/
structure Record where
  direction : Direction
  own : String
  counterparty : String
  message : String
  deriving DecidableEq

end Rehearsal.Chat
