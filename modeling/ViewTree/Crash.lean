/-!
# Crash — what goes wrong in code of the host

Components, actions and record stores belong to the host and may crash.  A crash is caught where it
happens and becomes a value with a message, so that it never reaches a neighbour.
-/

namespace ViewTree

/-- Something that went wrong in code of the host.  Not every crash has a message. -/
inductive Crash where
  | message (text : String)
  | unnamed
deriving DecidableEq, Repr

/-- The message of a crash. -/
def Crash.describe : Crash → String
  | .message text => text
  | .unnamed => "panicked"

end ViewTree
