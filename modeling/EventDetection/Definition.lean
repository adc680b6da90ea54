import EventDetection.Json.Value
import EventDetection.Score.Range

/-!
# Event definitions

An event definition is a named rule that detects something in what users and an
assistant write to each other.  Members that are not modelled here are kept, so that
a definition goes back to the server as it came.
-/

namespace EventDetection

/-- The mechanism that evaluates a rule. -/
inductive Engine where
  | llm
  | keyword
  | regex
deriving DecidableEq, Inhabited

/-- The part of a conversation that a rule looks at. -/
inductive Scope where
  | task
  | session
  | taskInputOnly
  | taskOutputOnly
deriving DecidableEq, Inhabited

/-- A named detection rule of a project.  Of the keywords, the pattern and the score, the
engine selects the one that counts. -/
structure Definition where
  id : Option String := none
  projectId : String
  orgId : String
  name : String
  description : String
  engine : Engine := .llm
  scope : Scope := .task
  keywords : Option String := none
  regexPattern : Option String := none
  score : Option ScoreRange := none
  webhook : Option String := none
  webhookHeaders : Option (Dict String) := none
  lastTaskOnly : Bool := false
  /-- the detection job of the rule on the server -/
  jobId : Option String := none
  /-- members that are kept as they are -/
  others : Dict Json.Value := Dict.empty
deriving DecidableEq, Inhabited

namespace Definition

/-- The name of the header that carries credentials. -/
def authorizationHeader : String := "Authorization"

/-- The credentials among the headers of the webhook. -/
def authorization (d : Definition) : Option String :=
  d.webhookHeaders.bind fun h => h.get? authorizationHeader

end Definition

end EventDetection
