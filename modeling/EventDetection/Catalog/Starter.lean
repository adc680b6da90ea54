import EventDetection.Definition

/-!
# Starters

The form of an event offers a catalog of definitions to start from, filed under four
categories.
-/

namespace EventDetection

/-- The categories of the catalog. -/
inductive StarterCategory where
  | quality
  | safety
  | userIntent
  | sentiment
deriving DecidableEq

def StarterCategory.name : StarterCategory → String
  | .quality => "Quality"
  | .safety => "Safety"
  | .userIntent => "User intent"
  | .sentiment => "Sentiment"

namespace Starter

/-- The name that stands for all categories. -/
def allCategories : String := "All"

/-- The moods that a user is asked about. -/
def moods : Option ScoreRange :=
  (ScoreRange.derive .category (.text "happy,neutral,frustrated")).toOption

/-- The whole catalog, in the given project. -/
def catalog (projectId orgId : String) : List (StarterCategory × Definition) := [
  (.quality,
    { projectId, orgId, scope := .taskOutputOnly
      name := "Sounds robotic"
      description := "The text generated by the assistant sounds robotic." }),
  (.quality,
    { projectId, orgId
      name := "Verbose response"
      description := "The assistant has generated a verbose response when the user " ++
        "only wanted a brief response." }),
  (.quality,
    { projectId, orgId, scope := .taskOutputOnly
      name := "Unsupported claim"
      description := "The assistant states facts that are not supported by the conversation." }),
  (.safety,
    { projectId, orgId, scope := .taskInputOnly
      name := "Penetration testing"
      description := "The user is trying to jailbreak the LLM app." }),
  (.safety,
    { projectId, orgId, scope := .taskOutputOnly
      name := "Toxic content"
      description := "The assistant has generated curse words or toxic content." }),
  (.safety,
    { projectId, orgId, scope := .taskOutputOnly
      name := "Email address in output"
      description := "The assistant output contains an email address."
      regexPattern := some "[A-Za-z0-9._%+-]+@[A-Za-z0-9.-]+\\.[A-Za-z]\x7b2,\x7d" }),
  (.userIntent,
    { projectId, orgId, scope := .taskInputOnly
      name := "User wants to talk to a human"
      description := "The user is asking to talk to a human."
      keywords := some "human, real person, agent, representative" }),
  (.userIntent,
    { projectId, orgId, scope := .taskInputOnly
      name := "Cancellation request"
      description := "The user wants to cancel a subscription or get a refund."
      keywords := some "cancel, unsubscribe, refund" }),
  (.userIntent,
    { projectId, orgId, scope := .session, lastTaskOnly := true
      name := "Unresolved conversation"
      description := "The conversation ends without the user's request being solved." }),
  (.sentiment,
    { projectId, orgId, scope := .taskInputOnly, score := some .confidence
      name := "Positive sentiment"
      description := "The user expresses satisfaction to the assistant." }),
  (.sentiment,
    { projectId, orgId, score := some .range
      name := "User satisfaction"
      description := "How satisfied is the user with the answer of the assistant?" }),
  (.sentiment,
    { projectId, orgId, scope := .taskInputOnly, score := moods
      name := "User mood"
      description := "How does the user feel during the conversation?" })]

/-- The definitions of a category, or of all. -/
def definitions (category projectId orgId : String) : List Definition :=
  ((catalog projectId orgId).filter fun s =>
    category = allCategories || s.1.name = category).map (·.2)

/-- The entry of the given name. -/
def named? (name projectId orgId : String) : Option Definition :=
  (definitions allCategories projectId orgId).find? (·.name = name)

end Starter

end EventDetection
