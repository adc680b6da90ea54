import EventDetection.Definition

/-!
# Onboarding templates

A template holds the four events that a new project of one kind starts with.
-/

namespace EventDetection

/-- The kinds of products for which there is a template. -/
inductive Template where
  | textGeneration
  | customerSupport
  | writingAssistant
deriving DecidableEq

namespace Template

def name : Template → String
  | .textGeneration => "Text generation"
  | .customerSupport => "Customer support"
  | .writingAssistant => "Writing assistant"

/-- The template of a name; all other names mean the writing assistant. -/
def named (s : String) : Template :=
  if s = name .textGeneration then .textGeneration
  else if s = name .customerSupport then .customerSupport
  else .writingAssistant

/-- The events of a template, in the given project. -/
def definitions (t : Template) (projectId orgId : String) : List Definition :=
  match t with
  | .textGeneration => [
    { projectId, orgId, scope := .taskOutputOnly
      name := "Sounds robotic"
      description := "The text generated by the assistant sounds robotic." },
    { projectId, orgId, scope := .taskOutputOnly
      name := "Repetitive output"
      description := "The assistant has generated a repetitive text." },
    { projectId, orgId, scope := .taskOutputOnly, score := some .range
      name := "Positive sentiment"
      description := "The assistant has generated a warm and positive response." },
    { projectId, orgId, scope := .taskOutputOnly
      name := "Toxic content"
      description := "The assistant has generated curse words or toxic content." }]
  | .customerSupport => [
    { projectId, orgId, scope := .taskInputOnly
      name := "Penetration testing"
      description := "The user is trying to jailbreak the LLM app." },
    { projectId, orgId, scope := .taskInputOnly
      name := "User wants to talk to a human"
      description := "The user is asking to talk to a human." },
    { projectId, orgId, scope := .taskInputOnly, score := some .range
      name := "Positive sentiment"
      description := "The user expresses satisfaction to the assistant." },
    { projectId, orgId, scope := .taskOutputOnly
      name := "Toxic response"
      description := "The assistant has generated curse words or a toxic response." }]
  | .writingAssistant => [
    { projectId, orgId, scope := .session
      name := "Follow-up action"
      description := "The assistant proposes or executes a follow-up action." },
    { projectId, orgId, scope := .taskOutputOnly, score := some .range
      name := "Positive sentiment"
      description := "The reponse generated by the assistant has warmth and is positive." },
    { projectId, orgId
      name := "Toxic generation"
      description := "The assistant has generated curse words or a toxic response." },
    { projectId, orgId
      name := "Verbose response"
      description := "The assistant has generated a verbose response when the user " ++
        "only wanted a brief response." }]

end Template

end EventDetection
