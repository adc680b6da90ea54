import EventDetection.Definition

/-!
# Feedback

What the telemetry service is told about an onboarding task: a success if at least
one event was kept.
-/

namespace EventDetection

inductive FeedbackFlag where
  | success
  | failure
deriving DecidableEq

inductive FeedbackSource where
  | user
deriving DecidableEq

/-- The outcome of an onboarding task. -/
structure Feedback where
  taskId : String
  projectId : String
  flag : FeedbackFlag
  source : FeedbackSource
  notes : String
deriving DecidableEq

/-- The feedback on a selection of events. -/
def Feedback.onSelection (taskId projectId : String) (selected : List Definition) : Feedback where
  taskId := taskId
  projectId := projectId
  flag := if selected.isEmpty then .failure else .success
  source := .user
  notes := "Selected " ++ toString selected.length ++ " events: " ++
    ", ".intercalate (selected.map (·.name))

end EventDetection
