import EventDetection.Form.Validation

/-!
# Failures of the setup flows
-/

namespace EventDetection

/-- Why a submission or a selection did not go through. -/
inductive SetupError where
  | validation (violations : List Violation)
  | quotaReached (limit : Nat)
  | noSettings (projectId : String)
  | notSaved (reason : String)
  | nothingToConfirm
deriving DecidableEq

namespace SetupError

def message : SetupError → String
  | .validation vs => "Validation error: " ++ "; ".intercalate (vs.map Violation.text)
  | .quotaReached limit =>
    "Event limit reached: this plan allows " ++ toString limit ++ " events"
  | .noSettings id => "Project " ++ id ++ " has no settings"
  | .notSaved reason => "Error when saving: " ++ reason
  | .nothingToConfirm => "No onboarding template selected"

/-- The violated constraints; none for other failures. -/
def violations : SetupError → List Violation
  | .validation vs => vs
  | _ => []

end SetupError

end EventDetection
