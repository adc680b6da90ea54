import EventDetection.Onboarding.Basic

/-!
# A recorder for onboarding

Sinks that record what is sent to them and can be told to fail.
-/

namespace EventDetection

/-- What was sent. -/
structure Recorder where
  /-- the calls that add events, failed ones included -/
  calls : List (String × List Definition) := []
  /-- the feedback that was taken -/
  feedback : List Feedback := []
deriving DecidableEq

namespace Recorder

/-- Records each call, and then takes it or fails. -/
def eventSink (fails : Bool) : EventSink Recorder where
  addEvents id ds := fun r =>
    let answer := if fails then .error "RecordingEventSink: add-events rejected" else .ok ()
    ⟨(answer, { r with calls := r.calls ++ [(id, ds)] }), []⟩

/-- Records feedback, or fails and records nothing. -/
def feedbackSink (fails : Bool) : FeedbackSink Recorder where
  send f := fun r =>
    if fails then ⟨(.error "RecordingFeedbackSink: telemetry unavailable", r), []⟩
    else ⟨(.ok (), { r with feedback := r.feedback ++ [f] }), []⟩

end Recorder

end EventDetection
