import EventDetection.Onboarding.Basic

/-!
# Steps of onboarding

What is done to a selection as data.  Confirming is a step like the others, and it leaves the
selection as it is, so that it can be confirmed once more.
-/

namespace EventDetection

/-- Something that is done to a selection. -/
inductive OnboardingStep where
  | selectTemplate (name : String)
  | setCandidates (candidates : List Definition)
  | toggle (name : String)
  | confirm

/-- What a step answers. -/
inductive OnboardingReply where
  | done
  /-- whether the name is ticked now -/
  | toggled (isTicked : Bool)
  | confirmed (r : Except SetupError Outcome)

namespace Onboarding

/-- Takes one step. -/
def step {σ : Type} (o : Onboarding) (events : EventSink σ) (feedback : FeedbackSink σ) :
    OnboardingStep → Action σ (OnboardingReply × Onboarding)
  | .selectTemplate name => do return (.done, ← liftM (o.selectTemplate name))
  | .setCandidates candidates => return (.done, o.setCandidates candidates)
  | .toggle name =>
    let o := o.toggle name
    return (.toggled (o.isSelected name), o)
  | .confirm => do return (.confirmed (← o.confirmAndEmit events feedback), o)

/-- Takes steps one after the other. -/
def run {σ : Type} (o : Onboarding) (events : EventSink σ) (feedback : FeedbackSink σ) :
    List OnboardingStep → Action σ Onboarding
  | [] => return o
  | s :: ss => do (← o.step events feedback s).2.run events feedback ss

end Onboarding

end EventDetection
