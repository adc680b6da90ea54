import EventDetection.Catalog.Template
import EventDetection.Log
import EventDetection.Onboarding.Feedback
import EventDetection.SetupError

/-!
# Onboarding

A new project starts with the events of a template, less those that the user unticks.
Confirming sends the selected events and goes on to the next page whether or not they
were saved.  Feedback on the selection is sent afterwards, and its failure is only
logged.

* `Onboarding.toggle`, `Onboarding.isSelected`: a flag per name, not per candidate.
* `Onboarding.confirm`: what is sent, and what is answered.
-/

namespace EventDetection

/-- Where selected events are added to a project.  A failure is a reason. -/
structure EventSink (σ : Type) where
  addEvents : (projectId : String) → List Definition → Action σ (Except String Unit)

/-- Where feedback is sent.  A failure is a reason. -/
structure FeedbackSink (σ : Type) where
  send : Feedback → Action σ (Except String Unit)

/-- The step of onboarding at which events are selected. -/
structure Onboarding where
  projectId : String
  orgId : String
  taskId : Option String
  telemetryProjectId : String
  redirectTo : String := "/onboarding/plan"
  template : Option Template := none
  candidates : List Definition := []
  /-- whether the event of a name is ticked -/
  ticked : Dict Bool := Dict.empty
deriving DecidableEq

/-- What confirming a selection answers. -/
structure Outcome where
  redirectTo : String
  savedCount : Nat
  saveError : Option String
  /-- the feedback that is on its way -/
  feedback : Option Feedback
deriving DecidableEq

/-- What the user is told. -/
def Outcome.notice (o : Outcome) : String :=
  match o.saveError with
  | none => "Your config has been saved! Change the config in Analytics."
  | some reason => "Error when saving events: " ++ reason

namespace Onboarding

variable {σ : Type}

/-- Starts over with a list of candidates, all of them ticked. -/
def setCandidates (o : Onboarding) (candidates : List Definition) : Onboarding :=
  { o with
    candidates
    ticked := candidates.foldl (fun flags d => flags.insert d.name true) Dict.empty }

/-- Starts over with the events of a template. -/
def selectTemplate (o : Onboarding) (name : String) : Logged Onboarding :=
  let t := Template.named name
  let o := { o with template := some t }
  ⟨o.setCandidates (t.definitions o.projectId o.orgId), [.templateSelected t.name]⟩

def isSelected (o : Onboarding) (name : String) : Bool := (o.ticked.get? name).getD false

/-- Ticks or unticks a name, which need not be that of a candidate. -/
def toggle (o : Onboarding) (name : String) : Onboarding :=
  { o with ticked := o.ticked.insert name (!o.isSelected name) }

/-- The candidates that are ticked, in their order. -/
def selected (o : Onboarding) : List Definition := o.candidates.filter fun d => o.isSelected d.name

/-- There is something to select from. -/
def canConfirm (o : Onboarding) : Bool := !o.candidates.isEmpty

/-- Where to go on without confirming. -/
def skip (o : Onboarding) : String := o.redirectTo

/-- The feedback on a selection; it needs the task that it belongs to. -/
def feedbackOn (o : Onboarding) (selected : List Definition) : Logged (Option Feedback) :=
  match o.taskId with
  | none => ⟨none, [.noTaskId]⟩
  | some t => ⟨some (.onSelection t o.telemetryProjectId selected), []⟩

/-- Sends the selected events.  A selection with an event that violates a constraint is not
sent at all; a selection that is not saved is answered like one that is. -/
def confirm (o : Onboarding) (sink : EventSink σ) : Action σ (Except SetupError Outcome) := do
  if !o.canConfirm then return .error .nothingToConfirm
  let selected := o.selected
  let violations := selected.flatMap Definition.violations
  if !violations.isEmpty then return .error (.validation violations)
  let saveError ← match ← sink.addEvents o.projectId selected with
    | .ok () => do
      Action.event (.selectionSaved o.projectId selected.length)
      pure none
    | .error reason => do
      Action.event (.selectionNotSaved o.projectId reason)
      pure (some reason)
  let feedback ← liftM (o.feedbackOn selected)
  return .ok {
    redirectTo := o.redirectTo
    savedCount := if saveError.isNone then selected.length else 0
    saveError, feedback }

end Onboarding

/-- Sends the feedback that is on its way.  A failure is logged and nothing else. -/
def Outcome.emit {σ : Type} (o : Outcome) (sink : FeedbackSink σ) : Action σ Unit := do
  match o.feedback with
  | none => return
  | some f =>
    match ← sink.send f with
    | .ok () => return
    | .error reason => Action.event (.feedbackNotSent f.taskId reason)

/-- Confirms a selection and sends the feedback on it. -/
def Onboarding.confirmAndEmit {σ : Type} (o : Onboarding) (events : EventSink σ)
    (feedback : FeedbackSink σ) : Action σ (Except SetupError Outcome) := do
  let r ← o.confirm events
  match r with
  | .ok outcome => outcome.emit feedback
  | .error _ => pure ()
  return r

/-- Without a key for the telemetry service feedback is dropped. -/
def FeedbackSink.disabled {σ : Type} : FeedbackSink σ where
  send f := do
    Action.event (.feedbackDropped f.taskId)
    return .ok ()

end EventDetection
