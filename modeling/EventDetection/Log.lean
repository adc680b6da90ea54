/-!
# The log

What the library does is logged as it happens.  A logged event has a level, a message
and named fields; all of them follow from what happened (`LogEvent`).  A computation
that logs is a value with its log (`Logged`).
-/

namespace EventDetection

/-- How much a logged event matters. -/
inductive LogLevel where
  | error
  | warn
  | info
  | debug
deriving DecidableEq

/-- The value of a field of a logged event. -/
inductive LogField where
  | count (n : Nat)
  | text (s : String)
deriving DecidableEq

/-- Something that happened. -/
inductive LogEvent where
  | templateLoaded (eventName : String)
  | formInvalid (violations : Nat)
  | renameOverwrote (eventName : String)
  | projectLoaded (projectId : String) (events : Nat)
  | submitting (projectId eventName renamedFrom : String)
  | projectSaved (projectId : String)
  | projectNotSaved (projectId reason : String)
  | templateSelected (template : String)
  | selectionSaved (projectId : String) (events : Nat)
  | selectionNotSaved (projectId reason : String)
  | noTaskId
  | feedbackNotSent (taskId reason : String)
  | feedbackDropped (taskId : String)
  | nothingToBrowse (projectId : String)
  | clustersLoaded (projectId clustering : String) (clusters : Nat)
  | savingProject (projectId : String)
  | addingEvents (projectId : String) (events : Nat)
  | clusteringsFetched (projectId : String) (clusterings : Nat)
  | clustersFetched (projectId clusteringId : String) (clusters : Nat)
  | configLoaded
  | configSetting (name value : String)
deriving DecidableEq

namespace LogEvent

def level : LogEvent → LogLevel
  | .templateLoaded _ | .formInvalid _ | .templateSelected _ | .feedbackDropped _
  | .clustersLoaded .. | .savingProject _ | .clusteringsFetched .. | .clustersFetched .. => .debug
  | .projectLoaded .. | .submitting .. | .projectSaved _ | .selectionSaved .. | .nothingToBrowse _
  | .addingEvents .. | .configLoaded | .configSetting .. => .info
  | .renameOverwrote _ | .feedbackNotSent .. => .warn
  | .projectNotSaved .. | .selectionNotSaved .. | .noTaskId => .error

def message : LogEvent → String
  | .templateLoaded _ => "Loaded event template"
  | .formInvalid _ => "Event form has validation errors"
  | .renameOverwrote _ => "Renamed event overwrote an existing event with the same name"
  | .projectLoaded .. => "Loaded project"
  | .submitting .. => "Submitting event definition"
  | .projectSaved _ => "Project settings saved"
  | .projectNotSaved .. => "Failed to save project settings"
  | .templateSelected _ => "Onboarding template selected"
  | .selectionSaved .. => "Onboarding events saved"
  | .selectionNotSaved .. => "Failed to save onboarding events"
  | .noTaskId => "Onboarding task id is missing, skipping feedback"
  | .feedbackNotSent .. => "Error sending onboarding feedback"
  | .feedbackDropped _ => "Telemetry disabled, dropping feedback"
  | .nothingToBrowse _ => "No clustering to browse"
  | .clustersLoaded .. => "Loaded clusters"
  | .savingProject _ => "Saving project settings"
  | .addingEvents .. => "Adding events to project"
  | .clusteringsFetched .. => "Fetched clusterings"
  | .clustersFetched .. => "Fetched clusters"
  | .configLoaded => "Config loaded:"
  | .configSetting name value => "  " ++ name ++ ": " ++ value

def fields : LogEvent → List (String × LogField)
  | .templateLoaded n => [("event_name", .text n)]
  | .formInvalid n => [("count", .count n)]
  | .renameOverwrote n => [("event_name", .text n)]
  | .projectLoaded p n => [("project_id", .text p), ("events", .count n)]
  | .submitting p n r =>
    [("project_id", .text p), ("event_name", .text n), ("renamed_from", .text r)]
  | .projectSaved p => [("project_id", .text p)]
  | .projectNotSaved p e => [("project_id", .text p), ("error", .text e)]
  | .templateSelected t => [("template", .text t)]
  | .selectionSaved p n => [("project_id", .text p), ("count", .count n)]
  | .selectionNotSaved p e => [("project_id", .text p), ("error", .text e)]
  | .noTaskId => []
  | .feedbackNotSent t e => [("task_id", .text t), ("error", .text e)]
  | .feedbackDropped t => [("task_id", .text t)]
  | .nothingToBrowse p => [("project_id", .text p)]
  | .clustersLoaded p c n =>
    [("project_id", .text p), ("clustering", .text c), ("count", .count n)]
  | .savingProject p => [("project_id", .text p)]
  | .addingEvents p n => [("project_id", .text p), ("count", .count n)]
  | .clusteringsFetched p n => [("project_id", .text p), ("count", .count n)]
  | .clustersFetched p c n =>
    [("project_id", .text p), ("clustering_id", .text c), ("count", .count n)]
  | .configLoaded => []
  | .configSetting .. => []

end LogEvent

/-- A value with what was logged on the way to it. -/
structure Logged (α : Type) where
  value : α
  log : List LogEvent
deriving DecidableEq

namespace Logged

variable {α β : Type}

instance : Monad Logged where
  pure x := ⟨x, []⟩
  bind x f := ⟨(f x.value).value, x.log ++ (f x.value).log⟩

/-- Logs an event. -/
def event (e : LogEvent) : Logged Unit := ⟨(), [e]⟩

@[simp] theorem value_pure (x : α) : (pure x : Logged α).value = x := rfl
@[simp] theorem log_pure (x : α) : (pure x : Logged α).log = [] := rfl

@[simp] theorem value_bind (x : Logged α) (f : α → Logged β) :
    (x >>= f).value = (f x.value).value := rfl

@[simp] theorem log_bind (x : Logged α) (f : α → Logged β) :
    (x >>= f).log = x.log ++ (f x.value).log := rfl

end Logged

/-- A computation on a state of the outside, with a log: a store, a sink or a network. -/
abbrev Action (σ α : Type) : Type := StateT σ Logged α

/-- Logs an event and leaves the outside as it is. -/
def Action.event {σ : Type} (e : LogEvent) : Action σ Unit := fun s => ⟨((), s), [e]⟩

/-- **An action after an action** sees what the first one answers, and the outside as it leaves it. -/
theorem Action.value_bind {σ α β : Type} (a : Action σ α) (f : α → Action σ β) (s : σ) :
    ((a >>= f) s).value = (f (a s).value.1 (a s).value.2).value := rfl

/-- An action after an action logs what the first one logs, and then what itself does. -/
theorem Action.log_bind {σ α β : Type} (a : Action σ α) (f : α → Action σ β) (s : σ) :
    ((a >>= f) s).log = (a s).log ++ (f (a s).value.1 (a s).value.2).log := rfl

theorem Action.value_event {σ : Type} (e : LogEvent) (s : σ) :
    (Action.event e s).value = ((), s) := rfl

theorem Action.log_event {σ : Type} (e : LogEvent) (s : σ) : (Action.event e s).log = [e] := rfl

theorem Action.value_liftM {σ α : Type} (a : Logged α) (s : σ) :
    ((liftM a : Action σ α) s).value = (a.value, s) := rfl

theorem Action.log_liftM {σ α : Type} (a : Logged α) (s : σ) :
    ((liftM a : Action σ α) s).log = a.log := List.append_nil _

end EventDetection
