import EventDetection.Form.Step

/-!
# Sessions

A session holds the project that is worked on and saves it to a store.  An update is
computed first and saved then.  When the store rejects it, the session keeps the
update all the same, unless it is told to roll back.
-/

namespace EventDetection

/-- Where projects are loaded from and saved to.  A failure is a reason. -/
structure ProjectStore (σ : Type) where
  load : (projectId : String) → Action σ (Except String Project)
  save : Project → Action σ (Except String Unit)

/-- A project that is worked on. -/
structure Session where
  /-- the value that counts -/
  project : Project
  /-- whether an update that is not saved is undone -/
  rollback : Bool := false
deriving DecidableEq

namespace Session

variable {σ : Type}

/-- Starts a session on a stored project. -/
def load (store : ProjectStore σ) (projectId : String) (rollback : Bool) :
    Action σ (Except String Session) := do
  match ← store.load projectId with
  | .error reason => return .error reason
  | .ok project =>
    Action.event (.projectLoaded projectId project.eventCount)
    return .ok { project, rollback }

/-- Saves `next`, which then counts; if it is not saved, it counts unless it is rolled back. -/
def commit (s : Session) (store : ProjectStore σ) (next : Project) :
    Action σ (Except SetupError Unit × Session) := do
  match ← store.save next with
  | .ok () =>
    Action.event (.projectSaved next.id)
    return (.ok (), { s with project := next })
  | .error reason =>
    Action.event (.projectNotSaved next.id reason)
    return (.error (.notSaved reason), if s.rollback then s else { s with project := next })

/-- Plans the submission of a form and saves what it results in.  A form that cannot be
submitted does not reach the store. -/
def submit (s : Session) (store : ProjectStore σ) (form : Form) (p : Plan) :
    Action σ (Except SetupError Definition × Session × Form) := do
  let (planned, form) ← liftM (form.plan s.project p)
  match planned with
  | .error e => return (.error e, s, form)
  | .ok submission =>
    Action.event (.submitting s.project.id submission.definition.name
      (submission.renamedFrom.getD ""))
    let (saved, s) ← s.commit store submission.next
    return (saved.map fun _ => submission.definition, s, form)

end Session

end EventDetection
