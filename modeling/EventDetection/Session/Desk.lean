import EventDetection.Session.MemoryStore

/-!
# A desk

A session over a store in memory, with the form that is open on it.  The form stays
open until another one is opened, also when it was submitted or the session starts
over.
-/

namespace EventDetection

/-- A session, the store behind it and the form that is open. -/
structure Desk where
  session : Session
  store : MemoryStore
  form : Option Form := none

/-- Why a step at a desk fails. -/
inductive DeskError where
  | noSuchEvent
  | noFormOpen
  | setup (e : SetupError)
deriving DecidableEq

def DeskError.message : DeskError → String
  | .noSuchEvent => "no such event"
  | .noFormOpen => "no form open"
  | .setup e => e.message

namespace Desk

/-- Loads a project. -/
def start (store : MemoryStore) (projectId : String) (rollback : Bool) :
    Logged (Except String Desk) := do
  let (loaded, store) ← Session.load MemoryStore.store projectId rollback store
  return loaded.map fun session => { session, store }

/-- Opens a form for a new event. -/
def create (d : Desk) (t : Option ScoreType) : Desk := { d with form := some (Form.create t) }

/-- Opens a form on the event that the project files under a name. -/
def edit (d : Desk) (name : String) : Except DeskError Desk :=
  match d.session.project.event? name with
  | some e => .ok { d with form := some (Form.edit e) }
  | none => .error .noSuchEvent

/-- Does something to the open form. -/
def onForm {α : Type} (d : Desk) (f : Form → Logged (α × Form)) :
    Logged (Except DeskError α × Desk) :=
  match d.form with
  | none => return (.error .noFormOpen, d)
  | some form => do
    let (x, form) ← f form
    return (.ok x, { d with form := some form })

/-- Submits the open form. -/
def submit (d : Desk) (p : Plan) : Logged (Except DeskError Definition × Desk) :=
  match d.form with
  | none => return (.error .noFormOpen, d)
  | some form => do
    let ((r, session, form), store) ← d.session.submit MemoryStore.store form p d.store
    return (r.mapError .setup, { session, store, form := some form })

/-- Saves a project that was changed otherwise. -/
def commit (d : Desk) (next : Project) : Logged (Except DeskError Unit × Desk) := do
  let ((r, session), store) ← d.session.commit MemoryStore.store next d.store
  return (r.mapError .setup, { d with session, store })

/-- The value that the store holds for the project. -/
def stored (d : Desk) : Option Project := d.store.get? d.session.project.id

/-- Starts over with the project as it is, and with a store that holds its stored value only. -/
def restart (d : Desk) (rejects : Nat → Bool) (rollback : Bool) : Desk :=
  let kept := match d.stored with
    | some p => MemoryStore.put {} p
    | none => {}
  { d with session := { d.session with rollback }, store := { kept with rejects } }

end Desk

end EventDetection
