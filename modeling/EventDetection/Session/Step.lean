import EventDetection.Form.Step
import EventDetection.Session.Desk

/-!
# Runs at a desk

The steps at a desk as data, so that a run is a list of steps.  A step that fails leaves
a reply behind and the run goes on.
-/

namespace EventDetection

/-- Something that is done at a desk. -/
inductive DeskStep where
  | create (t : Option ScoreType)
  | edit (name : String)
  | change (s : FormStep)
  | submit (p : Plan)
  | commit (next : Project)
  | restart (rejects : Nat → Bool) (rollback : Bool)

/-- What a step answers. -/
inductive DeskReply where
  | done
  | changed (r : FormReply)
  | submitted (d : Definition)
  | committed

namespace Desk

/-- Takes one step. -/
def step (d : Desk) : DeskStep → Logged (Except DeskError DeskReply × Desk)
  | .create t => return (.ok .done, d.create t)
  | .edit name =>
    match d.edit name with
    | .ok d => return (.ok .done, d)
    | .error e => return (.error e, d)
  | .change s => do
    let (r, d) ← d.onForm fun f => f.step s
    return (r.map .changed, d)
  | .submit p => do
    let (r, d) ← d.submit p
    return (r.map .submitted, d)
  | .commit next => do
    let (r, d) ← d.commit next
    return (r.map fun _ => .committed, d)
  | .restart rejects rollback => return (.ok .done, d.restart rejects rollback)

/-- Takes steps one after the other. -/
def run (d : Desk) : List DeskStep → Logged Desk
  | [] => return d
  | s :: ss => do (← d.step s).2.run ss

end Desk

end EventDetection
