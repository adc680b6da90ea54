import EventDetection.Form.Basic

/-!
# Runs of a form

The changes of a form as data, so that a run of a form is a list of steps.
-/

namespace EventDetection

/-- Something that is done to a form. -/
inductive FormStep where
  | setValues (v : FormValues)
  | loadTemplate (t : Definition)
  | setScoreType (t : ScoreType)
  | setCategories (c : Categories)
  | validate (projectId orgId : String)
  | plan (project : Project) (p : Plan)

/-- What a step answers. -/
inductive FormReply where
  | done
  | validated (r : Except (List Violation) Definition)
  | planned (r : Except SetupError Submission)

namespace Form

/-- Takes one step. -/
def step (f : Form) : FormStep → Logged (FormReply × Form)
  | .setValues v => return (.done, { f with values := v })
  | .loadTemplate t => return (.done, ← f.loadTemplate t)
  | .setScoreType t => return (.done, f.setScoreType t)
  | .setCategories c => return (.done, f.setCategories c)
  | .validate p o => do
    let (r, f) ← f.validate p o
    return (.validated r, f)
  | .plan project p => do
    let (r, f) ← f.plan project p
    return (.planned r, f)

/-- Takes steps one after the other. -/
def run (f : Form) : List FormStep → Logged Form
  | [] => return f
  | s :: ss => do (← f.step s).2.run ss

end Form

end EventDetection
