import EventDetection.Log
import EventDetection.Plan
import EventDetection.Project
import EventDetection.SetupError

/-!
# The form of an event

A form holds values that are typed in, the violations that its last check found, and
the definition that it edits, if it is not for a new event.

* `Form.loadTemplate`: a template overwrites all values but those of the webhook.
* `Form.plan`: the project that a submission results in.  The project it starts from
  is left as it is; saving the result is the business of a session.
-/

namespace EventDetection

/-- The form of a new event or of one that is edited. -/
structure Form where
  values : FormValues
  violations : List Violation := []
  editing : Option Definition := none
deriving DecidableEq, Inhabited

/-- What a submission results in. -/
structure Submission where
  definition : Definition
  /-- the project with the definition filed in it -/
  next : Project
  /-- the name that the edited event had before it was renamed -/
  renamedFrom : Option String
  /-- the definition that was filed under the name before -/
  overwritten : Option Definition
deriving DecidableEq

namespace Form

/-- A form for a new event. -/
def create (scoreType : Option ScoreType) : Form where
  values := { score := some (.ofRange (.initial (scoreType.getD .confidence))) }

/-- A form that edits a definition. -/
def edit (d : Definition) : Form :=
  let values := FormValues.ofDefinition d
  { values := { values with score := some (values.score.getD (.ofRange .confidence)) }
    editing := some d }

def isEditing (f : Form) : Bool := f.editing.isSome

/-- The violations that a field shows. -/
def violationsOf (f : Form) (field : FormField) : List Violation :=
  f.violations.filter fun v => v.field = field

/-- The score range that the values give, to be shown beside them. -/
def derivedScore (f : Form) : Option (Except DerivationError ScoreRange) :=
  f.values.score.map ScoreInput.derive

/-! ### Changes -/

/-- Overwrites the form with a template. -/
def loadTemplate (f : Form) (t : Definition) : Logged Form :=
  ⟨{ f with values := f.values.withTemplate t, violations := [] }, [.templateLoaded t.name]⟩

/-- Changes the score type.  Labels are kept on the way to a category only. -/
def setScoreType (f : Form) (t : ScoreType) : Form :=
  let categories := match t with
    | .category => (f.values.score.getD {}).categories
    | .confidence | .range => .none
  { f with values := { f.values with score := some ⟨t, categories⟩ } }

/-- Changes the labels. -/
def setCategories (f : Form) (c : Categories) : Form :=
  let score : ScoreInput := { f.values.score.getD {} with categories := c }
  { f with values := { f.values with score := some score } }

/-- Validates the values and records what is violated. -/
def validate (f : Form) (projectId orgId : String) :
    Logged (Except (List Violation) Definition × Form) :=
  match f.values.validate projectId orgId with
  | .ok d => ⟨(.ok d, { f with violations := [] }), []⟩
  | .error vs => ⟨(.error vs, { f with violations := vs }), [.formInvalid vs.length]⟩

/-! ### Submission -/

/-- The name that the edited event loses, if the new definition has another one. -/
def renamedFrom (f : Form) (d : Definition) : Option String :=
  f.editing.bind fun e => if e.name = d.name then none else some e.name

/-- Files a definition in the settings.  The entry of a renamed event is removed first. -/
def file (f : Form) (d : Definition) (s : Settings) : Settings × Option Definition :=
  let s := match f.renamedFrom d with
    | some name => (s.removeEvent name).1
    | none => s
  s.insertEvent d

/-- The project that results from submitting the form, with the limit that the plan sets for
new events.  A renamed event may overwrite another one, which is reported. -/
def plan (f : Form) (project : Project) (p : Plan) :
    Logged (Except SetupError Submission × Form) := do
  let (checked, f) ← f.validate project.id project.orgId
  match checked with
  | .error vs => return (.error (.validation vs), f)
  | .ok d =>
    match project.settings with
    | none => return (.error (.noSettings project.id), f)
    | some s =>
      if !f.isEditing && !p.hasRoom s.count then return (.error (.quotaReached p.quota), f)
      else
        let renamedFrom := f.renamedFrom d
        let (s, overwritten) := f.file d s
        if renamedFrom.isSome && overwritten.isSome then Logged.event (.renameOverwrote d.name)
        return (.ok { definition := d, next := { project with settings := some s },
                      renamedFrom, overwritten }, f)

end Form

end EventDetection
