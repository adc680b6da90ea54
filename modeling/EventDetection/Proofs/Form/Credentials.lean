import EventDetection.Proofs.Dict
import EventDetection.Proofs.Form.Submission

/-!
# Forms without the credentials of webhooks

The credentials of a webhook are typed into a form and go into the headers of its definition.
Nothing else depends on them.  To say so, they are masked everywhere: a form in which they are
masked takes the same steps, and answers and logs the same but for the credentials in definitions.

* `Definition.masked`, `FormValues.masked`, `Project.masked`, `Form.masked`, `FormStep.masked`: the
  same without credentials.
* `Form.log_plan`: what a submission logs, read off its answer.
* `Form.outcome_masked`: a submission is answered alike.
* `Form.log_step_masked`, `Form.value_step_masked`: **a form without credentials takes every step in
  the same way.**
-/

namespace EventDetection

/-- The definition without the headers of its webhook. -/
def Definition.masked (d : Definition) : Definition := { d with webhookHeaders := none }

/-- The values without the credentials of the webhook. -/
def FormValues.masked (v : FormValues) : FormValues := { v with authorization := none }

def Settings.masked (s : Settings) : Settings := { s with events := s.events.map Definition.masked }

def Project.masked (p : Project) : Project := { p with settings := p.settings.map Settings.masked }

def Submission.masked (sub : Submission) : Submission where
  definition := sub.definition.masked
  next := sub.next.masked
  renamedFrom := sub.renamedFrom
  overwritten := sub.overwritten.map Definition.masked

def Form.masked (f : Form) : Form where
  values := f.values.masked
  violations := f.violations
  editing := f.editing.map Definition.masked

def FormStep.masked : FormStep → FormStep
  | .setValues v => .setValues v.masked
  | .loadTemplate t => .loadTemplate t.masked
  | .setScoreType t => .setScoreType t
  | .setCategories c => .setCategories c
  | .validate projectId orgId => .validate projectId orgId
  | .plan project p => .plan project.masked p

def FormReply.masked : FormReply → FormReply
  | .done => .done
  | .validated r => .validated (r.map Definition.masked)
  | .planned r => .planned (r.map Submission.masked)

/-! ### Values and projects -/

namespace FormValues

theorem violations_masked (v : FormValues) : v.masked.violations = v.violations := rfl

theorem definition_masked (v : FormValues) (projectId orgId : String) :
    v.masked.definition projectId orgId = (v.definition projectId orgId).masked := rfl

theorem validate_masked (v : FormValues) (projectId orgId : String) :
    v.masked.validate projectId orgId = (v.validate projectId orgId).map Definition.masked := by
  rw [validate_eq, validate_eq, violations_masked, definition_masked]
  split <;> rfl

end FormValues

theorem Settings.count_masked (s : Settings) : s.masked.count = s.count := Dict.size_map _ _

theorem Project.eventCount_masked (p : Project) : p.masked.eventCount = p.eventCount := by
  rw [eventCount, eventCount, masked]
  cases p.settings with
  | none => rfl
  | some s => exact s.count_masked

theorem Project.event?_masked (p : Project) (name : String) :
    p.masked.event? name = (p.event? name).map Definition.masked := by
  rw [event?, event?, masked]
  cases p.settings with
  | none => rfl
  | some s => exact Dict.get?_map _ _ _

theorem Settings.removeEvent_masked (s : Settings) (name : String) :
    s.masked.removeEvent name =
      ((s.removeEvent name).1.masked, (s.removeEvent name).2.map Definition.masked) := by
  simp only [removeEvent, masked, Dict.map_erase, Dict.get?_map]

theorem Settings.insertEvent_masked (s : Settings) (d : Definition) :
    s.masked.insertEvent d.masked =
      ((s.insertEvent d).1.masked, (s.insertEvent d).2.map Definition.masked) := by
  have hname : d.masked.name = d.name := rfl
  simp only [insertEvent, masked, Dict.map_insert, Dict.get?_map, hname]

namespace Form

/-! ### Filing -/

theorem checked_masked (f : Form) : f.masked.checked = f.checked.masked := rfl

theorem isEditing_masked (f : Form) : f.masked.isEditing = f.isEditing := by
  rw [isEditing, isEditing, masked]
  exact Option.isSome_map

theorem renamedFrom_masked (f : Form) (d : Definition) :
    f.masked.renamedFrom d.masked = f.renamedFrom d := by
  rw [renamedFrom, renamedFrom, masked]
  cases f.editing <;> rfl

theorem file_masked (f : Form) (d : Definition) (s : Settings) :
    f.masked.file d.masked s.masked =
      ((f.file d s).1.masked, (f.file d s).2.map Definition.masked) := by
  rw [file, file, renamedFrom_masked]
  cases f.renamedFrom d with
  | none => exact s.insertEvent_masked d
  | some name =>
    simp only [Settings.removeEvent_masked]
    exact (s.removeEvent name).1.insertEvent_masked d

/-! ### Submissions -/

theorem submission_masked (f : Form) (project : Project) (s : Settings) :
    f.masked.submission project.masked s.masked = (f.submission project s).masked := by
  have hdefinition : f.masked.values.definition project.masked.id project.masked.orgId =
      (f.values.definition project.id project.orgId).masked := rfl
  simp only [submission, hdefinition, file_masked, renamedFrom_masked]
  rfl

/-- **A submission is answered alike** without credentials. -/
theorem outcome_masked (f : Form) (project : Project) (p : Plan) :
    f.masked.outcome project.masked p = (f.outcome project p).map Submission.masked := by
  have hviolations : f.masked.values.violations = f.values.violations := rfl
  rw [outcome, outcome, hviolations, isEditing_masked]
  split
  · rw [Project.masked]
    cases hs : project.settings with
    | none => rfl
    | some s =>
      dsimp only [Option.map_some]
      rw [Settings.count_masked]
      split
      · rfl
      · have hproject : { project with settings := some s.masked } = project.masked := by
          rw [Project.masked, hs, Option.map_some]
        rw [hproject, submission_masked]
        rfl
  · rfl

/-- What a submission logs with its answer. -/
def planLog : Except SetupError Submission → List LogEvent
  | .error (.validation vs) => [.formInvalid vs.length]
  | .error _ => []
  | .ok sub =>
    if sub.renamedFrom.isSome && sub.overwritten.isSome then [.renameOverwrote sub.definition.name]
    else []

theorem log_validate (f : Form) (projectId orgId : String) :
    (f.validate projectId orgId).log =
      if f.values.violations = [] then [] else [.formInvalid f.values.violations.length] := by
  rw [validate, FormValues.validate_eq]
  by_cases hv : f.values.violations = []
  · simp only [hv, ↓reduceIte]
  · simp only [hv, ↓reduceIte]

/-- **What a submission logs can be read off its answer.** -/
theorem log_plan (f : Form) (project : Project) (p : Plan) :
    (f.plan project p).log = planLog (f.outcome project p) := by
  rw [plan, Logged.log_bind, value_validate, log_validate, FormValues.validate_eq, outcome]
  by_cases hv : f.values.violations = []
  · simp only [hv, ↓reduceIte, List.nil_append]
    cases project.settings with
    | none => rfl
    | some s =>
      have hediting : f.checked.isEditing = f.isEditing := rfl
      cases hfull : !f.isEditing && !p.hasRoom s.count with
      | true =>
        simp only [hediting, hfull, ↓reduceIte]
        rfl
      | false =>
        have hrenamed (d : Definition) : f.checked.renamedFrom d = f.renamedFrom d := rfl
        have hfile (d : Definition) : f.checked.file d s = f.file d s := rfl
        simp only [hediting, hfull, Bool.false_eq_true, ↓reduceIte, planLog, submission, hrenamed,
          hfile]
        split <;> rfl
  · simp only [hv, ↓reduceIte]
    rfl

theorem planLog_masked (r : Except SetupError Submission) :
    planLog (r.map Submission.masked) = planLog r := by
  cases r with
  | error e => cases e <;> rfl
  | ok sub =>
    have hoverwritten : sub.masked.overwritten.isSome = sub.overwritten.isSome := Option.isSome_map
    change planLog (.ok sub.masked) = _
    rw [planLog, planLog, hoverwritten]
    rfl

/-! ### Steps -/

/-- **A form without credentials logs the same** at every step. -/
theorem log_step_masked (f : Form) (s : FormStep) :
    (f.masked.step s.masked).log = (f.step s).log := by
  cases s with
  | validate projectId orgId =>
    simp only [FormStep.masked, step, Logged.log_bind, Logged.log_pure, log_validate]
    rfl
  | plan project p =>
    simp only [FormStep.masked, step, Logged.log_bind, Logged.log_pure, log_plan, outcome_masked,
      planLog_masked]
  | _ => rfl

/-- **A form without credentials answers the same** at every step, and is left the same, but for the
credentials. -/
theorem value_step_masked (f : Form) (s : FormStep) :
    (f.masked.step s.masked).value = ((f.step s).value.1.masked, (f.step s).value.2.masked) := by
  cases s with
  | validate projectId orgId =>
    rw [FormStep.masked, value_step_validate, value_step_validate, checked_masked]
    have hvalidate := f.values.validate_masked projectId orgId
    exact Prod.ext (congrArg FormReply.validated hvalidate) rfl
  | plan project p =>
    rw [FormStep.masked, value_step_plan, value_step_plan, checked_masked, outcome_masked]
    rfl
  | setScoreType t => cases t <;> rfl
  | _ => rfl

end Form

end EventDetection
