import EventDetection.Proofs.Cli.Submit
import EventDetection.Proofs.Form.Constraints

/-!
# The verdict on form values

Form values can be checked from the command line, and submitted.  Both ask for the same
constraints, so that a file is found wrong by the one exactly if it is refused by the other.

* `Command.value_validate`: all that the check of a file does.
* `Command.Reaches`: a submission comes as far as its check.
* `Command.value_submit_of_violations`, `Command.submit_not_refused`: it is refused for its values
  exactly if they violate a constraint.
* `Command.verdict_iff_fits`: **the verdict on form values**, wherever it is asked for.
* `Command.verdict_iff_fits_hasty`: a file in which everything is wrong.
-/

namespace EventDetection.Cli.Command

open Http (Trace)

variable {v : FormValues} {w : World} {file project : String} {edit : Option String}
  {trace : Trace} {config : Config} {p : Project} {form : Form}

/-! ### The check of a file -/

/-- The report on form values of which some constraints are violated. -/
def checkedReport (v : FormValues) (vs : List Violation) : Report :=
  Report.withNotes
    (if vs = [] then .json (Definition.codec.write (v.definition "" ""))
      else .failure (.invalid vs))
    (scoreNote { Form.create none with values := v })

theorem exitCode_checkedReport (v : FormValues) (vs : List Violation) :
    (checkedReport v vs).exitCode = 0 ↔ vs = [] := by
  rw [checkedReport]
  split
  · next h => exact iff_of_true rfl h
  · next h => exact iff_of_false (exitCode_failure (.invalid vs)) h

/-- **All that the check of a file does** is to report, if the file is read as form values. -/
theorem value_validate (hvalues : w.formValues file = .ok v) (trace : Trace) :
    (run w (.validate file) trace).value = (checkedReport v v.violations, trace) := by
  rw [run, Part.value_report, runValidate, checkedReport]
  simp only [Part.value_bind, Part.value_ofExcept, Part.value_always, Form.value_validate, hvalues,
    FormValues.validate_eq]
  by_cases h : v.violations = []
  · simp only [h, ↓reduceIte]
    rfl
  · simp only [h, ↓reduceIte]
    rfl

/-! ### The check of a submission -/

/-- A submission comes as far as its check: there is a configuration, the project is loaded, and the
event that is to be edited is one of its events. -/
def Reaches (w : World) (project : String) (edit : Option String) (trace : Trace) (config : Config)
    (p : Project) (form : Form) : Prop :=
  w.config.value = .ok config ∧ (w.platform config).Loads w.network trace project p ∧
    Opens p edit form

theorem planned_of_reaches (h : Reaches w project edit trace config p form)
    (hvalues : w.formValues file = .ok v) :
    planned w project edit file trace =
      match { form with values := v }.outcome p config.plan with
      | .ok sub => .ok (config, p, sub)
      | .error e => .error (.setup e) := by
  obtain ⟨hconfig, hload, hopens⟩ := h
  unfold planned
  simp only [hconfig, Client.load_eq_ok_iff.2 hload, openForm_eq_ok_iff.2 hopens, hvalues,
    Json.ok_bind, Except.mapError, Form.value_plan]
  cases { form with values := v }.outcome p config.plan <;> rfl

/-- Values that violate a constraint are refused, and nothing is sent. -/
theorem value_submit_of_violations (h : Reaches w project edit trace config p form)
    (hvalues : w.formValues file = .ok v) (hv : v.violations ≠ []) :
    (run w (.submit project edit file) trace).value =
      (.failure (.setup (.validation v.violations)), trace ++ asking w project trace) := by
  have houtcome : { form with values := v }.outcome p config.plan =
      .error (.validation v.violations) :=
    Form.outcome_eq_validation_iff.2 ⟨hv, rfl⟩
  rw [value_submit, planned_of_reaches h hvalues, houtcome]

/-! ### Reports on a refusal -/

theorem err_failure_setup (e : SetupError) :
    (Report.failure (.setup e)).err = "Error: " ++ e.message ++ "\n" := by
  have herr : (Report.failure (.setup e)).err = "" ++ ("Error: " ++ e.message ++ "\n" ++ "") := rfl
  rw [herr, String.empty_append, String.append_empty]

/-- The message on violated constraints is the only one that starts with a `V`. -/
theorem head?_message_ne {e : SetupError} (he : ∀ vs, e ≠ .validation vs) :
    e.message.toList.head? ≠ some 'V' := by
  have hfirst {c : Char} {cs ds : List Char} (hc : c ≠ 'V') : (c :: cs ++ ds).head? ≠ some 'V' :=
    fun h => hc (Option.some.inj h)
  cases e with
  | validation vs => exact absurd rfl (he vs)
  | quotaReached limit =>
    show ("Event limit reached: this plan allows " ++ toString limit ++ " events").toList.head? ≠ _
    rw [String.toList_append, String.toList_append]
    exact hfirst (by decide)
  | noSettings id =>
    show ("Project " ++ id ++ " has no settings").toList.head? ≠ _
    rw [String.toList_append, String.toList_append]
    exact hfirst (by decide)
  | notSaved reason =>
    show ("Error when saving: " ++ reason).toList.head? ≠ _
    rw [String.toList_append]
    exact hfirst (by decide)
  | nothingToConfirm => decide

/-- A report tells whether a submission is refused for its values. -/
theorem failure_setup_ne {e : SetupError} (he : ∀ vs, e ≠ .validation vs) (vs : List Violation) :
    Report.failure (.setup e) ≠ .failure (.setup (.validation vs)) := by
  intro heq
  have herr := congrArg (fun r : Report => r.err.toList) heq
  simp only [err_failure_setup, String.toList_append, List.append_cancel_left_eq,
    List.append_cancel_right_eq] at herr
  refine head?_message_ne he ?_
  rw [herr]
  show ("Validation error: " ++ "; ".intercalate (vs.map Violation.text)).toList.head? = _
  rw [String.toList_append]
  rfl

/-- Values that fit are not refused, whatever else comes in between. -/
theorem submit_not_refused (h : Reaches w project edit trace config p form)
    (hvalues : w.formValues file = .ok v) (hv : v.violations = []) (vs : List Violation) :
    (run w (.submit project edit file) trace).value.1 ≠ .failure (.setup (.validation vs)) := by
  rw [value_submit, planned_of_reaches h hvalues]
  rcases houtcome : Form.outcome { form with values := v } p config.plan with e | sub
  · refine failure_setup_ne ?_ vs
    rintro us rfl
    exact (Form.outcome_eq_validation_iff.1 houtcome).1 hv
  · dsimp only
    generalize (((w.platform config).projectStore w.network).save sub.next
      (trace ++ asking w project trace)).value.1 = saved
    cases saved with
    | ok _ =>
      intro heq
      exact exitCode_failure _ (congrArg Report.exitCode heq).symm
    | error reason =>
      have hother : ∀ us, SetupError.notSaved reason ≠ .validation us := fun _ => nofun
      exact failure_setup_ne hother vs

/-! ### The verdict -/

/-- There is one list of what is wrong with form values.  It tells **every violated constraint once,
in the order of the fields**, and is empty if the values fit.  Whatever the ids, and whatever the
other fields are, it is what validation finds: without it, the answer is the definition.  A form
with these values is refused for it, on every project.  From the command line, the check of a file
with these values reports it and fails, and a submission of that file that comes as far as its check
is refused for it, with nothing sent; if it is empty, the one succeeds and the other is never refused
for its values. -/
theorem verdict_iff_fits (v : FormValues) :
    ∃ vs, v.Reports vs ∧ (vs = [] ↔ v.Fits) ∧
      (∀ v' : FormValues, v'.name = v.name → v'.description = v.description →
        v'.engine = v.engine → v'.score = v.score → ∀ i o,
          v'.validate i o = if vs = [] then .ok (v'.definition i o) else .error vs) ∧
      (∀ f : Form, f.values = v → ∀ q plan us,
        (f.plan q plan).value.1 = .error (.validation us) ↔ vs ≠ [] ∧ us = vs) ∧
      ((checkedReport v vs).exitCode = 0 ↔ vs = []) ∧
      ∀ w file, w.formValues file = .ok v →
        (∀ trace, (run w (.validate file) trace).value = (checkedReport v vs, trace)) ∧
        ∀ project edit trace config p form, Reaches w project edit trace config p form →
          (vs ≠ [] → (run w (.submit project edit file) trace).value =
            (.failure (.setup (.validation vs)), trace ++ asking w project trace)) ∧
          (vs = [] → ∀ us, (run w (.submit project edit file) trace).value.1 ≠
            .failure (.setup (.validation us))) := by
  refine ⟨v.violations, v.reports_violations, FormValues.violations_eq_nil_iff, ?_, ?_,
    exitCode_checkedReport v v.violations, ?_⟩
  · intro v' hname hdescription hengine hscore i o
    rw [FormValues.validate_eq, FormValues.violations_congr hname hdescription hengine hscore]
  · rintro f rfl q plan us
    rw [Form.value_plan]
    exact Form.outcome_eq_validation_iff
  · intro w file hvalues
    refine ⟨value_validate hvalues, fun project edit trace config p form hreach => ?_⟩
    exact ⟨value_submit_of_violations hreach hvalues, submit_not_refused hreach hvalues⟩

/-! ### A file in which everything is wrong -/

/-- Values that meet none of the constraints. -/
def hastyValues : FormValues where
  name := "A"
  description := "Prices"
  score := some ⟨.category, .text " , "⟩

/-- What is wrong with them. -/
def hastyViolations : List Violation :=
  [.nameTooShort, .descriptionTooShort, .score .categoryCount]

/-- A platform that answers everything with one project, and a file with these values. -/
def hastyWorld : World :=
  { bareWorld "p1" with
    files := fun path =>
      if path = "f.json" then .ok (FormValues.codec.text hastyValues) else .error .notFound }

theorem files_hastyWorld (path : String) :
    hastyWorld.files path =
      if path = "f.json" then .ok (FormValues.codec.text hastyValues) else .error .notFound := rfl

theorem formValues_hastyWorld : hastyWorld.formValues "f.json" = .ok hastyValues := by
  have hread : FormValues.codec.read (FormValues.codec.text hastyValues) = .ok hastyValues := by
    refine Json.eq_ok_of_toOption ?_
    rw [Json.Codec.read, Json.Codec.text, Json.Value.compact, String.toList_ofList]
    decide +kernel
  rw [World.formValues, files_hastyWorld, if_pos rfl]
  exact Json.bind_eq_ok_iff.2
    ⟨_, Json.mapError_eq_ok_iff.2 rfl, Json.mapError_eq_ok_iff.2 hread⟩

theorem config_hastyWorld : hastyWorld.config.value = .ok localConfig := by
  have hfile : hastyWorld.files envFile = (bareWorld "p1").files envFile := by
    rw [files_hastyWorld, files_bareWorld, if_neg (by decide), if_neg (by decide)]
  have henvironment : hastyWorld.fullEnvironment = (bareWorld "p1").fullEnvironment := by
    rw [World.fullEnvironment, hfile]
    rfl
  rw [← config_bareWorld "p1", World.config, henvironment]
  rfl

theorem reaches_hastyWorld :
    Reaches hastyWorld "p1" none [] localConfig (bareProject "p1") (.create none) := by
  obtain ⟨-, hload, -⟩ := plans_bareWorld "p1"
  have hplatform : hastyWorld.platform localConfig = localClient := rfl
  have hnetwork : hastyWorld.network = (bareWorld "p1").network := rfl
  rw [platform_bareWorld] at hload
  refine ⟨config_hastyWorld, ?_, rfl⟩
  rw [hplatform, hnetwork]
  exact hload

/-- The check of the file and its submission find the same three things. -/
theorem verdict_iff_fits_hasty :
    hastyWorld.formValues "f.json" = .ok hastyValues ∧
      Reaches hastyWorld "p1" none [] localConfig (bareProject "p1") (.create none) ∧
      (run hastyWorld (.validate "f.json") []).value.1 =
        checkedReport hastyValues hastyViolations ∧
      (run hastyWorld (.submit "p1" none "f.json") []).value.1 =
        .failure (.setup (.validation hastyViolations)) := by
  obtain ⟨vs, -, -, hvalidate, -, -, hrun⟩ := verdict_iff_fits hastyValues
  have herror : hastyValues.validate "" "" = .error hastyViolations := by decide +kernel
  have hvs : vs = hastyViolations := by
    have h := (hvalidate hastyValues rfl rfl rfl rfl "" "").symm.trans herror
    split at h
    · exact nomatch h
    · exact Except.error.inj h
  subst hvs
  obtain ⟨hcheck, hsubmit⟩ := hrun hastyWorld "f.json" formValues_hastyWorld
  obtain ⟨hrefused, -⟩ := hsubmit _ _ _ _ _ _ reaches_hastyWorld
  exact ⟨formValues_hastyWorld, reaches_hastyWorld, congrArg Prod.fst (hcheck []),
    congrArg Prod.fst (hrefused (by decide))⟩

end EventDetection.Cli.Command
