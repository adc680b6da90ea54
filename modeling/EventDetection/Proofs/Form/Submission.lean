import EventDetection.Form.Step

/-!
# Submissions

A submission checks the values, then whether the project has settings, then whether
it has room for a new event, and files the definition last.

* `FormValues.validate_eq_ok_iff`, `FormValues.validate_eq_error_iff`: when the check of the values
  finds nothing, and what it finds otherwise.
* `Form.value_plan`: what a submission answers (`Form.outcome`), and that all it does to
  the form is to record the violations (`Form.checked`).
* `Form.outcome_eq_ok_iff`: **when a submission goes through, and what it results in.**
* `Form.outcome_eq_error_iff`, `Form.outcome_eq_validation_iff`: for what it is refused.
* `Form.get?_file`, `Form.count_file`: the look-ups and the number of events after it.
* `Form.file_file_of_name`: what was filed under a name that is filed anew leaves no trace.
* `Form.run_preserves`: what every step of a run keeps, the run keeps.
* `Form.editing_run`: whatever is done to a form, it goes on to edit the same event.
-/

namespace EventDetection

attribute [ext] Settings

/-! ### Validation -/

@[simp] theorem FormValues.name_definition (v : FormValues) (projectId orgId : String) :
    (v.definition projectId orgId).name = v.name := rfl

theorem FormValues.validate_eq (v : FormValues) (projectId orgId : String) :
    v.validate projectId orgId =
      if v.violations = [] then .ok (v.definition projectId orgId) else .error v.violations := by
  unfold validate
  cases v.violations <;> rfl

/-- **Values are accepted** if they violate nothing, as the definition they describe. -/
theorem FormValues.validate_eq_ok_iff {v : FormValues} {projectId orgId : String}
    {d : Definition} :
    v.validate projectId orgId = .ok d ↔
      v.violations = [] ∧ d = v.definition projectId orgId := by
  rw [validate_eq]
  by_cases hv : v.violations = []
  · rw [if_pos hv, Except.ok.injEq, eq_comm]
    exact ⟨fun h => ⟨hv, h⟩, And.right⟩
  · rw [if_neg hv]
    exact iff_of_false nofun fun h => hv h.1

/-- **Values are refused** for all that they violate. -/
theorem FormValues.validate_eq_error_iff {v : FormValues} {projectId orgId : String}
    {vs : List Violation} :
    v.validate projectId orgId = .error vs ↔ v.violations = vs ∧ vs ≠ [] := by
  rw [validate_eq]
  by_cases hv : v.violations = []
  · rw [if_pos hv]
    exact iff_of_false nofun fun h => h.2 (h.1.symm.trans hv)
  · rw [if_neg hv, Except.error.injEq]
    exact ⟨fun h => ⟨h, h ▸ hv⟩, And.left⟩

namespace Form

/-- The form once its values were checked. -/
def checked (f : Form) : Form := { f with violations := f.values.violations }

@[simp] theorem editing_checked (f : Form) : f.checked.editing = f.editing := rfl

theorem value_validate (f : Form) (projectId orgId : String) :
    (f.validate projectId orgId).value = (f.values.validate projectId orgId, f.checked) := by
  rw [validate, FormValues.validate_eq, checked]
  by_cases h : f.values.violations = []
  · simp only [h, ↓reduceIte]
  · simp only [h, ↓reduceIte]

/-! ### Outcomes -/

/-- What a submission results in when nothing stands against it. -/
def submission (f : Form) (project : Project) (s : Settings) : Submission :=
  let d := f.values.definition project.id project.orgId
  { definition := d
    next := { project with settings := some (f.file d s).1 }
    renamedFrom := f.renamedFrom d
    overwritten := (f.file d s).2 }

/-- The answer to a submission. -/
def outcome (f : Form) (project : Project) (p : Plan) : Except SetupError Submission :=
  if f.values.violations = [] then
    match project.settings with
    | none => .error (.noSettings project.id)
    | some s =>
      if !f.isEditing && !p.hasRoom s.count then .error (.quotaReached p.quota)
      else .ok (f.submission project s)
  else .error (.validation f.values.violations)

theorem value_plan (f : Form) (project : Project) (p : Plan) :
    (f.plan project p).value = (f.outcome project p, f.checked) := by
  rw [plan, Logged.value_bind, value_validate, FormValues.validate_eq, outcome]
  by_cases hv : f.values.violations = []
  · simp only [hv, ↓reduceIte]
    cases project.settings with
    | none => rfl
    | some s =>
      have hediting : f.checked.isEditing = f.isEditing := rfl
      cases hfull : !f.isEditing && !p.hasRoom s.count with
      | true =>
        simp only [hediting, hfull, ↓reduceIte]
        rfl
      | false =>
        -- a renamed event that overwrites another one is logged, which changes no value
        simp only [hediting, hfull, Bool.false_eq_true, ↓reduceIte]
        split <;> rfl
  · simp only [hv, ↓reduceIte]
    rfl

/-- **A submission goes through** if the values fit and there are settings, with room in them
for a new event. -/
theorem outcome_eq_ok_iff {f : Form} {project : Project} {p : Plan} {sub : Submission} :
    f.outcome project p = .ok sub ↔
      f.values.violations = [] ∧ ∃ s, project.settings = some s ∧
        (f.editing = none → s.count < p.quota) ∧ sub = f.submission project s := by
  rw [outcome]
  by_cases hv : f.values.violations = []
  · rw [if_pos hv]
    cases hs : project.settings with
    | none => simp
    | some s =>
      have hroom : (!f.isEditing && !p.hasRoom s.count) = true ↔
          ¬ (f.editing = none → s.count < p.quota) := by
        cases hf : f.editing <;> simp [isEditing, Plan.hasRoom, hf]
      by_cases hfull : (!f.isEditing && !p.hasRoom s.count) = true
      · have hno := hroom.1 hfull
        simp only [if_pos hfull, reduceCtorEq, Option.some.injEq, exists_eq_left', false_iff]
        exact fun h => hno h.2.1
      · have hyes := Classical.not_not.1 (mt hroom.2 hfull)
        simp only [if_neg hfull, Option.some.injEq, exists_eq_left', hv, true_and]
        constructor
        · intro h
          exact ⟨hyes, (Except.ok.inj h).symm⟩
        · rintro ⟨-, rfl⟩
          rfl
  · simp [hv]

/-- **A submission is refused** for what the values violate, else for missing settings, else for a
new event that has no room in them. -/
theorem outcome_eq_error_iff {f : Form} {project : Project} {p : Plan} {e : SetupError} :
    f.outcome project p = .error e ↔
      (f.values.violations ≠ [] ∧ e = .validation f.values.violations) ∨
      (f.values.violations = [] ∧ project.settings = none ∧ e = .noSettings project.id) ∨
      (f.values.violations = [] ∧ (∃ s, project.settings = some s ∧ p.quota ≤ s.count) ∧
        f.editing = none ∧ e = .quotaReached p.quota) := by
  rw [outcome]
  by_cases hv : f.values.violations = []
  · cases hs : project.settings with
    | none => simp [hv, eq_comm]
    | some s =>
      cases hf : f.editing with
      | some d => simp [hv, hf, isEditing]
      | none =>
        by_cases hroom : s.count < p.quota
        · simp [hv, hf, isEditing, Plan.hasRoom, hroom, Nat.not_le.2 hroom]
        · simp [hv, hf, isEditing, Plan.hasRoom, hroom, Nat.not_lt.1 hroom, eq_comm]
  · simp [hv, eq_comm]

/-- **A submission is refused for its values** exactly if they violate a constraint. -/
theorem outcome_eq_validation_iff {f : Form} {project : Project} {p : Plan} {vs : List Violation} :
    f.outcome project p = .error (.validation vs) ↔
      f.values.violations ≠ [] ∧ vs = f.values.violations := by
  rw [outcome_eq_error_iff]
  constructor
  · rintro (⟨hbad, he⟩ | ⟨-, -, he⟩ | ⟨-, -, -, he⟩)
    · exact ⟨hbad, SetupError.validation.inj he⟩
    · exact nomatch he
    · exact nomatch he
  · rintro ⟨hbad, rfl⟩
    exact .inl ⟨hbad, rfl⟩

/-! ### Filing -/

theorem renamedFrom_eq_some_iff {f : Form} {d : Definition} {name : String} :
    f.renamedFrom d = some name ↔ ∃ e, f.editing = some e ∧ e.name = name ∧ name ≠ d.name := by
  rw [renamedFrom, Option.bind_eq_some_iff]
  constructor
  · rintro ⟨e, he, h⟩
    split at h
    · cases h
    · next hne => exact ⟨e, he, Option.some.inj h, Option.some.inj h ▸ hne⟩
  · rintro ⟨e, he, rfl, hne⟩
    exact ⟨e, he, if_neg hne⟩

theorem renamedFrom_ne {f : Form} {d : Definition} {name : String}
    (h : f.renamedFrom d = some name) : name ≠ d.name := by
  obtain ⟨e, -, -, hne⟩ := renamedFrom_eq_some_iff.1 h
  exact hne

/-- **Filing touches two names**: the one of the definition and the one that it had before. -/
theorem get?_file (f : Form) (d : Definition) (s : Settings) (name : String) :
    (f.file d s).1.events.get? name =
      if name = d.name then some d
      else if f.renamedFrom d = some name then none else s.events.get? name := by
  cases hr : f.renamedFrom d with
  | none => simp only [file, hr, Settings.insertEvent, Dict.get?_insert, reduceCtorEq, ↓reduceIte]
  | some old =>
    have hold : some old = some name ↔ name = old := by rw [Option.some.injEq, eq_comm]
    simp only [file, hr, Settings.insertEvent, Settings.removeEvent, Dict.get?_insert,
      Dict.get?_erase, hold]

theorem others_file (f : Form) (d : Definition) (s : Settings) :
    (f.file d s).1.others = s.others := by
  cases hr : f.renamedFrom d <;> simp only [file, hr, Settings.insertEvent, Settings.removeEvent]

/-- What was filed under the name that is filed anew, or under the one that is given up, leaves no
trace. -/
theorem file_file_of_name {f : Form} {c d : Definition}
    (h : c.name = d.name ∨ f.renamedFrom d = some c.name) (s : Settings) :
    (f.file d (f.file c s).1).1 = (f.file d s).1 := by
  have hevents : (f.file d (f.file c s).1).1.events = (f.file d s).1.events := by
    refine Dict.ext_get? fun name => ?_
    simp only [get?_file]
    by_cases hd : name = d.name
    · rw [if_pos hd, if_pos hd]
    by_cases hold : f.renamedFrom d = some name
    · simp only [if_neg hd, if_pos hold]
    have hc : name ≠ c.name := by
      rintro rfl
      exact h.elim hd hold
    have holdc : f.renamedFrom c ≠ some name := by
      intro hren
      obtain ⟨e, he, rfl, -⟩ := renamedFrom_eq_some_iff.1 hren
      exact hold (renamedFrom_eq_some_iff.2 ⟨e, he, rfl, hd⟩)
    simp only [if_neg hd, if_neg hold, if_neg hc, if_neg holdc]
  have hothers : (f.file d (f.file c s).1).1.others = (f.file d s).1.others := by
    rw [others_file, others_file, others_file]
  exact Settings.ext hevents hothers

/-- The number of events goes up by one for a name that was not filed, and down by one for a
filed name that is given up. -/
theorem count_file (f : Form) (d : Definition) (s : Settings) :
    (f.file d s).1.count +
        (if ((f.renamedFrom d).bind s.events.get?).isSome then 1 else 0) =
      s.count + if (s.events.get? d.name).isSome then 0 else 1 := by
  cases hr : f.renamedFrom d with
  | none =>
    simp only [file, hr, Settings.insertEvent, Settings.count, Dict.size_insert, Option.bind_none,
      Option.isSome_none, Bool.false_eq_true, ↓reduceIte, Nat.add_zero]
  | some old =>
    have hold := Dict.size_erase s.events old
    simp only [file, hr, Settings.insertEvent, Settings.removeEvent, Settings.count,
      Dict.size_insert, Dict.get?_erase_of_ne _ (renamedFrom_ne hr).symm, Option.bind_some]
    omega

/-- A new event adds one, unless its name is filed already. -/
theorem count_file_of_new {f : Form} (hf : f.editing = none) (d : Definition) (s : Settings) :
    (f.file d s).1.count = s.count + if (s.events.get? d.name).isSome then 0 else 1 := by
  have h := count_file f d s
  rw [renamedFrom, hf, Option.bind_none, Option.bind_none] at h
  exact h

theorem count_file_le (f : Form) (d : Definition) (s : Settings) :
    (f.file d s).1.count ≤ s.count + 1 := by
  have h := count_file f d s
  split at h <;> split at h <;> omega

/-- **An edit adds an event** exactly if neither the edited name nor the new one is filed. -/
theorem lt_count_file_iff {f : Form} {e : Definition} (hf : f.editing = some e) (d : Definition)
    (s : Settings) :
    s.count < (f.file d s).1.count ↔
      s.events.get? e.name = none ∧ s.events.get? d.name = none := by
  have h := count_file f d s
  by_cases hname : e.name = d.name
  · have hr : f.renamedFrom d = none := by
      simp only [renamedFrom, hf, Option.bind_some, if_pos hname]
    rw [hr, Option.bind_none] at h
    rw [hname, and_self]
    cases hd : s.events.get? d.name <;> simp [hd] at h ⊢ <;> omega
  · have hr : f.renamedFrom d = some e.name := renamedFrom_eq_some_iff.2 ⟨e, hf, rfl, hname⟩
    rw [hr, Option.bind_some] at h
    cases he : s.events.get? e.name <;> cases hd : s.events.get? d.name <;>
      simp [he, hd] at h ⊢ <;> omega

/-! ### Runs -/

theorem value_step_validate (f : Form) (projectId orgId : String) :
    (f.step (.validate projectId orgId)).value =
      (.validated (f.values.validate projectId orgId), f.checked) := by
  simp only [step, Logged.value_bind, value_validate, Logged.value_pure]

theorem value_step_plan (f : Form) (project : Project) (p : Plan) :
    (f.step (.plan project p)).value = (.planned (f.outcome project p), f.checked) := by
  simp only [step, Logged.value_bind, value_plan, Logged.value_pure]

theorem editing_step (f : Form) (s : FormStep) : (f.step s).value.2.editing = f.editing := by
  cases s with
  | validate p o => rw [value_step_validate, editing_checked]
  | plan project p => rw [value_step_plan, editing_checked]
  | _ => rfl

theorem value_run_append (f : Form) (ss ts : List FormStep) :
    (f.run (ss ++ ts)).value = ((f.run ss).value.run ts).value := by
  induction ss generalizing f with
  | nil => rfl
  | cons s ss ih => exact ih (f.step s).value.2

/-- What every step of a run keeps, the run keeps. -/
theorem run_preserves {P : Form → Prop} {ss : List FormStep}
    (h : ∀ s ∈ ss, ∀ f, P f → P (f.step s).value.2) {f : Form} (hf : P f) :
    P (f.run ss).value := by
  induction ss generalizing f with
  | nil => exact hf
  | cons s ss ih =>
    exact ih (fun t ht => h t (List.mem_cons_of_mem s ht)) (h s List.mem_cons_self f hf)

/-- Whatever is done to a form, it goes on to edit the same event. -/
theorem editing_run (f : Form) (ss : List FormStep) : (f.run ss).value.editing = f.editing :=
  run_preserves (P := fun g => g.editing = f.editing)
    (fun s _ g hg => (editing_step g s).trans hg) rfl

end Form

end EventDetection
