import EventDetection.Proofs.Form.Constraints
import Mathlib.Data.List.Nodup

/-!
# The violations that a form records

A form records what its last check found, and shows it while the values go on to change.  Only a
further check, a submission or a template takes the record's place.

* `FormStep.Renews`: a step after which another record stands.
* `FormReply.violations`: what an answer tells about the values.
* `Form.violations_step_of_renews`: **what is recorded is what was answered.**
* `Form.ShowsInOrder`: at most one violation for each field, in the order of the fields, which
  `Form.showsInOrder_step` keeps.
* `Form.recorded_after_steps`: **after any steps the record is the last answer**, and the three
  fields show all of it between them.
-/

namespace EventDetection

/-- The place of a field in the form. -/
def FormField.place : FormField → Nat
  | .name => 0
  | .description => 1
  | .categories => 2

/-- The values are checked, or are replaced by those of a template. -/
inductive FormStep.Renews : FormStep → Prop
  | loadTemplate (t : Definition) : Renews (.loadTemplate t)
  | validate (projectId orgId : String) : Renews (.validate projectId orgId)
  | plan (project : Project) (p : Plan) : Renews (.plan project p)

/-- The violations that an answer tells.  A submission that is refused for another reason tells
none. -/
def FormReply.violations : FormReply → List Violation
  | .validated (.error vs) => vs
  | .planned (.error (.validation vs)) => vs
  | _ => []

/-- A form as it is opened, for a new event or for one that is edited. -/
inductive Form.Opened : Form → Prop
  | create (t : Option ScoreType) : Opened (.create t)
  | edit (d : Definition) : Opened (.edit d)

/-! ### Fields in a fixed order -/

section Field

variable {α κ : Type} [DecidableEq κ] {key : α → κ} {keys : List κ} {xs : List α}

/-- Items under distinct keys are put together again from what stands under each key. -/
theorem flatMap_filter_of_sublist (hkeys : keys.Nodup) (h : (xs.map key).Sublist keys) :
    (keys.flatMap fun k => xs.filter (key · = k)) = xs := by
  induction keys generalizing xs with
  | nil => exact (List.map_eq_nil_iff.1 (List.sublist_nil.1 h)).symm
  | cons k keys ih =>
    obtain ⟨hk, htail⟩ := List.nodup_cons.1 hkeys
    rw [List.flatMap_cons]
    rcases List.sublist_cons_iff.1 h with hrest | ⟨ys, hys, hrest⟩
    · -- nothing stands under the first key
      have hnone : xs.filter (key · = k) = [] := by
        refine List.filter_eq_nil_iff.2 fun x hx => ?_
        rw [decide_eq_true_iff]
        rintro rfl
        exact hk (hrest.subset (List.mem_map_of_mem hx))
      rw [hnone, List.nil_append, ih htail hrest]
    · -- the first item does, and none of the others
      obtain ⟨x, xs, rfl, rfl, rfl⟩ := List.map_eq_cons_iff.1 hys
      have hnone : xs.filter (key · = key x) = [] := by
        refine List.filter_eq_nil_iff.2 fun y hy => ?_
        rw [decide_eq_true_iff]
        intro hyx
        exact hk (hyx ▸ hrest.subset (List.mem_map_of_mem hy))
      have hothers : (keys.flatMap fun k => (x :: xs).filter (key · = k)) =
          keys.flatMap fun k => xs.filter (key · = k) := by
        refine List.flatMap_congr fun k' hk' => ?_
        have hne : key x ≠ k' := fun hx => hk (hx ▸ hk')
        rw [List.filter_cons_of_neg (by simpa using hne)]
      rw [List.filter_cons_of_pos (by simp), hnone, hothers, ih htail hrest]
      rfl

theorem length_filter_le_one_of_sublist (hkeys : keys.Nodup) (h : (xs.map key).Sublist keys)
    (k : κ) : (xs.filter (key · = k)).length ≤ 1 := by
  have hcount : (xs.filter (key · = k)).length = (xs.map key).count k := by
    rw [List.count, List.countP_map, List.countP_eq_length_filter]
    rfl
  rw [hcount]
  exact Nat.le_trans (h.count_le k) (List.nodup_iff_count_le_one.1 hkeys k)

end Field

namespace Form

variable {f : Form}

theorem Opened.violations_eq_nil (h : f.Opened) : f.violations = [] := by
  cases h <;> rfl

/-- The recorded violations stand in the order of their fields, at most one for each. -/
def ShowsInOrder (f : Form) : Prop :=
  (f.violations.map Violation.field).Sublist [.name, .description, .categories]

theorem ShowsInOrder.pairwise (h : f.ShowsInOrder) :
    f.violations.Pairwise fun x y => x.field.place < y.field.place := by
  have hall : [FormField.name, .description, .categories].Pairwise
      fun a b => a.place < b.place := by decide
  have hfields : (f.violations.map Violation.field).Pairwise fun a b => a.place < b.place :=
    hall.sublist h
  rwa [List.pairwise_map] at hfields

theorem ShowsInOrder.length_violationsOf_le_one (h : f.ShowsInOrder) (field : FormField) :
    (f.violationsOf field).length ≤ 1 :=
  length_filter_le_one_of_sublist (by decide) h field

theorem ShowsInOrder.flatMap_violationsOf (h : f.ShowsInOrder) :
    [.name, .description, .categories].flatMap f.violationsOf = f.violations :=
  flatMap_filter_of_sublist (by decide) h

/-! ### One step -/

theorem violations_validated (v : FormValues) (i o : String) :
    (FormReply.validated (v.validate i o)).violations = v.violations := by
  rw [FormValues.validate_eq]
  split
  · next hgood => exact hgood.symm
  · rfl

theorem violations_planned (f : Form) (project : Project) (p : Plan) :
    (FormReply.planned (f.outcome project p)).violations = f.values.violations := by
  cases houtcome : f.outcome project p with
  | ok sub => exact (outcome_eq_ok_iff.1 houtcome).1.symm
  | error e =>
    rcases outcome_eq_error_iff.1 houtcome with ⟨-, rfl⟩ | ⟨hgood, -, rfl⟩ | ⟨hgood, -, -, rfl⟩
    · rfl
    · exact hgood.symm
    · exact hgood.symm

/-- **What is recorded is what was answered.** -/
theorem violations_step_of_renews (f : Form) {x : FormStep} (h : x.Renews) :
    (f.step x).value.2.violations = (f.step x).value.1.violations := by
  cases h with
  | loadTemplate t => rfl
  | validate i o =>
    rw [value_step_validate, violations_validated]
    rfl
  | plan project p =>
    rw [value_step_plan, violations_planned]
    rfl

theorem violations_step_of_not_renews (f : Form) {x : FormStep} (h : ¬ x.Renews) :
    (f.step x).value.2.violations = f.violations := by
  cases x with
  | loadTemplate t => exact absurd (.loadTemplate t) h
  | validate i o => exact absurd (.validate i o) h
  | plan project p => exact absurd (.plan project p) h
  | _ => rfl

/-- Whatever is found stands in the order of the fields. -/
theorem showsInOrder_checked (f : Form) : f.checked.ShowsInOrder :=
  (FormValues.reports_violations f.values).inOrder

theorem showsInOrder_step {x : FormStep} (h : f.ShowsInOrder) :
    (f.step x).value.2.ShowsInOrder := by
  cases x with
  | loadTemplate t => exact List.nil_sublist _
  | validate i o =>
    rw [value_step_validate]
    exact showsInOrder_checked f
  | plan project p =>
    rw [value_step_plan]
    exact showsInOrder_checked f
  | _ => exact h

/-! ### Runs -/

theorem violations_run_of_not_renews (f : Form) {ss : List FormStep}
    (h : ∀ x ∈ ss, ¬ x.Renews) : (f.run ss).value.violations = f.violations :=
  run_preserves (P := fun g => g.violations = f.violations)
    (fun x hx g hg => (violations_step_of_not_renews g (h x hx)).trans hg) rfl

/-- A form is opened, and then changed, filled from templates, validated and submitted in any order.
**What it records is what the last validation or submission found**, whatever changed since.  It
records nothing if that one found nothing wrong with the values, though it may have been refused
for something else, if a template was loaded since, or if there was none.  The recorded violations
stand in the order of the fields, so that each field shows at most one, and the fields show all of
them between them. -/
theorem recorded_after_steps (hf : f.Opened) (ss : List FormStep) :
    (∀ before x after, ss = before ++ x :: after → x.Renews → (∀ y ∈ after, ¬ y.Renews) →
      (f.run ss).value.violations = ((f.run before).value.step x).value.1.violations) ∧
    ((∀ x ∈ ss, ¬ x.Renews) → (f.run ss).value.violations = []) ∧
    ((f.run ss).value.violations.Pairwise fun x y => x.field.place < y.field.place) ∧
    (∀ field, ((f.run ss).value.violationsOf field).length ≤ 1) ∧
    [.name, .description, .categories].flatMap (f.run ss).value.violationsOf =
      (f.run ss).value.violations := by
  have hopened : f.ShowsInOrder := by
    rw [ShowsInOrder, hf.violations_eq_nil]
    exact List.nil_sublist _
  have horder : (f.run ss).value.ShowsInOrder :=
    run_preserves (fun _ _ _ hg => showsInOrder_step hg) hopened
  refine ⟨?_, ?_, horder.pairwise, horder.length_violationsOf_le_one,
    horder.flatMap_violationsOf⟩
  · rintro before x after rfl hx hafter
    rw [value_run_append, run, Logged.value_bind, violations_run_of_not_renews _ hafter,
      violations_step_of_renews _ hx]
  · intro hnone
    rw [violations_run_of_not_renews f hnone, hf.violations_eq_nil]

/-! ### Values that are mended too late -/

/-- The values of a new form are checked before they are typed in. -/
def checkedTooEarly : List FormStep :=
  [.validate "p1" "o1",
    .setValues { name := "Refund", description := "The user asks about a refund." }]

/-- Then they are submitted to a project without settings. -/
def submittedNowhere : FormStep := .plan { id := "p1", orgId := "o1" } .hobby

/-- The form goes on to show that both texts are too short when they no longer are.  It stops when
the values are submitted, though there are no settings to file them in. -/
theorem recorded_after_steps_late :
    (create none).Opened ∧
      ((create none).run checkedTooEarly).value.violations =
        [.nameTooShort, .descriptionTooShort] ∧
      ((create none).run checkedTooEarly).value.values.violations = [] ∧
      ((create none).run (checkedTooEarly ++ [submittedNowhere])).value.violations = [] := by
  have hopened : (create none).Opened := .create none
  have hlate : ∀ y ∈ checkedTooEarly.drop 1, ¬ y.Renews := by
    intro y hy
    obtain rfl := List.mem_singleton.1 hy
    exact nofun
  refine ⟨hopened, ?_, by decide +kernel, ?_⟩
  · exact (recorded_after_steps hopened checkedTooEarly).1 [] _ _ rfl (.validate _ _) hlate
  · have hlast := (recorded_after_steps hopened _).1 checkedTooEarly submittedNowhere [] rfl
      (.plan _ _) fun _ hy => absurd hy List.not_mem_nil
    rw [hlast]
    decide +kernel

end Form

end EventDetection
