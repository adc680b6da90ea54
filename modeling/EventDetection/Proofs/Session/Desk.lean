import EventDetection.Proofs.Session.Submission
import EventDetection.Session.Step

/-!
# Steps at a desk

What one step leaves behind, and that runs can be taken apart.

* `Desk.next`: the desk after a step.
* `Desk.value_step_submit_ok`, `Desk.value_step_submit_error`: a submission settles what was
  planned, or changes nothing but the recorded violations.
* `Desk.project_next_submit_ok`: the planned project counts if its save is accepted, or if
  there is no rollback (`Desk.keepsUpdate`).
* `Desk.value_run_append`: a run after a run.
-/

namespace EventDetection

namespace Desk

/-- The desk after a step. -/
def next (d : Desk) (s : DeskStep) : Desk := (d.step s).value.2

/-- Whether the next update counts, saved or not. -/
def keepsUpdate (d : Desk) : Bool := !d.store.rejects d.store.saveCount || !d.session.rollback

/-- What a step answers that has asked the store to save. -/
def answer (saved : Except String Unit) (r : DeskReply) : Except DeskError DeskReply :=
  match saved with
  | .ok () => .ok r
  | .error reason => .error (.setup (.notSaved reason))

/-! ### One step -/

variable {d : Desk} {f : Form} {p : Plan}

theorem next_submit_none (hf : d.form = none) : d.next (.submit p) = d := by
  simp only [next, step, submit, hf, Logged.value_bind, Logged.value_pure]

theorem value_step_submit_error {e : SetupError} (hf : d.form = some f)
    (h : f.outcome d.session.project p = .error e) :
    (d.step (.submit p)).value = (.error (.setup e), { d with form := some f.checked }) := by
  simp only [step, submit, hf, Logged.value_bind, Logged.value_pure,
    Session.value_submit_error h]
  rfl

theorem value_step_submit_ok {sub : Submission} (hf : d.form = some f)
    (h : f.outcome d.session.project p = .ok sub) :
    (d.step (.submit p)).value =
      (answer (d.store.save sub.next).1 (.submitted sub.definition),
        { session := d.session.settle sub.next (d.store.save sub.next).1
          store := (d.store.save sub.next).2
          form := some f.checked }) := by
  simp only [step, submit, hf, Logged.value_bind, Logged.value_pure,
    Session.value_submit_ok h, MemoryStore.value_save]
  rcases d.store.save sub.next with ⟨saved, store⟩
  cases saved <;> rfl

theorem value_step_commit (d : Desk) (q : Project) :
    (d.step (.commit q)).value =
      (answer (d.store.save q).1 .committed,
        { d with session := d.session.settle q (d.store.save q).1, store := (d.store.save q).2 }) := by
  simp only [step, commit, Logged.value_bind, Logged.value_pure, Session.value_commit,
    MemoryStore.value_save]
  rcases d.store.save q with ⟨saved, store⟩
  cases saved <;> rfl

theorem next_submit_error {e : SetupError} (hf : d.form = some f)
    (h : f.outcome d.session.project p = .error e) :
    d.next (.submit p) = { d with form := some f.checked } :=
  congrArg Prod.snd (value_step_submit_error hf h)

theorem next_submit_ok {sub : Submission} (hf : d.form = some f)
    (h : f.outcome d.session.project p = .ok sub) :
    d.next (.submit p) =
      { session := d.session.settle sub.next (d.store.save sub.next).1
        store := (d.store.save sub.next).2
        form := some f.checked } :=
  congrArg Prod.snd (value_step_submit_ok hf h)

theorem project_next_submit_ok {sub : Submission} (hf : d.form = some f)
    (h : f.outcome d.session.project p = .ok sub) :
    (d.next (.submit p)).session.project =
      if d.keepsUpdate then sub.next else d.session.project := by
  rw [next_submit_ok hf h, keepsUpdate, ← MemoryStore.isOk_save d.store sub.next]
  exact Session.project_settle _ _ _

/-- Only submissions and commits change the project. -/
theorem project_next (d : Desk) {s : DeskStep} (hsubmit : ∀ p, s ≠ .submit p)
    (hcommit : ∀ q, s ≠ .commit q) : (d.next s).session.project = d.session.project := by
  cases s with
  | create t => rfl
  | edit name =>
    simp only [next, step, edit]
    cases d.session.project.event? name <;> rfl
  | change s =>
    simp only [next, step, onForm]
    cases d.form <;> rfl
  | submit p => exact absurd rfl (hsubmit p)
  | commit q => exact absurd rfl (hcommit q)
  | restart rejects rollback => rfl

/-! ### Runs -/

theorem value_run_cons (d : Desk) (s : DeskStep) (ss : List DeskStep) :
    (d.run (s :: ss)).value = ((d.next s).run ss).value := rfl

theorem value_run_append (d : Desk) (ss ts : List DeskStep) :
    (d.run (ss ++ ts)).value = ((d.run ss).value.run ts).value := by
  induction ss generalizing d with
  | nil => rfl
  | cons s ss ih =>
    rw [List.cons_append, value_run_cons, value_run_cons]
    exact ih (d.next s)

end Desk

end EventDetection
