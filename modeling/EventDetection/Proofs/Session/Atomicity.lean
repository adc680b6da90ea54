import EventDetection.Proofs.Calls
import EventDetection.Proofs.Session.Submission

/-!
# A submission happens as a whole or not at all

A submission that is refused reaches neither the project nor the store.  One that is planned
calls the store once, to save what was planned.  Either way the form keeps what was typed in, and
its violations are those of the answer.

* `Session.value_submit_recorded`: the list of calls is kept without any other effect.
* `Session.submit_eq_error_iff`: every refusal is one of the plan, unless the save failed.
* `Session.submit_atomic`: **what a submission does**, for each of its answers.
-/

namespace EventDetection.Session

variable {σ : Type} {s : Session} {f : Form} {p : Plan}

/-- The calls that a submission makes once it is planned. -/
def callsOf : Except SetupError Submission → List StoreCall
  | .ok sub => [.save sub.next]
  | .error _ => []

/-- **The calls are noted and nothing else changes.** -/
theorem value_submit_recorded (store : ProjectStore σ) (s : Session) (f : Form) (p : Plan) (w : σ)
    (calls : List StoreCall) :
    (s.submit store.recorded f p (w, calls)).value =
      ((s.submit store f p w).value.1, (s.submit store f p w).value.2,
        calls ++ callsOf (f.outcome s.project p)) := by
  cases ho : f.outcome s.project p with
  | error e =>
    rw [value_submit_error ho, value_submit_error ho, callsOf, List.append_nil]
  | ok sub =>
    rw [value_submit_ok ho, value_submit_ok ho, callsOf]
    simp only [ProjectStore.recorded, Action.value_noting]

theorem form_submit (store : ProjectStore σ) (s : Session) (f : Form) (p : Plan) (w : σ) :
    (s.submit store f p w).value.1.2.2 = f.checked := by
  cases ho : f.outcome s.project p with
  | error e => rw [value_submit_error ho]
  | ok sub => rw [value_submit_ok ho]

/-- A submission that was planned is refused for its save only. -/
theorem submit_eq_error_iff {e : SetupError} (he : ∀ reason, e ≠ .notSaved reason)
    (store : ProjectStore σ) (w : σ) :
    (s.submit store f p w).value.1.1 = .error e ↔ f.outcome s.project p = .error e := by
  cases ho : f.outcome s.project p with
  | error e' =>
    rw [value_submit_error ho]
    dsimp only
    rw [Except.error.injEq, Except.error.injEq]
  | ok sub =>
    rw [value_submit_ok ho]
    dsimp only
    cases (store.save sub.next w).value.1 with
    | ok u => exact iff_of_false nofun nofun
    | error reason =>
      refine iff_of_false (fun h => he reason ?_) nofun
      exact (Except.error.inj h).symm

/-- What is refused for anything but its save leaves the session and the store as they are. -/
theorem unchanged_of_submit_eq_error {e : SetupError} (he : ∀ reason, e ≠ .notSaved reason)
    {store : ProjectStore σ} {w : σ} (h : (s.submit store f p w).value.1.1 = .error e) :
    (s.submit store f p w).value.1.2.1 = s ∧ (s.submit store f p w).value.2 = w := by
  rw [value_submit_error ((submit_eq_error_iff he store w).1 h)]
  exact ⟨rfl, rfl⟩

/-- The form shows what the answer says. -/
theorem violations_submit (store : ProjectStore σ) (s : Session) (f : Form) (p : Plan) (w : σ) :
    (s.submit store f p w).value.1.2.2.violations =
      match (s.submit store f p w).value.1.1 with
      | .ok _ => []
      | .error e => e.violations := by
  rw [form_submit, Form.checked]
  cases ho : f.outcome s.project p with
  | error e =>
    rw [value_submit_error ho]
    rcases Form.outcome_eq_error_iff.1 ho with ⟨-, rfl⟩ | ⟨hv, -, rfl⟩ | ⟨hv, -, -, rfl⟩
    · rfl
    · exact hv
    · exact hv
  | ok sub =>
    rw [value_submit_ok ho]
    obtain ⟨hv, -⟩ := Form.outcome_eq_ok_iff.1 ho
    dsimp only
    cases (store.save sub.next w).value.1 with
    | ok u => exact hv
    | error reason => exact hv

/-- **A submission is atomic**, whatever the store does: it makes one call, to save the planned
project, if it is planned, and none otherwise; a refusal other than that of the save leaves the
session and the store as they are; the form keeps its values and its event, and shows the
violations of the answer, none for any answer but a refusal for them; and it is refused for what
is violated before it is refused for missing settings, and for these before it is refused for the
limit of the plan. -/
theorem submit_atomic (store : ProjectStore σ) (s : Session) (f : Form) (p : Plan) (w : σ)
    (calls : List StoreCall) :
    ∃ answer s' f' w',
      (s.submit store f p w).value = ((answer, s', f'), w') ∧
      (s.submit store.recorded f p (w, calls)).value =
        ((answer, s', f'), w', calls ++ callsOf (f.plan s.project p).value.1) ∧
      (∀ e, answer = .error e → (∀ reason, e ≠ .notSaved reason) → s' = s ∧ w' = w) ∧
      f'.values = f.values ∧ f'.editing = f.editing ∧
      f'.violations = (match answer with
        | .ok _ => []
        | .error e => e.violations) ∧
      (∀ vs, answer = .error (.validation vs) ↔
        f.values.violations ≠ [] ∧ vs = f.values.violations) ∧
      (∀ id, answer = .error (.noSettings id) ↔
        f.values.violations = [] ∧ s.project.settings = none ∧ id = s.project.id) ∧
      (∀ limit, answer = .error (.quotaReached limit) ↔
        f.values.violations = [] ∧ (∃ t, s.project.settings = some t ∧ p.quota ≤ t.count) ∧
          f.editing = none ∧ limit = p.quota) := by
  have hrecorded := value_submit_recorded store s f p w calls
  have hform := form_submit store s f p w
  have hviolations := violations_submit store s f p w
  have hrefused (e : SetupError) (he : ∀ reason, e ≠ .notSaved reason) :
      (s.submit store f p w).value.1.1 = .error e ↔ f.outcome s.project p = .error e :=
    submit_eq_error_iff he store w
  have hunchanged (e : SetupError) (h : (s.submit store f p w).value.1.1 = .error e)
      (he : ∀ reason, e ≠ .notSaved reason) :
      (s.submit store f p w).value.1.2.1 = s ∧ (s.submit store f p w).value.2 = w :=
    unchanged_of_submit_eq_error he h
  generalize (s.submit store f p w).value = r at hrecorded hform hviolations hrefused hunchanged ⊢
  obtain ⟨⟨answer, s', f'⟩, w'⟩ := r
  obtain rfl : f' = f.checked := hform
  refine ⟨answer, s', f.checked, w', rfl, ?_, hunchanged, rfl, rfl, hviolations, ?_, ?_, ?_⟩
  · rw [hrecorded, Form.value_plan]
  · intro vs
    rw [hrefused (.validation vs) nofun, Form.outcome_eq_error_iff]
    simp
  · intro id
    rw [hrefused (.noSettings id) nofun, Form.outcome_eq_error_iff]
    simp
  · intro limit
    rw [hrefused (.quotaReached limit) nofun, Form.outcome_eq_error_iff]
    simp

end EventDetection.Session
