import EventDetection.Proofs.Form.Submission
import EventDetection.Session.MemoryStore

/-!
# Submissions in a session

A session plans a submission on the project that counts and saves what it results in.
Here this is said of any store.

* `Session.value_load`: the session that starts on a project, if the store has it.
* `Session.value_commit`: the answer, the session and the store after a save, from what the
  store answers (`Session.settle`).
* `Session.value_submit_ok`, `Session.value_submit_error`: **a submission saves what is
  planned, once, and nothing if no plan can be made.**
* `Session.of_submit_ok`: what a submission that succeeds has done.
* `MemoryStore.isOk_save`, `MemoryStore.save_accepted`: when a store in memory accepts a
  project, and that it holds the project then.
-/

namespace EventDetection

namespace MemoryStore

theorem value_save (m : MemoryStore) (p : Project) : (store.save p m).value = m.save p := rfl

theorem isOk_save (m : MemoryStore) (p : Project) :
    (m.save p).1.isOk = !m.rejects m.saveCount := by
  rw [save]
  cases m.rejects m.saveCount <;> rfl

theorem saveCount_save (m : MemoryStore) (p : Project) :
    (m.save p).2.saveCount = m.saveCount + 1 := by
  rw [save]
  split <;> exact List.length_append

theorem save_accepted {m : MemoryStore} (h : m.rejects m.saveCount = false) (p : Project) :
    (m.save p).1 = .ok () ∧ (m.save p).2.get? p.id = some p := by
  rw [save, if_neg (by rw [h]; exact Bool.false_ne_true)]
  exact ⟨rfl, Dict.get?_insert_self _ _ _⟩

end MemoryStore

namespace Session

variable {σ : Type}

theorem value_load (store : ProjectStore σ) (projectId : String) (rollback : Bool) (w : σ) :
    (Session.load store projectId rollback w).value =
      ((store.load projectId w).value.1.map fun project => { project, rollback },
        (store.load projectId w).value.2) := by
  rw [load, Action.value_bind]
  cases (store.load projectId w).value.1 <;> rfl

/-- The session after an attempt to save `next`. -/
def settle (s : Session) (next : Project) (saved : Except String Unit) : Session :=
  if saved.isOk || !s.rollback then { s with project := next } else s

theorem project_settle (s : Session) (next : Project) (saved : Except String Unit) :
    (s.settle next saved).project = if saved.isOk || !s.rollback then next else s.project :=
  apply_ite project _ _ _

theorem value_commit (s : Session) (store : ProjectStore σ) (next : Project) (w : σ) :
    (s.commit store next w).value =
      let saved := (store.save next w).value
      ((saved.1.mapError .notSaved, s.settle next saved.1), saved.2) := by
  rw [commit, Action.value_bind]
  rcases (store.save next w).value with ⟨saved, w'⟩
  cases saved with
  | ok u => rfl
  | error reason =>
    cases hr : s.rollback <;> simp only [settle, hr] <;> rfl

/-- A form that cannot be submitted does not reach the store. -/
theorem value_submit_error {s : Session} {f : Form} {p : Plan} {e : SetupError}
    (h : f.outcome s.project p = .error e) (store : ProjectStore σ) (w : σ) :
    (s.submit store f p w).value = ((.error e, s, f.checked), w) := by
  rw [submit, Action.value_bind, Action.value_liftM, Form.value_plan, h]
  rfl

/-- What is planned is saved, once. -/
theorem value_submit_ok {s : Session} {f : Form} {p : Plan} {sub : Submission}
    (h : f.outcome s.project p = .ok sub) (store : ProjectStore σ) (w : σ) :
    (s.submit store f p w).value =
      let saved := (store.save sub.next w).value
      (((saved.1.mapError .notSaved).map fun _ => sub.definition, s.settle sub.next saved.1,
        f.checked), saved.2) := by
  rw [submit, Action.value_bind, Action.value_liftM, Form.value_plan, h]
  dsimp only
  rw [Action.value_bind, Action.value_event, Action.value_bind, value_commit]
  rfl

/-- A submission that succeeds was planned, and what was planned counts. -/
theorem of_submit_ok {store : ProjectStore σ} {s s' : Session} {f f' : Form} {p : Plan} {w w' : σ}
    {d : Definition} (h : (s.submit store f p w).value = ((.ok d, s', f'), w')) :
    ∃ sub, f.outcome s.project p = .ok sub ∧ d = sub.definition ∧
      s'.project = sub.next ∧ f' = f.checked := by
  cases ho : f.outcome s.project p with
  | error e =>
    rw [value_submit_error ho] at h
    exact nomatch congrArg (fun r => r.1.1) h
  | ok sub =>
    rw [value_submit_ok ho] at h
    rcases hsave : store.save sub.next w with ⟨⟨saved, w''⟩, log⟩
    rw [hsave] at h
    cases saved with
    | ok u =>
      cases h
      exact ⟨sub, rfl, rfl, rfl, rfl⟩
    | error reason => exact nomatch congrArg (fun r => r.1.1) h

end Session

end EventDetection
