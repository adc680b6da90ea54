import EventDetection.Proofs.Form.Credentials
import EventDetection.Proofs.Session.Desk
import EventDetection.Session.Sample

/-!
# Credentials stay out of logs and errors

What is done at a desk is logged, and a step may fail.  Neither shows the credentials of a webhook,
whether they were typed in, came with a template or were stored: a desk at which they are masked
logs the same and fails in the same way.

* `Desk.masked`, `DeskStep.masked`: the same without credentials.
* `Desk.log_step_submit_ok`, `Desk.log_step_commit`: what a submission and a commit log.
* `Desk.step_masked`: **one step at a desk without credentials.**
* `Desk.shown_masked`: what a whole run shows is the same without credentials.
* `Desk.credentials_hidden`: so two runs that differ in credentials only show the same.
-/

namespace EventDetection

def MemoryStore.masked (m : MemoryStore) : MemoryStore where
  projects := m.projects.map Project.masked
  attempts := m.attempts.map Project.masked
  rejects := m.rejects

def Session.masked (s : Session) : Session := { s with project := s.project.masked }

/-- The desk without credentials, in the project, in the store and in the open form. -/
def Desk.masked (d : Desk) : Desk where
  session := d.session.masked
  store := d.store.masked
  form := d.form.map Form.masked

def DeskStep.masked : DeskStep → DeskStep
  | .create t => .create t
  | .edit name => .edit name
  | .change s => .change s.masked
  | .submit p => .submit p
  | .commit next => .commit next.masked
  | .restart rejects rollback => .restart rejects rollback

def DeskReply.masked : DeskReply → DeskReply
  | .done => .done
  | .changed r => .changed r.masked
  | .submitted d => .submitted d.masked
  | .committed => .committed

/-! ### Stores and sessions -/

namespace MemoryStore

theorem put_masked (m : MemoryStore) (p : Project) :
    m.masked.put p.masked = (m.put p).masked := by
  have hid : p.masked.id = p.id := rfl
  rw [put, put, masked, masked, Dict.map_insert, hid]

theorem get?_masked (m : MemoryStore) (id : String) :
    m.masked.get? id = (m.get? id).map Project.masked := Dict.get?_map _ _ _

theorem load_masked (m : MemoryStore) (id : String) :
    m.masked.load id = (m.load id).map Project.masked := by
  rw [load, load, get?_masked]
  cases m.get? id <;> rfl

theorem log_save (m : MemoryStore) (p : Project) : (store.save p m).log = [] := rfl

theorem saveCount_masked (m : MemoryStore) : m.masked.saveCount = m.saveCount := List.length_map _

theorem save_masked (m : MemoryStore) (p : Project) :
    m.masked.save p.masked = ((m.save p).1, (m.save p).2.masked) := by
  let tried : MemoryStore := { m with attempts := m.attempts ++ [p] }
  have hreject : m.masked.rejects m.masked.saveCount = m.rejects m.saveCount := by
    rw [saveCount_masked]
    rfl
  have htried : { m.masked with attempts := m.masked.attempts ++ [p.masked] } = tried.masked := by
    simp only [tried, masked, List.map_append, List.map_cons, List.map_nil]
  unfold save
  dsimp only at htried ⊢
  rw [hreject, htried, put_masked]
  split <;> rfl

end MemoryStore

theorem Session.settle_masked (s : Session) (next : Project) (saved : Except String Unit) :
    s.masked.settle next.masked saved = (s.settle next saved).masked := by
  have hrollback : s.masked.rollback = s.rollback := rfl
  rw [settle, settle, hrollback]
  split <;> rfl

/-- What a session logs of an attempt to save. -/
def Session.savedLog (projectId : String) : Except String Unit → List LogEvent
  | .ok () => [.projectSaved projectId]
  | .error reason => [.projectNotSaved projectId reason]

theorem Session.log_load (m : MemoryStore) (id : String) (rollback : Bool) :
    (Session.load MemoryStore.store id rollback m).log =
      match m.load id with
      | .ok p => [.projectLoaded id p.eventCount]
      | .error _ => [] := by
  have hload : (MemoryStore.store.load id m).value = (m.load id, m) := rfl
  have hquiet : (MemoryStore.store.load id m).log = [] := rfl
  rw [load, Action.log_bind, hload, hquiet, List.nil_append]
  cases m.load id <;> rfl

section Session

variable {s : Session} {f : Form} {p : Plan}

theorem Session.log_commit (s : Session) (next : Project) (m : MemoryStore) :
    (s.commit MemoryStore.store next m).log = savedLog next.id (m.save next).1 := by
  rw [commit, Action.log_bind, MemoryStore.value_save, MemoryStore.log_save, List.nil_append]
  rcases m.save next with ⟨saved, w⟩
  cases saved <;> rfl

theorem Session.log_submit_error {e : SetupError} (h : f.outcome s.project p = .error e)
    (m : MemoryStore) : (s.submit MemoryStore.store f p m).log = Form.planLog (.error e) := by
  rw [submit, Action.log_bind, Action.log_liftM, Action.value_liftM, Form.value_plan, Form.log_plan,
    h]
  exact List.append_nil _

theorem Session.log_submit_ok {sub : Submission} (h : f.outcome s.project p = .ok sub)
    (m : MemoryStore) :
    (s.submit MemoryStore.store f p m).log =
      Form.planLog (.ok sub) ++
        .submitting s.project.id sub.definition.name (sub.renamedFrom.getD "") ::
          savedLog sub.next.id (m.save sub.next).1 := by
  rw [submit, Action.log_bind, Action.log_liftM, Action.value_liftM, Form.value_plan, Form.log_plan,
    h]
  dsimp only
  rw [Action.log_bind, Action.log_event, Action.value_event, Action.log_bind, log_commit]
  refine congrArg _ (congrArg _ ?_)
  exact List.append_nil _

end Session

namespace Desk

variable {d : Desk} {f : Form} {p : Plan}

/-! ### What is logged -/

theorem log_step_submit_none (hf : d.form = none) : (d.step (.submit p)).log = [] := by
  simp only [step, submit, hf, Logged.log_bind, Logged.log_pure, List.append_nil]

theorem log_step_submit_error {e : SetupError} (hf : d.form = some f)
    (h : f.outcome d.session.project p = .error e) :
    (d.step (.submit p)).log = Form.planLog (.error e) := by
  simp only [step, submit, hf, Logged.log_bind, Logged.log_pure, Session.log_submit_error h,
    List.append_nil]

theorem log_step_submit_ok {sub : Submission} (hf : d.form = some f)
    (h : f.outcome d.session.project p = .ok sub) :
    (d.step (.submit p)).log =
      Form.planLog (.ok sub) ++
        .submitting d.session.project.id sub.definition.name (sub.renamedFrom.getD "") ::
          Session.savedLog sub.next.id (d.store.save sub.next).1 := by
  simp only [step, submit, hf, Logged.log_bind, Logged.log_pure, Session.log_submit_ok h,
    List.append_nil]

theorem log_step_commit (d : Desk) (q : Project) :
    (d.step (.commit q)).log = Session.savedLog q.id (d.store.save q).1 := by
  simp only [step, commit, Logged.log_bind, Logged.log_pure, Session.log_commit, List.append_nil]

/-! ### One step -/

theorem answer_masked (saved : Except String Unit) (r : DeskReply) :
    answer saved r.masked = (answer saved r).map DeskReply.masked := by
  cases saved <;> rfl

theorem restart_masked (d : Desk) (rejects : Nat → Bool) (rollback : Bool) :
    d.masked.restart rejects rollback = (d.restart rejects rollback).masked := by
  have hstored : d.masked.stored = d.stored.map Project.masked := d.store.get?_masked _
  rw [restart, restart, hstored]
  cases d.stored with
  | none => rfl
  | some p =>
    have hput : MemoryStore.put {} p.masked = (MemoryStore.put {} p).masked :=
      MemoryStore.put_masked {} p
    dsimp only [Option.map_some]
    rw [hput]
    rfl

/-- **A step at a desk without credentials** logs the same, answers the same and leaves the same
desk, but for the credentials. -/
theorem step_masked (d : Desk) (s : DeskStep) :
    (d.masked.step s.masked).log = (d.step s).log ∧
      (d.masked.step s.masked).value =
        ((d.step s).value.1.map DeskReply.masked, (d.step s).value.2.masked) := by
  cases s with
  | create t => exact ⟨rfl, rfl⟩
  | edit name =>
    have hevent : d.masked.session.project.event? name =
        (d.session.project.event? name).map Definition.masked :=
      d.session.project.event?_masked name
    rw [DeskStep.masked, step, step, edit, edit, hevent]
    cases d.session.project.event? name with
    | none => exact ⟨rfl, rfl⟩
    | some e => exact ⟨rfl, rfl⟩
  | change s =>
    rw [DeskStep.masked]
    cases hf : d.form with
    | none =>
      have hf' : d.masked.form = none := by rw [masked, hf, Option.map_none]
      simp only [step, onForm, hf, hf']
      exact ⟨rfl, rfl⟩
    | some f =>
      have hf' : d.masked.form = some f.masked := by rw [masked, hf, Option.map_some]
      simp only [step, onForm, hf, hf', Logged.log_bind, Logged.log_pure, Logged.value_bind,
        Logged.value_pure, Form.log_step_masked, Form.value_step_masked]
      exact ⟨trivial, rfl⟩
  | submit p =>
    rw [DeskStep.masked]
    cases hf : d.form with
    | none =>
      have hf' : d.masked.form = none := by rw [masked, hf, Option.map_none]
      refine ⟨by rw [log_step_submit_none hf, log_step_submit_none hf'], ?_⟩
      simp only [step, submit, hf, hf']
      rfl
    | some f =>
      have hf' : d.masked.form = some f.masked := by rw [masked, hf, Option.map_some]
      have houtcome := f.outcome_masked d.session.project p
      cases ho : f.outcome d.session.project p with
      | error e =>
        rw [ho] at houtcome
        rw [log_step_submit_error hf ho, log_step_submit_error hf' houtcome,
          value_step_submit_error hf ho, value_step_submit_error hf' houtcome]
        exact ⟨rfl, rfl⟩
      | ok sub =>
        rw [ho] at houtcome
        have hsave : d.masked.store.save sub.masked.next = _ := d.store.save_masked sub.next
        have hsettle := d.session.settle_masked sub.next (d.store.save sub.next).1
        have hplan : Form.planLog (.ok sub.masked) = Form.planLog (.ok sub) :=
          Form.planLog_masked (.ok sub)
        rw [log_step_submit_ok hf ho, log_step_submit_ok hf' houtcome,
          value_step_submit_ok hf ho, value_step_submit_ok hf' houtcome, hsave, hplan]
        refine ⟨rfl, Prod.ext (answer_masked _ (.submitted sub.definition)) ?_⟩
        exact congrArg (Desk.mk · _ _) hsettle
  | commit q =>
    have hsave : d.masked.store.save q.masked = _ := d.store.save_masked q
    have hsettle := d.session.settle_masked q (d.store.save q).1
    rw [DeskStep.masked, log_step_commit, log_step_commit, value_step_commit, value_step_commit,
      hsave]
    refine ⟨rfl, Prod.ext (answer_masked _ .committed) ?_⟩
    exact congrArg (Desk.mk · _ _) hsettle
  | restart rejects rollback =>
    exact ⟨rfl, congrArg (Prod.mk _) (d.restart_masked rejects rollback)⟩

theorem next_masked (d : Desk) (s : DeskStep) : d.masked.next s.masked = (d.next s).masked := by
  rw [next, (d.step_masked s).2, next]

/-! ### Runs -/

/-- Why a step failed: at the desk, or in the form that is open on it. -/
def failure? : Except DeskError DeskReply → Option DeskError
  | .error e => some e
  | .ok (.changed (.validated (.error vs))) => some (.setup (.validation vs))
  | .ok (.changed (.planned (.error e))) => some (.setup e)
  | .ok _ => none

/-- What a run shows: what each of its steps logs, and why it failed if it did. -/
def shown (d : Desk) : List DeskStep → List (List LogEvent × Option DeskError)
  | [] => []
  | s :: ss => ((d.step s).log, failure? (d.step s).value.1) :: (d.next s).shown ss

theorem failure?_masked (r : Except DeskError DeskReply) :
    failure? (r.map DeskReply.masked) = failure? r := by
  rcases r with e | reply
  · rfl
  · cases reply with
    | changed r =>
      cases r with
      | done => rfl
      | validated r => cases r <;> rfl
      | planned r => cases r <;> rfl
    | _ => rfl

/-- **What a run shows is the same without credentials.** -/
theorem shown_masked (d : Desk) (ss : List DeskStep) :
    d.masked.shown (ss.map DeskStep.masked) = d.shown ss := by
  induction ss generalizing d with
  | nil => rfl
  | cons s ss ih =>
    obtain ⟨hlog, hvalue⟩ := d.step_masked s
    rw [List.map_cons, shown, shown, next_masked, ih, hlog, hvalue, failure?_masked]

theorem value_start (m : MemoryStore) (projectId : String) (rollback : Bool) :
    (start m projectId rollback).value =
      (m.load projectId).map fun project => { session := { project, rollback }, store := m } := by
  have hload : (MemoryStore.store.load projectId m).value = (m.load projectId, m) := rfl
  rw [start, Logged.value_bind, Session.value_load, hload]
  dsimp only [Logged.value_pure]
  cases m.load projectId <;> rfl

theorem start_masked (m : MemoryStore) (projectId : String) (rollback : Bool) :
    (start m.masked projectId rollback).log = (start m projectId rollback).log ∧
      (start m.masked projectId rollback).value =
        (start m projectId rollback).value.map masked := by
  constructor
  · rw [start, start, Logged.log_bind, Logged.log_bind, Session.log_load, Session.log_load,
      m.load_masked]
    cases m.load projectId with
    | error reason => rfl
    | ok p =>
      dsimp only [Except.map]
      rw [p.eventCount_masked]
      rfl
  · rw [value_start, value_start, m.load_masked]
    cases m.load projectId <;> rfl

/-- **Credentials stay out of logs and errors.**  Start on two stores that differ in the credentials
of webhooks only, and take steps that differ in credentials only.  Then both starts log the same,
both fail for the same reason or none does, and every further step logs the same and fails for the
same reason or in neither run. -/
theorem credentials_hidden {m m' : MemoryStore} {ss ss' : List DeskStep}
    (hm : m.masked = m'.masked) (hss : ss.map DeskStep.masked = ss'.map DeskStep.masked)
    (projectId : String) (rollback : Bool) :
    (start m projectId rollback).log = (start m' projectId rollback).log ∧
      (start m projectId rollback).value.map (fun d => d.shown ss) =
        (start m' projectId rollback).value.map (fun d => d.shown ss') := by
  have hmasked (n : MemoryStore) (ts : List DeskStep) :
      (start n projectId rollback).value.map (fun d => d.shown ts) =
        (start n.masked projectId rollback).value.map
          (fun d => d.shown (ts.map DeskStep.masked)) := by
    rw [(start_masked n projectId rollback).2]
    cases (start n projectId rollback).value with
    | error reason => rfl
    | ok d => exact congrArg Except.ok (d.shown_masked ts).symm
  constructor
  · rw [← (start_masked m projectId rollback).1, hm, (start_masked m' projectId rollback).1]
  · rw [hmasked m ss, hmasked m' ss', hm, hss]

/-- A store with one event, whose webhook has the given credentials.  It rejects the first attempt
to save. -/
def guarded (credentials : String) : MemoryStore where
  projects := Dict.empty.insert "p1"
    { id := "p1", orgId := "o1"
      settings := some (Settings.insertEvent {}
        { projectId := "p1", orgId := "o1", name := "mood", description := "How the user feels"
          webhookHeaders := some (Dict.empty.insert "Authorization" credentials) }).1 }
  rejects n := n == 0

/-- Edits the event with other credentials, first badly; the first good submission is rejected. -/
def guardedSteps (credentials : String) : List DeskStep :=
  [.edit "mood",
   .change (.setValues { name := "mood", authorization := some credentials }),
   .submit .hobby,
   .change (.setValues
     { name := "mood", description := "How they feel", authorization := some credentials }),
   .submit .hobby,
   .submit .hobby]

/-- One run has credentials "a" stored and typed in, the other one "b". -/
theorem credentials_hidden_guarded :
    (guarded "a").masked = (guarded "b").masked ∧
      (guardedSteps "a").map DeskStep.masked = (guardedSteps "b").map DeskStep.masked ∧
      (guarded "a").projects ≠ (guarded "b").projects ∧
      (start (guarded "a") "p1" false).value.map (fun d => d.shown (guardedSteps "a")) =
        (start (guarded "b") "p1" false).value.map (fun d => d.shown (guardedSteps "b")) := by
  have hm : (guarded "a").masked = (guarded "b").masked := rfl
  have hss : (guardedSteps "a").map DeskStep.masked = (guardedSteps "b").map DeskStep.masked := rfl
  exact ⟨hm, hss, by decide, (credentials_hidden hm hss "p1" false).2⟩

example :
    (start (guarded "a") "p1" false).value.map (fun d => d.shown (guardedSteps "a")) =
      .ok [([], none), ([], none),
        ([.formInvalid 1], some (.setup (.validation [.descriptionTooShort]))),
        ([], none),
        ([.submitting "p1" "mood" "", .projectNotSaved "p1" "MemoryProjectStore: save rejected"],
          some (.setup (.notSaved "MemoryProjectStore: save rejected"))),
        ([.submitting "p1" "mood" "", .projectSaved "p1"], none)] := by cbv

end Desk

end EventDetection
