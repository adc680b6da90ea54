import EventDetection.Proofs.Session.Desk
import EventDetection.Session.Sample

/-!
# Keeping what was not saved

Without a rollback an update counts whether or not the store accepts it.  So what is done at a
desk goes on in the same way whatever the store accepts, and what is accepted later contains all
that was rejected before.

* `Desk.Alike`: two desks at which the same is done.
* `Desk.Agree`: two answers that differ at most in that one of two saves was rejected.
* `Desk.Alike.step`: one step keeps two desks alike, and is answered alike.
* `Desk.step_update`: an update asks the store once, or fails before that.
* `Desk.saves_iff`: an update that succeeds is an accepted save, and there are no others.
* `Desk.stored_next_of_saves`: a save that is accepted stores the project that counts.
* `Desk.runs_alike`: **two runs without a rollback stay alike**, whatever their stores do.
-/

namespace EventDetection

/-- The steps of one session.  Starting over is none of them. -/
def DeskStep.StaysIn : DeskStep → Prop
  | .restart .. => False
  | _ => True

/-- The steps that may ask the store to save: a submission, and a commit. -/
def DeskStep.IsUpdate : DeskStep → Prop
  | .submit .. | .commit .. => True
  | _ => False

namespace Desk

/-- Desks with the same project, the same policy and the same open form.  Their stores may hold
and accept what they like. -/
structure Alike (d e : Desk) : Prop where
  session_eq : d.session = e.session
  form_eq : d.form = e.form

/-- Two answers to one step, which differ at most in that one of two saves was rejected. -/
def Agree (r r' : Except DeskError DeskReply) : Prop :=
  r = r' ∨ (∃ x reason, r = .ok x ∧ r' = .error (.setup (.notSaved reason))) ∨
    ∃ x reason, r = .error (.setup (.notSaved reason)) ∧ r' = .ok x

/-- A step asks the store to save a project, and the store accepts it. -/
def Saves (d : Desk) (s : DeskStep) : Prop :=
  d.store.rejects d.store.saveCount = false ∧
    (d.next s).store.saveCount = d.store.saveCount + 1

variable {d e : Desk}

/-! ### One step -/

theorem error_of_save {m : MemoryStore} {p : Project} {reason : String}
    (h : (m.save p).1 = .error reason) : reason = "MemoryProjectStore: save rejected" := by
  rw [MemoryStore.save] at h
  split at h
  · exact (Except.error.inj h).symm
  · cases h

theorem agree_answer (m m' : MemoryStore) (p : Project) (r : DeskReply) :
    Agree (answer (m.save p).1 r) (answer (m'.save p).1 r) := by
  cases h : (m.save p).1 with
  | ok u =>
    cases h' : (m'.save p).1 with
    | ok u' => exact .inl rfl
    | error reason => exact .inr (.inl ⟨r, reason, rfl, rfl⟩)
  | error reason =>
    cases h' : (m'.save p).1 with
    | ok u' => exact .inr (.inr ⟨r, reason, rfl, rfl⟩)
    | error reason' =>
      rw [error_of_save h, error_of_save h']
      exact .inl rfl

/-- Without a rollback the update counts, whatever the store says. -/
theorem settle_of_keeps {s : Session} (hs : s.rollback = false) (next : Project)
    (saved : Except String Unit) : s.settle next saved = { s with project := next } := by
  rw [Session.settle, hs, Bool.not_false, Bool.or_true, if_pos rfl]

/-- **One step at two desks that are alike**, without a rollback: it is answered alike, and it
leaves them alike. -/
theorem Alike.step (h : d.Alike e) (hkeep : d.session.rollback = false) {s : DeskStep}
    (hs : s.StaysIn) :
    Agree (d.step s).value.1 (e.step s).value.1 ∧ (d.next s).Alike (e.next s) ∧
      (d.next s).session.rollback = false := by
  obtain ⟨hsession, hform⟩ := h
  cases s with
  | create t => exact ⟨.inl rfl, ⟨hsession, rfl⟩, hkeep⟩
  | edit name =>
    simp only [next, Desk.step, edit, ← hsession]
    cases d.session.project.event? name with
    | none => exact ⟨.inl rfl, ⟨hsession, hform⟩, hkeep⟩
    | some x => exact ⟨.inl rfl, ⟨rfl, rfl⟩, hkeep⟩
  | change s =>
    simp only [next, Desk.step, onForm, ← hform]
    cases hf : d.form with
    | none => exact ⟨.inl rfl, ⟨hsession, hform⟩, hkeep⟩
    | some f => exact ⟨.inl rfl, ⟨hsession, rfl⟩, hkeep⟩
  | submit p =>
    cases hf : d.form with
    | none =>
      have hf' : e.form = none := hform.symm.trans hf
      simp only [next, Desk.step, submit, hf, hf']
      exact ⟨.inl rfl, ⟨hsession, hform⟩, hkeep⟩
    | some f =>
      have hf' : e.form = some f := hform.symm.trans hf
      cases ho : f.outcome d.session.project p with
      | error err =>
        have ho' : f.outcome e.session.project p = .error err := hsession ▸ ho
        rw [next, next, value_step_submit_error hf ho, value_step_submit_error hf' ho']
        exact ⟨.inl rfl, ⟨hsession, rfl⟩, hkeep⟩
      | ok sub =>
        have ho' : f.outcome e.session.project p = .ok sub := hsession ▸ ho
        rw [next, next, value_step_submit_ok hf ho, value_step_submit_ok hf' ho', ← hsession]
        simp only [settle_of_keeps hkeep]
        exact ⟨agree_answer _ _ _ _, ⟨rfl, rfl⟩, hkeep⟩
  | commit q =>
    rw [next, next, value_step_commit, value_step_commit, ← hsession]
    simp only [settle_of_keeps hkeep]
    exact ⟨agree_answer _ _ _ _, ⟨rfl, hform⟩, hkeep⟩
  | restart rejects rollback => exact hs.elim

/-! ### Updates -/

theorem answer_ok_iff {saved : Except String Unit} {r : DeskReply} :
    (∃ x, answer saved r = .ok x) ↔ saved.isOk = true := by
  cases saved with
  | ok u => exact ⟨fun _ => rfl, fun _ => ⟨r, rfl⟩⟩
  | error reason =>
    refine ⟨fun ⟨x, h⟩ => ?_, fun h => absurd h Bool.false_ne_true⟩
    cases h

/-- **An update asks the store to save one project**, and answers and goes on as the store says,
or it fails and the store is not asked. -/
theorem step_update {s : DeskStep} (hs : s.IsUpdate) :
    (∃ q r, (d.step s).value.1 = answer (d.store.save q).1 r ∧
      (d.next s).session = d.session.settle q (d.store.save q).1 ∧
      (d.next s).store = (d.store.save q).2) ∨
    (∃ err, (d.step s).value.1 = .error err) ∧ (d.next s).store = d.store := by
  cases s with
  | submit p =>
    cases hf : d.form with
    | none =>
      refine .inr ⟨⟨.noFormOpen, ?_⟩, by rw [next_submit_none hf]⟩
      simp only [step, submit, hf]
      rfl
    | some f =>
      cases ho : f.outcome d.session.project p with
      | error err =>
        refine .inr ⟨⟨.setup err, ?_⟩, by rw [next_submit_error hf ho]⟩
        rw [value_step_submit_error hf ho]
      | ok sub =>
        refine .inl ⟨sub.next, .submitted sub.definition, ?_⟩
        rw [next, value_step_submit_ok hf ho]
        exact ⟨rfl, rfl, rfl⟩
  | commit q =>
    refine .inl ⟨q, .committed, ?_⟩
    rw [next, value_step_commit]
    exact ⟨rfl, rfl, rfl⟩
  | create | edit | change | restart => exact hs.elim

theorem store_next_of_not_isUpdate {s : DeskStep} (hs : s.StaysIn) (h : ¬ s.IsUpdate) :
    (d.next s).store = d.store := by
  cases s with
  | create t => rfl
  | edit name =>
    simp only [next, step, edit]
    cases d.session.project.event? name <;> rfl
  | change s =>
    simp only [next, step, onForm]
    cases d.form <;> rfl
  | submit p => exact absurd trivial h
  | commit q => exact absurd trivial h
  | restart rejects rollback => exact hs.elim

theorem not_saves_of_store_eq {s : DeskStep} (h : (d.next s).store = d.store) : ¬ d.Saves s := by
  rintro ⟨-, hcount⟩
  rw [h] at hcount
  omega

theorem step_of_saves {s : DeskStep} (hs : s.StaysIn) (h : d.Saves s) :
    s.IsUpdate ∧ ∃ q r, (d.step s).value.1 = answer (d.store.save q).1 r ∧
      (d.next s).session = d.session.settle q (d.store.save q).1 ∧
      (d.next s).store = (d.store.save q).2 := by
  have hupdate : s.IsUpdate := Classical.byContradiction fun hupdate =>
    not_saves_of_store_eq (store_next_of_not_isUpdate hs hupdate) h
  refine ⟨hupdate, ?_⟩
  rcases step_update (d := d) hupdate with hasks | ⟨-, hstore⟩
  · exact hasks
  · exact absurd h (not_saves_of_store_eq hstore)

/-- **The saves that are accepted are the updates that succeed.** -/
theorem saves_iff {s : DeskStep} (hs : s.StaysIn) :
    d.Saves s ↔ s.IsUpdate ∧ ∃ x, (d.step s).value.1 = .ok x := by
  constructor
  · intro h
    obtain ⟨hupdate, q, r, hanswer, -, -⟩ := step_of_saves hs h
    refine ⟨hupdate, ?_⟩
    rw [hanswer, answer_ok_iff, MemoryStore.isOk_save, h.1]
    rfl
  · rintro ⟨hupdate, hanswer⟩
    obtain ⟨q, r, heq, -, hstore⟩ | ⟨⟨err, herr⟩, -⟩ := step_update (d := d) hupdate
    · rw [heq, answer_ok_iff, MemoryStore.isOk_save, Bool.not_eq_true'] at hanswer
      exact ⟨hanswer, by rw [hstore, MemoryStore.saveCount_save]⟩
    · obtain ⟨x, hx⟩ := hanswer
      cases herr.symm.trans hx

/-- **A save that is accepted stores the project that counts.** -/
theorem stored_next_of_saves {s : DeskStep} (hs : s.StaysIn) (h : d.Saves s) :
    (d.next s).stored = some (d.next s).session.project := by
  obtain ⟨-, q, r, -, hsession, hstore⟩ := step_of_saves hs h
  obtain ⟨hsaved, hget⟩ := MemoryStore.save_accepted h.1 q
  rw [stored, hstore, hsession, hsaved]
  exact hget

/-! ### Runs -/

theorem Alike.run (h : d.Alike e) (hkeep : d.session.rollback = false) {ss : List DeskStep}
    (hss : ∀ s ∈ ss, s.StaysIn) :
    (d.run ss).value.Alike (e.run ss).value ∧ (d.run ss).value.session.rollback = false := by
  induction ss generalizing d e with
  | nil => exact ⟨h, hkeep⟩
  | cons s ss ih =>
    obtain ⟨-, hnext, hkeep'⟩ := h.step hkeep (hss s List.mem_cons_self)
    rw [value_run_cons, value_run_cons]
    exact ih hnext hkeep' fun t ht => hss t (List.mem_cons_of_mem _ ht)

/-- **Without a rollback rejected saves lose nothing.**  Two desks start alike and the same is
done at both of them.  Then they have the same project and the same form at any time, whatever
their stores accept; each next step is answered alike, but for the rejection of a save; and when
a save is accepted, which is when a submission or a commit succeeds, the store holds the project
that counts, with all that it rejected before. -/
theorem runs_alike (h : d.Alike e) (hkeep : d.session.rollback = false) {ss : List DeskStep}
    (hss : ∀ s ∈ ss, s.StaysIn) :
    (d.run ss).value.session.project = (e.run ss).value.session.project ∧
      (d.run ss).value.form = (e.run ss).value.form ∧
      ∀ s : DeskStep, s.StaysIn →
        Agree ((d.run ss).value.step s).value.1 ((e.run ss).value.step s).value.1 ∧
        ((d.run ss).value.Saves s ↔
          s.IsUpdate ∧ ∃ x, ((d.run ss).value.step s).value.1 = .ok x) ∧
        ((d.run ss).value.Saves s → (d.run (ss ++ [s])).value.stored =
          some (d.run (ss ++ [s])).value.session.project) := by
  obtain ⟨halike, hkept⟩ := h.run hkeep hss
  refine ⟨by rw [halike.session_eq], halike.form_eq, fun s hs => ?_⟩
  refine ⟨(halike.step hkept hs).1, saves_iff hs, fun hsaves => ?_⟩
  rw [value_run_append]
  exact stored_next_of_saves hs hsaves

/-! ### A rename that is rejected at first -/

/-- A desk on a project with one event. -/
def onAlpha (rejects : Nat → Bool) : Desk where
  session := { project := .sample "p1" ["Alpha"] }
  store := { rejects }

/-- The event is renamed and submitted, and the form of a new event is filled in. -/
def renameAndCreate : List DeskStep :=
  let filled (name : String) : DeskStep :=
    .change (.setValues { name, description := "The user asks about prices." })
  [.edit "Alpha", filled "Beta", .submit .hobby, .create none, filled "Refund"]

/-- The same behind a commit that adds a second event. -/
def commitAndRename : List DeskStep :=
  .commit (.sample "p1" ["Alpha", "Gamma"]) :: renameAndCreate

/-- One store rejects the commit and the rename, and the other one does not.  Both accept the new
event, and then the first one holds all three. -/
theorem runs_alike_commitAndRename :
    (onAlpha (· < 2)).Alike (onAlpha fun _ => false) ∧
      (∀ s ∈ commitAndRename, s.StaysIn) ∧
      ((onAlpha (· < 2)).run commitAndRename).value.stored = none ∧
      (((onAlpha (· < 2)).run (commitAndRename ++ [.submit .hobby])).value.stored.bind
        fun p => p.settings.map fun s => s.events.keys) = some ["Beta", "Gamma", "Refund"] ∧
      ((onAlpha (· < 2)).run commitAndRename).value.session.project =
        ((onAlpha fun _ => false).run commitAndRename).value.session.project := by
  have halike : (onAlpha (· < 2)).Alike (onAlpha fun _ => false) := ⟨rfl, rfl⟩
  have hsteps : ∀ s ∈ commitAndRename, s.StaysIn := by
    simp [commitAndRename, renameAndCreate, DeskStep.StaysIn]
  obtain ⟨hproject, -, hnext⟩ := runs_alike halike rfl hsteps
  obtain ⟨-, hsaves, hkept⟩ := hnext (.submit .hobby) trivial
  have hstored := hkept (hsaves.2 ⟨trivial, _, rfl⟩)
  refine ⟨halike, hsteps, rfl, ?_, hproject⟩
  rw [hstored]
  rfl

end Desk

end EventDetection
