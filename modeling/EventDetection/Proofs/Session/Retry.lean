import EventDetection.Proofs.Session.Submission
import EventDetection.Session.MemoryStore
import EventDetection.Session.Sample

/-!
# Submitting again after a rejected save

Without a rollback the first attempt has already changed the project, so the second one is
planned on what the first one planned.  Filing a definition that is filed already
changes nothing, so both attempts plan the same project, with one exception: a new event
that takes the last free place fills the project, and finds it full when it is submitted
again.

* `Form.file_file`: filing twice is filing once.
* `Form.outcome_next`: the plan made on a planned project.
* `Session.submit_again`: **what a second attempt does.**
* `Session.submit_again_refused`: the exception.
-/

namespace EventDetection

namespace Form

/-! ### Planning on a planned project -/

/-- Filing twice is filing once. -/
theorem file_file (f : Form) (d : Definition) (s : Settings) :
    (f.file d (f.file d s).1).1 = (f.file d s).1 :=
  file_file_of_name (.inl rfl) s

/-- The form is for a new event, which takes the last free place. -/
def TakesLastPlace (f : Form) (q : Project) (p : Plan) : Prop :=
  f.editing = none ∧ ∃ s, q.settings = some s ∧ s.count + 1 = p.quota ∧
    s.events.get? f.values.name = none

variable {f : Form} {q : Project} {p : Plan} {sub : Submission}

/-- A submission is turned down for its values, for missing settings or for the quota. -/
theorem outcome_ne_notSaved (f : Form) (q : Project) (p : Plan) (reason : String) :
    f.outcome q p ≠ .error (.notSaved reason) := by
  intro h
  rcases outcome_eq_error_iff.1 h with ⟨-, he⟩ | ⟨-, -, he⟩ | ⟨-, -, -, he⟩ <;> cases he

theorem outcome_next (h : f.outcome q p = .ok sub) (hlast : ¬ f.TakesLastPlace q p) :
    ∃ again, f.outcome sub.next p = .ok again ∧ again.definition = sub.definition ∧
      again.next = sub.next := by
  obtain ⟨hv, s, hs, hroom, rfl⟩ := outcome_eq_ok_iff.1 h
  have hroom' : f.editing = none →
      (f.file (f.values.definition q.id q.orgId) s).1.count < p.quota := by
    intro hf
    have hlt := hroom hf
    rw [count_file_of_new hf, FormValues.name_definition]
    cases hnew : s.events.get? f.values.name with
    | some d =>
      rw [Option.isSome_some, if_pos rfl]
      exact hlt
    | none =>
      have hne : s.count + 1 ≠ p.quota := fun he => hlast ⟨hf, s, hs, he, hnew⟩
      rw [Option.isSome_none, if_neg Bool.false_ne_true]
      omega
  refine ⟨_, outcome_eq_ok_iff.2 ⟨hv, _, rfl, hroom', rfl⟩, rfl, ?_⟩
  simp only [submission, file_file]

theorem outcome_next_of_takesLastPlace (h : f.outcome q p = .ok sub)
    (hlast : f.TakesLastPlace q p) : f.outcome sub.next p = .error (.quotaReached p.quota) := by
  obtain ⟨hv, s, hs, -, rfl⟩ := outcome_eq_ok_iff.1 h
  obtain ⟨hf, t, ht, hquota, hnew⟩ := hlast
  obtain rfl := Option.some.inj (hs.symm.trans ht)
  have hcount : (f.file (f.values.definition q.id q.orgId) s).1.count = p.quota := by
    rw [count_file_of_new hf, FormValues.name_definition, hnew]
    exact hquota
  exact outcome_eq_error_iff.2 (.inr (.inr ⟨hv, ⟨_, rfl, Nat.le_of_eq hcount.symm⟩, hf, rfl⟩))

end Form

/-! ### Two attempts -/

namespace Session

variable {σ : Type} {store : ProjectStore σ} {s s' : Session} {f f' : Form} {p : Plan} {w w' : σ}
  {reason : String}

/-- What a rejected save leaves behind. -/
theorem of_submit_notSaved
    (h : (s.submit store f p w).value = ((.error (.notSaved reason), s', f'), w')) :
    ∃ sub, f.outcome s.project p = .ok sub ∧ f' = f.checked ∧
      s' = if s.rollback then s else { s with project := sub.next } := by
  cases ho : f.outcome s.project p with
  | error e =>
    rw [value_submit_error ho] at h
    simp only [Prod.mk.injEq, Except.error.injEq] at h
    exact absurd (h.1.1 ▸ ho) (f.outcome_ne_notSaved _ _ _)
  | ok sub =>
    rw [value_submit_ok ho] at h
    rcases hsave : store.save sub.next w with ⟨⟨saved, w''⟩, log⟩
    rw [hsave] at h
    cases saved with
    | ok u => cases congrArg (fun r => r.1.1) h
    | error r =>
      simp only [Prod.mk.injEq] at h
      refine ⟨sub, rfl, h.1.2.2.symm, ?_⟩
      rw [← h.1.2.1, settle]
      cases s.rollback <;> rfl

/-- A submission whose save is accepted. -/
theorem value_submit_accepted {sub : Submission} (h : f.outcome s.project p = .ok sub)
    (hsave : (store.save sub.next w).value.1 = .ok ()) :
    (s.submit store f p w).value =
      ((.ok sub.definition, { s with project := sub.next }, f.checked),
        (store.save sub.next w).value.2) := by
  rw [value_submit_ok h]
  simp only [hsave]
  rfl

/-- **A second attempt** after a rejected save plans what the first one planned, whether or not
it was rolled back: if the store accepts it this time, it succeeds with the same definition, and
the store is left as saving the first plan leaves it.  Only without a rollback, and for a new
event that takes the last free place, it is turned down for the quota. -/
theorem submit_again
    (hfail : (s.submit store f p w).value = ((.error (.notSaved reason), s', f'), w')) :
    ∃ sub, (f.plan s.project p).value.1 = .ok sub ∧
      (¬ (s.rollback = false ∧ f.TakesLastPlace s.project p) →
        (store.save sub.next w').value.1 = .ok () →
        (s'.submit store f' p w').value =
          ((.ok sub.definition, { s' with project := sub.next }, f'),
            (store.save sub.next w').value.2)) ∧
      (s.rollback = false ∧ f.TakesLastPlace s.project p →
        (s'.submit store f' p w').value = ((.error (.quotaReached p.quota), s', f'), w')) := by
  obtain ⟨sub, ho, rfl, hs'⟩ := of_submit_notSaved hfail
  refine ⟨sub, by rw [Form.value_plan, ho], fun hlast hsave => ?_, fun ⟨hkept, hlast⟩ => ?_⟩
  · have hplan : ∃ again, f.checked.outcome s'.project p = .ok again ∧
        again.definition = sub.definition ∧ again.next = sub.next := by
      cases hr : s.rollback with
      | true =>
        rw [hs', hr, if_pos rfl]
        exact ⟨sub, ho, rfl, rfl⟩
      | false =>
        rw [hs', hr, if_neg Bool.false_ne_true]
        exact Form.outcome_next ho fun h => hlast ⟨hr, h⟩
    obtain ⟨again, hagain, hdef, hnext⟩ := hplan
    rw [← hnext] at hsave
    rw [value_submit_accepted hagain hsave, hdef, hnext]
    rfl
  · rw [hkept, if_neg Bool.false_ne_true] at hs'
    have hagain : f.checked.outcome s'.project p = .error (.quotaReached p.quota) := by
      rw [hs']
      exact Form.outcome_next_of_takesLastPlace ho hlast
    rw [value_submit_error hagain]
    rfl

/-! ### The exception -/

/-- A session on a project with one free place under the hobby plan. -/
def almostFull (rollback : Bool) : Session where
  project := .sample "p1" ["E0", "E1", "E2", "E3", "E4", "E5", "E6", "E7", "E8"]
  rollback := rollback

/-- The form of a new event. -/
def pricing : Form where
  values := { name := "Pricing", description := "The user asks about pricing plans." }

/-- A store that rejects the first attempt to save. -/
def wavering : MemoryStore where
  rejects n := n = 0

/-- What the first attempt leaves behind. -/
def firstAttempt (rollback : Bool) :
    (Except SetupError Definition × Session × Form) × MemoryStore :=
  ((almostFull rollback).submit MemoryStore.store pricing .hobby wavering).value

/-- What the second attempt answers, and the store behind it. -/
def secondAttempt (rollback : Bool) :
    (Except SetupError Definition × Session × Form) × MemoryStore :=
  let first := firstAttempt rollback
  (first.1.2.1.submit MemoryStore.store first.1.2.2 .hobby first.2).value

/-- Without a rollback the first attempt is not saved, and the second one, which the store would
accept, is turned down for the quota. -/
theorem submit_again_refused :
    (firstAttempt false).1.1 = .error (.notSaved "MemoryProjectStore: save rejected") ∧
      (firstAttempt false).2.rejects (firstAttempt false).2.saveCount = false ∧
      (secondAttempt false).1.1 = .error (.quotaReached 10) := by
  refine ⟨?_, ?_, ?_⟩ <;> rfl

/-- With a rollback the second attempt stores what the first one planned. -/
theorem submit_again_almostFull :
    (firstAttempt true).1.1 = .error (.notSaved "MemoryProjectStore: save rejected") ∧
      ∃ sub, (pricing.plan (almostFull true).project .hobby).value.1 = .ok sub ∧
        (secondAttempt true).1.1 = .ok sub.definition ∧
        (secondAttempt true).2.get? sub.next.id = some sub.next := by
  have hrejected : (firstAttempt true).1.1 =
      .error (.notSaved "MemoryProjectStore: save rejected") := by rfl
  have hfail : firstAttempt true = ((.error (.notSaved "MemoryProjectStore: save rejected"),
      (firstAttempt true).1.2.1, (firstAttempt true).1.2.2), (firstAttempt true).2) :=
    Prod.ext (Prod.ext hrejected rfl) rfl
  obtain ⟨sub, hplan, hagain, -⟩ := submit_again hfail
  have haccept : (firstAttempt true).2.rejects (firstAttempt true).2.saveCount = false := by
    rfl
  obtain ⟨hsave, hstored⟩ := MemoryStore.save_accepted haccept sub.next
  have hsecond := hagain (fun h => Bool.noConfusion h.1) hsave
  refine ⟨hrejected, sub, hplan, ?_, ?_⟩
  · exact congrArg (fun r => r.1.1) hsecond
  · exact (congrArg (fun r => r.2.get? sub.next.id) hsecond).trans hstored

end Session

end EventDetection
