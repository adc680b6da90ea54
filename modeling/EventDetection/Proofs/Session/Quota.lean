import EventDetection.Proofs.Session.Desk
import EventDetection.Session.Sample

/-!
# The quota along a run

The limit of a plan is checked for new events only.  An edit is let through because it
is meant to take the place of an event that is there, but a form goes on to edit the
event it was opened on after it renamed it.  When such a form is submitted once more,
under a third name, nothing is replaced and the project grows.

* `Desk.Overfills`: the moment at which this carries a project past its limit.
* `Desk.eventCount_next_le_iff`: one step keeps the limit unless it submits at such a
  moment.
* `Desk.quota_kept_iff`: **a run keeps the limit exactly if it never submits at such a
  moment.**
* `Desk.quota_exceeded`: there is a run that does not keep it.
-/

namespace EventDetection

/-- Steps that work on one project under one plan. -/
def DeskStep.KeepsTo (p : Plan) : DeskStep → Prop
  | .submit q => q = p
  | .commit _ => False
  | _ => True

namespace Desk

/-- The project is full, and the open form would add to it: it fits, it edits an event that is
not filed any more, its name is not filed either, and the result is going to count. -/
def Overfills (p : Plan) (d : Desk) : Prop :=
  ∃ f e s, d.form = some f ∧ f.editing = some e ∧ d.session.project.settings = some s ∧
    f.values.violations = [] ∧ s.count = p.quota ∧ s.events.get? e.name = none ∧
    s.events.get? f.values.name = none ∧ d.keepsUpdate = true

variable {p : Plan} {d : Desk}

theorem eventCount_eq {q : Project} {s : Settings} (hs : q.settings = some s) :
    q.eventCount = s.count := by
  rw [Project.eventCount, hs, Option.map_some, Option.getD_some]

/-- The project that a submission results in keeps the limit, or else it was full and nothing
was replaced. -/
theorem eventCount_submission_le_iff {f : Form} {q : Project} {sub : Submission} {s : Settings}
    (h : f.outcome q p = .ok sub) (hs : q.settings = some s) (hq : s.count ≤ p.quota) :
    sub.next.eventCount ≤ p.quota ↔
      ¬ (s.count = p.quota ∧ ∃ e, f.editing = some e ∧ s.events.get? e.name = none ∧
        s.events.get? f.values.name = none) := by
  obtain ⟨-, s', hs', hroom, rfl⟩ := Form.outcome_eq_ok_iff.1 h
  obtain rfl := Option.some.inj (hs.symm.trans hs')
  have hcount : (f.submission q s).next.eventCount =
      (f.file (f.values.definition q.id q.orgId) s).1.count := rfl
  have hle := Form.count_file_le f (f.values.definition q.id q.orgId) s
  rw [hcount]
  cases hf : f.editing with
  | none =>
    have := hroom hf
    simp only [reduceCtorEq, false_and, exists_false, and_false, not_false_iff, iff_true]
    omega
  | some e =>
    have hlt := Form.lt_count_file_iff hf (f.values.definition q.id q.orgId) s
    have hname : (f.values.definition q.id q.orgId).name = f.values.name := rfl
    rw [hname] at hlt
    simp only [Option.some.injEq, exists_eq_left']
    rw [← hlt]
    omega

theorem eventCount_next_submit_le_iff (hd : d.session.project.eventCount ≤ p.quota) :
    (d.next (.submit p)).session.project.eventCount ≤ p.quota ↔ ¬ d.Overfills p := by
  cases hf : d.form with
  | none =>
    rw [next_submit_none hf]
    exact iff_of_true hd fun ⟨f, _, _, h, _⟩ => nomatch hf.symm.trans h
  | some f =>
    cases ho : f.outcome d.session.project p with
    | error err =>
      rw [next_submit_error hf ho]
      refine iff_of_true hd fun ⟨g, e, s, hg, he, hs, hv, _⟩ => ?_
      obtain rfl := Option.some.inj (hf.symm.trans hg)
      have hok : f.outcome d.session.project p = .ok (f.submission d.session.project s) :=
        Form.outcome_eq_ok_iff.2 ⟨hv, s, hs, fun h => (nomatch he.symm.trans h), rfl⟩
      exact nomatch ho.symm.trans hok
    | ok sub =>
      obtain ⟨hv, s, hs, -⟩ := Form.outcome_eq_ok_iff.1 ho
      have hle := eventCount_submission_le_iff ho hs (eventCount_eq hs ▸ hd)
      rw [project_next_submit_ok hf ho]
      cases hk : d.keepsUpdate with
      | false =>
        rw [if_neg Bool.false_ne_true]
        exact iff_of_true hd fun ⟨_, _, _, _, _, _, _, _, _, _, h⟩ => nomatch hk.symm.trans h
      | true =>
        rw [if_pos rfl, hle]
        refine not_congr ⟨?_, ?_⟩
        · rintro ⟨hfull, e, he, hold, hnew⟩
          exact ⟨f, e, s, hf, he, hs, hv, hfull, hold, hnew, hk⟩
        · rintro ⟨g, e, t, hg, he, ht, -, hfull, hold, hnew, -⟩
          obtain rfl := Option.some.inj (hf.symm.trans hg)
          obtain rfl := Option.some.inj (hs.symm.trans ht)
          exact ⟨hfull, e, he, hold, hnew⟩

/-- **One step keeps the limit** unless it submits at a moment that overfills. -/
theorem eventCount_next_le_iff (hd : d.session.project.eventCount ≤ p.quota) {s : DeskStep}
    (hs : s.KeepsTo p) :
    (d.next s).session.project.eventCount ≤ p.quota ↔ ¬ (s = .submit p ∧ d.Overfills p) := by
  cases s with
  | submit q =>
    obtain rfl : q = p := hs
    rw [and_iff_right rfl]
    exact eventCount_next_submit_le_iff hd
  | commit next => exact hs.elim
  | _ =>
    rw [project_next d (by simp) (by simp)]
    exact iff_of_true hd (by simp)

/-! ### Runs -/

theorem forall_prefix_cons {s : DeskStep} {ss : List DeskStep} {Q : List DeskStep → Prop} :
    (∀ ts, ts <+: s :: ss → Q ts) ↔ Q [] ∧ ∀ ts, ts <+: ss → Q (s :: ts) := by
  constructor
  · intro h
    exact ⟨h [] List.nil_prefix, fun ts hts => h (s :: ts) ((List.prefix_cons_inj s).2 hts)⟩
  · rintro ⟨hnil, hcons⟩ ts hts
    rcases List.prefix_cons_iff.1 hts with rfl | ⟨us, rfl, hus⟩
    · exact hnil
    · exact hcons us hus

theorem forall_prefix_snoc_cons {s t : DeskStep} {ss : List DeskStep}
    {Q : List DeskStep → Prop} :
    (∀ ts, ts ++ [t] <+: s :: ss → Q ts) ↔
      (s = t → Q []) ∧ ∀ ts, ts ++ [t] <+: ss → Q (s :: ts) := by
  constructor
  · intro h
    refine ⟨?_, fun ts hts => h (s :: ts) ((List.prefix_cons_inj s).2 hts)⟩
    rintro rfl
    exact h [] ((List.prefix_cons_inj s).2 List.nil_prefix)
  · rintro ⟨hnil, hcons⟩ ts hts
    cases ts with
    | nil => exact hnil (List.cons_prefix_cons.1 hts).1.symm
    | cons u us =>
      obtain ⟨rfl, hus⟩ := List.cons_prefix_cons.1 hts
      exact hcons us hus

/-- **A run keeps the limit exactly if it never submits at a moment that overfills.** -/
theorem quota_kept_iff (hd : d.session.project.eventCount ≤ p.quota) {ss : List DeskStep}
    (hss : ∀ s ∈ ss, s.KeepsTo p) :
    (∀ ts, ts <+: ss → (d.run ts).value.session.project.eventCount ≤ p.quota) ↔
      ∀ ts, ts ++ [.submit p] <+: ss → ¬ (d.run ts).value.Overfills p := by
  induction ss generalizing d with
  | nil =>
    refine iff_of_true (fun ts hts => ?_) fun ts hts => ?_
    · obtain rfl := List.prefix_nil.1 hts
      exact hd
    · exact absurd (List.prefix_nil.1 hts) (by simp)
  | cons s ss ih =>
    have hnext : (d.next s).session.project.eventCount ≤ p.quota ↔
        (s = .submit p → ¬ (d.run []).value.Overfills p) :=
      (eventCount_next_le_iff hd (hss s List.mem_cons_self)).trans not_and
    have hnil : (d.run []).value.session.project.eventCount ≤ p.quota := hd
    rw [forall_prefix_cons, forall_prefix_snoc_cons, and_iff_right hnil]
    by_cases hkept : (d.next s).session.project.eventCount ≤ p.quota
    · rw [and_iff_right (hnext.1 hkept)]
      exact ih hkept fun t ht => hss t (List.mem_cons_of_mem _ ht)
    · -- the limit is passed right after the first step, which therefore overfills
      exact iff_of_false (fun h => hkept (h [] List.nil_prefix)) fun h => hkept (hnext.2 h.1)

/-! ### A run that passes the limit -/

/-- A project that is full under the hobby plan, on a desk whose store accepts all. -/
def full : Desk where
  session :=
    { project := .sample "p1" ["E0", "E1", "E2", "E3", "E4", "E5", "E6", "E7", "E8", "E9"] }
  store := {}

/-- An event is opened and renamed, and then renamed again in the same form. -/
def renamedTwice : List DeskStep :=
  let named (name : String) : DeskStep :=
    .change (.setValues { name, description := "The user asks about prices." })
  [.edit "E0", named "First name", .submit .hobby, named "Second name", .submit .hobby]

/-- Every event is filed under its own name and the project is within the limit, and yet the run
ends with one event too many. -/
theorem quota_exceeded :
    (∀ e ∈ (full.session.project.settings.getD {}).events.entries, e.2.name = e.1) ∧
      full.session.project.eventCount = Plan.hobby.quota ∧
      (full.run renamedTwice).value.session.project.eventCount = Plan.hobby.quota + 1 := by
  decide +kernel

/-- This run does submit at a moment that overfills. -/
theorem quota_kept_iff_renamedTwice :
    full.session.project.eventCount ≤ Plan.hobby.quota ∧
      (∀ s ∈ renamedTwice, s.KeepsTo .hobby) ∧
      ¬ ∀ ts, ts ++ [.submit .hobby] <+: renamedTwice →
        ¬ (full.run ts).value.Overfills .hobby := by
  have hfull : full.session.project.eventCount ≤ Plan.hobby.quota := by decide +kernel
  have hsteps : ∀ s ∈ renamedTwice, s.KeepsTo .hobby := by simp [renamedTwice, DeskStep.KeepsTo]
  refine ⟨hfull, hsteps, fun h => ?_⟩
  have hend := (quota_kept_iff hfull hsteps).2 h renamedTwice List.prefix_rfl
  exact absurd hend (by decide +kernel)

end Desk

end EventDetection
