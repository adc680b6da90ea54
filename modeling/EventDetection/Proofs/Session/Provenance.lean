import EventDetection.Proofs.Form.Validation
import EventDetection.Proofs.Session.Optimism

/-!
# Where the events of a project come from

Work at a desk changes the project by submissions only.  A submission files what was planned
and removes at most one entry, so that an event that the project files was there from the start
or was planned at some moment of the run, whatever was renamed, overwritten or rejected since.

* `Project.Descends`: what the project was, with entries that satisfy a condition.
* `Desk.Emits`, `Desk.EmitsIn`: a submission emits a definition at a desk, or somewhere in a run.
* `Desk.Emits.sound`: what is emitted belongs to the project, fits and is consistent.
* `Desk.descends_next`, `Desk.descends_run`: one step, and a run.
* `Desk.old_or_emitted`: **every event is an old one or was emitted in the run**, and nothing but
  the events has changed.
-/

namespace EventDetection

/-- Steps that change the project through the open form only. -/
def DeskStep.ByForm : DeskStep → Prop
  | .commit _ => False
  | _ => True

/-! ### Descent -/

/-- `q` is `p` but for its events: each of them is filed in `p` as it is, or satisfies `E` and is
filed under its own name. -/
structure Project.Descends (E : Definition → Prop) (p q : Project) : Prop where
  id : q.id = p.id
  orgId : q.orgId = p.orgId
  name : q.name = p.name
  others : q.others = p.others
  settings : ∀ s, p.settings = some s → ∃ t, q.settings = some t ∧ t.others = s.others ∧
    ∀ name e, t.events.get? name = some e → s.events.get? name = some e ∨ (E e ∧ e.name = name)

namespace Project.Descends

variable {E F : Definition → Prop} {p q r : Project}

theorem refl (E : Definition → Prop) (p : Project) : Descends E p p :=
  ⟨rfl, rfl, rfl, rfl, fun s hs => ⟨s, hs, rfl, fun _ _ => .inl⟩⟩

theorem trans (h : Descends E p q) (g : Descends E q r) : Descends E p r := by
  refine ⟨g.id.trans h.id, g.orgId.trans h.orgId, g.name.trans h.name, g.others.trans h.others,
    fun s hs => ?_⟩
  obtain ⟨t, ht, hothers, hevents⟩ := h.settings s hs
  obtain ⟨u, hu, hothers', hevents'⟩ := g.settings t ht
  refine ⟨u, hu, hothers'.trans hothers, fun name e he => ?_⟩
  rcases hevents' name e he with hold | hnew
  · exact hevents name e hold
  · exact .inr hnew

theorem mono (h : Descends E p q) (hEF : ∀ e, E e → F e) : Descends F p q := by
  refine ⟨h.id, h.orgId, h.name, h.others, fun s hs => ?_⟩
  obtain ⟨t, ht, hothers, hevents⟩ := h.settings s hs
  exact ⟨t, ht, hothers, fun name e he => (hevents name e he).imp_right (.imp_left (hEF e))⟩

/-- A submission files its definition and may remove another one. -/
theorem submission (f : Form) {s : Settings} (hs : p.settings = some s) :
    Descends (· = (f.submission p s).definition) p (f.submission p s).next := by
  refine ⟨rfl, rfl, rfl, rfl, fun t ht => ?_⟩
  obtain rfl := Option.some.inj (hs.symm.trans ht)
  refine ⟨_, rfl, Form.others_file _ _ _, fun name e he => ?_⟩
  rw [Form.get?_file] at he
  split at he
  · next hname =>
    obtain rfl := Option.some.inj he
    exact .inr ⟨rfl, hname.symm⟩
  · exact .inl (Option.ite_none_left_eq_some.1 he).2

end Project.Descends

namespace Desk

/-- The open form can be submitted, and a definition is what its submission files. -/
def Emits (d : Desk) (p : Plan) (e : Definition) : Prop :=
  ∃ f sub, d.form = some f ∧ (f.plan d.session.project p).value.1 = .ok sub ∧ sub.definition = e

/-- A submission in a run emits a definition. -/
def EmitsIn (d : Desk) (ss : List DeskStep) (e : Definition) : Prop :=
  ∃ ts p, ts ++ [.submit p] <+: ss ∧ (d.run ts).value.Emits p e

variable {d : Desk} {e : Definition}

/-! ### What is emitted -/

/-- **What is emitted** belongs to the project, violates nothing and is consistent. -/
theorem Emits.sound {p : Plan} (h : d.Emits p e) :
    e.projectId = d.session.project.id ∧ e.orgId = d.session.project.orgId ∧
      e.violations = [] ∧ e.Consistent := by
  obtain ⟨f, sub, -, hplan, rfl⟩ := h
  rw [Form.value_plan] at hplan
  obtain ⟨hv, s, -, -, rfl⟩ := Form.outcome_eq_ok_iff.1 hplan
  exact ⟨rfl, rfl, FormValues.violations_definition hv _ _, FormValues.consistent_definition _ _ _⟩

theorem emitsIn_cons {s : DeskStep} {ss : List DeskStep} (h : (d.next s).EmitsIn ss e) :
    d.EmitsIn (s :: ss) e := by
  obtain ⟨ts, p, hts, he⟩ := h
  exact ⟨s :: ts, p, (List.prefix_cons_inj s).2 hts, he⟩

/-! ### One step -/

theorem descends_next_submit (d : Desk) (p : Plan) :
    d.session.project.Descends (d.Emits p) (d.next (.submit p)).session.project := by
  cases hf : d.form with
  | none =>
    rw [next_submit_none hf]
    exact .refl _ _
  | some f =>
    cases ho : f.outcome d.session.project p with
    | error err =>
      rw [next_submit_error hf ho]
      exact .refl _ _
    | ok sub =>
      have hemits : d.Emits p sub.definition := by
        refine ⟨f, sub, hf, ?_, rfl⟩
        rw [Form.value_plan, ho]
      obtain ⟨-, s, hs, -, rfl⟩ := Form.outcome_eq_ok_iff.1 ho
      rw [project_next_submit_ok hf ho]
      -- the update is undone if its save is rejected under a rollback
      split
      · exact (Project.Descends.submission f hs).mono fun e he => he ▸ hemits
      · exact .refl _ _

/-- **After one step** the project descends from what it was, by what the step emits. -/
theorem descends_next (d : Desk) {s : DeskStep} (hs : s.ByForm) :
    d.session.project.Descends (d.EmitsIn [s]) (d.next s).session.project := by
  cases s with
  | submit p => exact (descends_next_submit d p).mono fun e he => ⟨[], p, List.prefix_rfl, he⟩
  | commit next => exact hs.elim
  | _ =>
    rw [project_next d (by simp) (by simp)]
    exact .refl _ _

/-! ### Runs -/

theorem descends_run (d : Desk) {ss : List DeskStep} (hss : ∀ s ∈ ss, s.ByForm) :
    d.session.project.Descends (d.EmitsIn ss) (d.run ss).value.session.project := by
  induction ss generalizing d with
  | nil => exact .refl _ _
  | cons s ss ih =>
    rw [value_run_cons]
    have hnext : d.session.project.Descends (d.EmitsIn (s :: ss)) (d.next s).session.project := by
      refine (descends_next d (hss s List.mem_cons_self)).mono ?_
      rintro e ⟨ts, p, hts, he⟩
      exact ⟨ts, p, hts.trans ⟨ss, rfl⟩, he⟩
    have hrun := ih (d.next s) fun t ht => hss t (List.mem_cons_of_mem _ ht)
    exact hnext.trans (hrun.mono fun e => emitsIn_cons)

/-- What is emitted in a run belongs to the project that the run starts from. -/
theorem EmitsIn.sound {ss : List DeskStep} (hss : ∀ s ∈ ss, s.ByForm) (h : d.EmitsIn ss e) :
    e.projectId = d.session.project.id ∧ e.orgId = d.session.project.orgId ∧
      e.violations = [] ∧ e.Consistent := by
  obtain ⟨ts, p, hts, he⟩ := h
  have hdescends := descends_run d fun s hs => hss s (hts.subset (List.mem_append_left _ hs))
  obtain ⟨hid, horg, hfits⟩ := he.sound
  exact ⟨hid.trans hdescends.id, horg.trans hdescends.orgId, hfits⟩

/-- Forms are opened, changed and submitted, under any plans, and saves are accepted or rejected.
**Nothing but the events of the project changes, and each event that it then files is an old one
under its old name, or was emitted by a submission of the run**: it is filed under its own name,
belongs to the project, violates nothing and is consistent. -/
theorem old_or_emitted {s : Settings} (hs : d.session.project.settings = some s)
    {ss : List DeskStep} (hss : ∀ t ∈ ss, t.ByForm) :
    (d.run ss).value.session.project.id = d.session.project.id ∧
      (d.run ss).value.session.project.orgId = d.session.project.orgId ∧
      (d.run ss).value.session.project.name = d.session.project.name ∧
      (d.run ss).value.session.project.others = d.session.project.others ∧
      ∃ s', (d.run ss).value.session.project.settings = some s' ∧ s'.others = s.others ∧
        ∀ name e, s'.events.get? name = some e →
          s.events.get? name = some e ∨
          (d.EmitsIn ss e ∧ e.name = name ∧ e.projectId = d.session.project.id ∧
            e.orgId = d.session.project.orgId ∧ e.violations = [] ∧ e.Consistent) := by
  obtain ⟨hid, horg, hname, hothers, hsettings⟩ := descends_run d hss
  obtain ⟨s', hs', hothers', hevents⟩ := hsettings s hs
  refine ⟨hid, horg, hname, hothers, s', hs', hothers', fun name e he => ?_⟩
  rcases hevents name e he with hold | ⟨hemits, hfiled⟩
  · exact .inl hold
  · exact .inr ⟨hemits, hfiled, hemits.sound hss⟩

/-- An event is renamed, which is rejected at first, and another one is created.  The project
started without the new name, so the event of that name was emitted on the way. -/
theorem old_or_emitted_renameAndCreate :
    ∃ s e, (onAlpha (· = 0)).session.project.settings = some s ∧
      (∀ t ∈ renameAndCreate ++ [.submit .hobby], t.ByForm) ∧
      s.events.get? "Beta" = none ∧
      ((onAlpha (· = 0)).run
        (renameAndCreate ++ [.submit .hobby])).value.session.project.event? "Beta" = some e ∧
      (onAlpha (· = 0)).EmitsIn (renameAndCreate ++ [.submit .hobby]) e := by
  obtain ⟨s, hs⟩ : ∃ s, (onAlpha (· = 0)).session.project.settings = some s := ⟨_, rfl⟩
  have hsteps : ∀ t ∈ renameAndCreate ++ [.submit .hobby], t.ByForm := by
    simp [renameAndCreate, DeskStep.ByForm]
  have hnew : s.events.get? "Beta" = none := by
    obtain rfl := Option.some.inj hs
    rfl
  obtain ⟨e, he⟩ : ∃ e, ((onAlpha (· = 0)).run
      (renameAndCreate ++ [.submit .hobby])).value.session.project.event? "Beta" = some e :=
    ⟨_, rfl⟩
  obtain ⟨-, -, -, -, s', hs', -, hevents⟩ := old_or_emitted hs hsteps
  have hfiled : s'.events.get? "Beta" = some e := by
    rw [Project.event?, hs', Option.bind_some] at he
    exact he
  refine ⟨s, e, hs, hsteps, hnew, he, ?_⟩
  rcases hevents "Beta" e hfiled with hold | hemitted
  · rw [hnew] at hold
    cases hold
  · exact hemitted.1

end Desk

end EventDetection
