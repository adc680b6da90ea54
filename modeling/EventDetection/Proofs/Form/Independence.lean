import EventDetection.Proofs.Form.Report

/-!
# Independent submissions

A submission reads and writes the entries of two names at most, and beside these it looks at the
number of events.  So two forms with different names do not get in each other's way as long as
there is room for both of them.

* `Form.Touches`: the names of a form.
* `Form.get?_file_of_not_touches`, `Form.file_file_comm`: filing leaves all other names alone, so
  that two definitions can be filed in either order.
* `Form.value_plan_of_room`: a form that fits goes through where there is room.
* `Form.plans_commute`: **two submissions with different names can be made in either order.**
-/

namespace EventDetection

/-- Two submissions tell the same of what they file, give up and replace. -/
def Submission.SameReport (a b : Submission) : Prop :=
  a.definition = b.definition ∧ a.renamedFrom = b.renamedFrom ∧ a.overwritten = b.overwritten

namespace Form

/-- The names of a form: the one that it submits, and the one of the event that it edits. -/
def Touches (f : Form) (name : String) : Prop :=
  name = f.values.name ∨ ∃ e, f.editing = some e ∧ name = e.name

variable {f g : Form} {q : Project} {s : Settings} {p : Plan}

/-! ### Filing -/

theorem get?_file_of_not_touches {name : String} (h : ¬ f.Touches name) (i o : String)
    (s : Settings) :
    (f.file (f.values.definition i o) s).1.events.get? name = s.events.get? name := by
  have hnew : name ≠ (f.values.definition i o).name := fun hname => h (.inl hname)
  have hold : f.renamedFrom (f.values.definition i o) ≠ some name := by
    intro hren
    obtain ⟨e, he, rfl, -⟩ := renamedFrom_eq_some_iff.1 hren
    exact h (.inr ⟨e, he, rfl⟩)
  rw [get?_file, if_neg hnew, if_neg hold]

/-- What is found under a name afterwards depends on what was found under it before. -/
theorem get?_file_congr {t : Settings} {name : String} (d : Definition)
    (h : s.events.get? name = t.events.get? name) :
    (f.file d s).1.events.get? name = (f.file d t).1.events.get? name := by
  rw [get?_file, get?_file, h]

/-- **Two definitions can be filed in either order** if their forms have no name in common. -/
theorem file_file_comm (hdisjoint : ∀ name, f.Touches name → ¬ g.Touches name) (i o : String)
    (s : Settings) :
    (g.file (g.values.definition i o) (f.file (f.values.definition i o) s).1).1 =
      (f.file (f.values.definition i o) (g.file (g.values.definition i o) s).1).1 := by
  refine Settings.ext (Dict.ext_get? fun name => ?_) ?_
  · by_cases hf : f.Touches name
    · have hg : ¬ g.Touches name := hdisjoint name hf
      rw [get?_file_of_not_touches hg]
      exact get?_file_congr _ (get?_file_of_not_touches hg i o s).symm
    · rw [get?_file_of_not_touches hf]
      exact get?_file_congr _ (get?_file_of_not_touches hf i o s)
  · rw [others_file, others_file, others_file, others_file]

/-! ### Submissions -/

theorem value_plan_of_room (hf : f.values.violations = []) (hs : q.settings = some s)
    (hroom : f.editing = none → s.count < p.quota) :
    (f.plan q p).value.1 = .ok (f.submission q s) := by
  rw [value_plan]
  exact outcome_eq_ok_iff.2 ⟨hf, s, hs, hroom, rfl⟩

/-- Where there is room for two events there is room for one after the first. -/
theorem lt_quota_of_room (hroom : s.count + 2 ≤ p.quota ∨ f.isEditing) {t : Settings}
    (ht : t.count ≤ s.count + 1) (hnew : f.editing = none) : t.count < p.quota := by
  rcases hroom with hroom | hediting
  · omega
  · rw [isEditing, hnew] at hediting
    exact absurd hediting Bool.false_ne_true

/-- A form reports the same after a submission with other names. -/
theorem sameReport_submission_next (hdisjoint : ∀ name, f.Touches name → ¬ g.Touches name)
    (q : Project) (s : Settings) :
    (f.submission (g.submission q s).next
      (g.file (g.values.definition q.id q.orgId) s).1).SameReport (f.submission q s) := by
  have hname : ¬ g.Touches (f.values.definition q.id q.orgId).name := hdisjoint _ (.inl rfl)
  have hover : (f.file (f.values.definition q.id q.orgId)
      (g.file (g.values.definition q.id q.orgId) s).1).2 =
        (f.file (f.values.definition q.id q.orgId) s).2 := by
    rw [overwritten_file, overwritten_file, get?_file_of_not_touches hname]
  exact ⟨rfl, rfl, hover⟩

/-- Two forms fit, they have no name in common, and the project has room for two more events, or
else both of them edit an event.  **Then they can be submitted one after the other in either
order**, both go through, the project is the same in the end, and each reports what it reports
without the other. -/
theorem plans_commute (hs : q.settings = some s) (hf : f.values.violations = [])
    (hg : g.values.violations = []) (hdisjoint : ∀ name, f.Touches name → ¬ g.Touches name)
    (hroom : s.count + 2 ≤ p.quota ∨ (f.isEditing ∧ g.isEditing)) :
    ∃ a b a' b', (f.plan q p).value.1 = .ok a ∧ (g.plan a.next p).value.1 = .ok b' ∧
      (g.plan q p).value.1 = .ok b ∧ (f.plan b.next p).value.1 = .ok a' ∧
      b'.next = a'.next ∧ a'.SameReport a ∧ b'.SameReport b := by
  have hroomf := hroom.imp_right And.left
  have hroomg := hroom.imp_right And.right
  have hdisjoint' : ∀ name, g.Touches name → ¬ f.Touches name :=
    fun name hname hname' => hdisjoint name hname' hname
  refine ⟨f.submission q s, g.submission q s, _, _,
    value_plan_of_room hf hs (lt_quota_of_room hroomf (Nat.le_succ _)),
    value_plan_of_room hg rfl (lt_quota_of_room hroomg (count_file_le _ _ _)),
    value_plan_of_room hg hs (lt_quota_of_room hroomg (Nat.le_succ _)),
    value_plan_of_room hf rfl (lt_quota_of_room hroomf (count_file_le _ _ _)), ?_,
    sameReport_submission_next hdisjoint q s, sameReport_submission_next hdisjoint' q s⟩
  have hcomm := file_file_comm hdisjoint q.id q.orgId s
  exact congrArg (fun t => { q with settings := some t }) hcomm

/-! ### A rename and a new event -/

/-- A project with one event. -/
def single : Project := .sample "p1" ["Alpha"]

/-- The form of the event, with a new name. -/
def renamed : Form :=
  let f := edit
    { projectId := "p1", orgId := "o1", name := "Alpha", description := "Description of Alpha" }
  { f with values := { f.values with name := "Gamma" } }

/-- The form of a new event. -/
def adding : Form :=
  { create none with values := { name := "Delta", description := "The user asks about prices." } }

theorem not_touches_adding (name : String) (h : renamed.Touches name) : ¬ adding.Touches name := by
  rintro (rfl | ⟨e, he, -⟩)
  · rcases h with hname | ⟨e, he, hname⟩
    · exact absurd hname (by decide)
    · obtain rfl := Option.some.inj he
      exact absurd hname (by decide)
  · exact nomatch he

/-- The event is renamed and another one is added, or the other way round. -/
theorem plans_commute_renamed_adding :
    single.settings = some (single.settings.getD {}) ∧ renamed.values.violations = [] ∧
      adding.values.violations = [] ∧
      (∀ name, renamed.Touches name → ¬ adding.Touches name) ∧
      (single.settings.getD {}).count + 2 ≤ Plan.hobby.quota ∧
      ∃ a b a' b', (renamed.plan single .hobby).value.1 = .ok a ∧
        (adding.plan a.next .hobby).value.1 = .ok b' ∧
        (adding.plan single .hobby).value.1 = .ok b ∧
        (renamed.plan b.next .hobby).value.1 = .ok a' ∧ b'.next = a'.next := by
  have hs : single.settings = some (single.settings.getD {}) := rfl
  have hf : renamed.values.violations = [] := by decide +kernel
  have hg : adding.values.violations = [] := by decide +kernel
  have hroom : (single.settings.getD {}).count + 2 ≤ Plan.hobby.quota := by decide +kernel
  obtain ⟨a, b, a', b', ha, hb', hb, ha', hnext, -⟩ :=
    plans_commute hs hf hg not_touches_adding (.inl hroom)
  exact ⟨hs, hf, hg, not_touches_adding, hroom, a, b, a', b', ha, hb', hb, ha', hnext⟩

end Form

end EventDetection
