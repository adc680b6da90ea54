import EventDetection.Proofs.Form.Submission
import EventDetection.Session.Sample

/-!
# What a submission reports

A submission tells which name it gave up and which definition it replaced.  All that it changes in
the project can be read off that report: the name of the definition, the name that was given up,
and nothing else.

* `Form.overwritten_file`: the definition that is replaced is the one that was filed, also where
  another name is given up first.
* `Form.count_file_of_filed`: the number of events in terms of the report.
* `Form.changes_as_reported`: **a submission changes what it reports**, and nothing else.
-/

namespace EventDetection.Form

variable {f : Form} {d : Definition} {s : Settings}

/-- The name that is given up is another one, so that its removal does not hide what is
replaced. -/
theorem overwritten_file (f : Form) (d : Definition) (s : Settings) :
    (f.file d s).2 = s.events.get? d.name := by
  cases hr : f.renamedFrom d with
  | none => simp only [file, hr, Settings.insertEvent]
  | some old =>
    have hne : d.name ≠ old := (renamedFrom_ne hr).symm
    simp only [file, hr, Settings.insertEvent, Settings.removeEvent, Dict.get?_erase_of_ne _ hne]

/-- A name that is given up was filed, if the edited event was. -/
theorem isSome_bind_renamedFrom
    (hfiled : ∀ e, f.editing = some e → (s.events.get? e.name).isSome) (d : Definition) :
    ((f.renamedFrom d).bind s.events.get?).isSome = (f.renamedFrom d).isSome := by
  cases hr : f.renamedFrom d with
  | none => rfl
  | some old =>
    obtain ⟨e, he, rfl, -⟩ := renamedFrom_eq_some_iff.1 hr
    rw [Option.bind_some, hfiled e he, Option.isSome_some]

/-- **One event more, less the one that is renamed and the one that is replaced**, if the edited
event was filed. -/
theorem count_file_of_filed
    (hfiled : ∀ e, f.editing = some e → (s.events.get? e.name).isSome) (d : Definition) :
    (f.file d s).1.count + (if (f.renamedFrom d).isSome then 1 else 0) +
        (if (f.file d s).2.isSome then 1 else 0) = s.count + 1 := by
  have hcount := count_file f d s
  rw [isSome_bind_renamedFrom hfiled] at hcount
  rw [overwritten_file, hcount]
  cases s.events.get? d.name with
  | none => rfl
  | some old => rfl

/-- A submission that goes through reports the name of the edited event exactly if the definition
has another one, and the definition that was filed under its name.  **It changes what it reports**:
the definition is filed under its name, the name that is reported is given up, and all else in
the project is as it was.  If the form is new, or edits an event that is filed, then the number
of events goes up by one, less one for each of the two things that are reported. -/
theorem changes_as_reported {f : Form} {q : Project} {p : Plan} {sub : Submission}
    (h : (f.plan q p).value.1 = .ok sub) :
    (∀ name, sub.renamedFrom = some name ↔
      ∃ e, f.editing = some e ∧ e.name = name ∧ e.name ≠ sub.definition.name) ∧
    ∃ s t, q.settings = some s ∧ sub.next = { q with settings := some t } ∧
      t.others = s.others ∧
      t.events.get? sub.definition.name = some sub.definition ∧
      (∀ name, sub.renamedFrom = some name → t.events.get? name = none) ∧
      (∀ name, name ≠ sub.definition.name → sub.renamedFrom ≠ some name →
        t.events.get? name = s.events.get? name) ∧
      sub.overwritten = s.events.get? sub.definition.name ∧
      ((∀ e, f.editing = some e → (s.events.get? e.name).isSome) →
        t.count + (if sub.renamedFrom.isSome then 1 else 0) +
          (if sub.overwritten.isSome then 1 else 0) = s.count + 1) := by
  rw [value_plan] at h
  obtain ⟨-, s, hs, -, rfl⟩ := outcome_eq_ok_iff.1 h
  have hrenamed :
      (f.submission q s).renamedFrom = f.renamedFrom (f.submission q s).definition := rfl
  refine ⟨fun name => ?_, s, (f.file (f.submission q s).definition s).1, hs, rfl, others_file _ _ _,
    ?_, fun name hname => ?_, fun name hname hold => ?_, overwritten_file _ _ _, fun hfiled => ?_⟩
  · rw [hrenamed, renamedFrom_eq_some_iff]
    constructor
    · rintro ⟨e, he, rfl, hne⟩
      exact ⟨e, he, rfl, hne⟩
    · rintro ⟨e, he, rfl, hne⟩
      exact ⟨e, he, rfl, hne⟩
  · rw [get?_file, if_pos rfl]
  · rw [hrenamed] at hname
    rw [get?_file, if_neg (renamedFrom_ne hname), if_pos hname]
  · rw [hrenamed] at hold
    rw [get?_file, if_neg hname, if_neg hold]
  · exact count_file_of_filed hfiled _

/-! ### A name that is taken over -/

/-- A project with two events. -/
def pair : Project := .sample "p1" ["Alpha", "Beta"]

/-- The form of the first one, with the name of the second one. -/
def takingOver : Form :=
  let f := edit
    { projectId := "p1", orgId := "o1", name := "Alpha", description := "Description of Alpha" }
  { f with values := { f.values with name := "Beta" } }

/-- What submitting it results in. -/
def takenOver : Submission := takingOver.submission pair (pair.settings.getD {})

/-- Both events are reported, one as renamed and one as overwritten, and one of two is left. -/
theorem changes_as_reported_takenOver :
    (takingOver.plan pair .hobby).value.1 = .ok takenOver ∧
      takenOver.renamedFrom = some "Alpha" ∧ takenOver.next.event? "Alpha" = none ∧
      takenOver.overwritten = pair.event? "Beta" ∧ (pair.event? "Beta").isSome ∧
      pair.eventCount = 2 ∧ takenOver.next.eventCount = 1 := by
  have hplan : (takingOver.plan pair .hobby).value.1 = .ok takenOver := rfl
  have hfiled : (pair.event? "Alpha").isSome ∧ (pair.event? "Beta").isSome ∧
      pair.eventCount = 2 := by decide +kernel
  obtain ⟨hrenamed, s, t, hs, hnext, -, -, hgone, -, hover, hcount⟩ := changes_as_reported hplan
  have hold : takenOver.renamedFrom = some "Alpha" :=
    (hrenamed "Alpha").2 ⟨_, rfl, rfl, by decide⟩
  have hevents (name : String) : pair.event? name = s.events.get? name := by
    rw [Project.event?, hs, Option.bind_some]
  have hbeta : takenOver.overwritten = pair.event? "Beta" := hover.trans (hevents "Beta").symm
  have hleft := hcount fun e he => by
    obtain rfl := Option.some.inj he
    rw [← hevents]
    exact hfiled.1
  have htwo : pair.eventCount = s.count := by
    rw [Project.eventCount, hs, Option.map_some, Option.getD_some]
  rw [hold, hbeta, Option.isSome_some, if_pos rfl, if_pos hfiled.2.1, ← htwo, hfiled.2.2] at hleft
  refine ⟨hplan, hold, ?_, hbeta, hfiled.2.1, hfiled.2.2, ?_⟩
  · rw [hnext, Project.event?, Option.bind_some]
    exact hgone "Alpha" hold
  · rw [hnext, Project.eventCount, Option.map_some, Option.getD_some]
    omega

end EventDetection.Form
