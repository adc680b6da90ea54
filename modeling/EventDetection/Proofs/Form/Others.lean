import EventDetection.Proofs.Dict
import EventDetection.Proofs.Form.Submission

/-!
# Members that a form does not know

A definition keeps the members that are not modelled here, but a form holds values for
the modelled ones only.  What is submitted is built from the values alone, so an edited
event comes out without its other members.

* `Form.event?_submission`: what is filed is the definition that the values describe.
* `Form.others_kept_iff`: **an edit keeps the other members of its event exactly if there
  are none.**
* `Form.others_lost`: an event that loses one.
-/

namespace EventDetection

namespace Form

theorem event?_submission (f : Form) (q : Project) (s : Settings) :
    (f.submission q s).next.event? (f.submission q s).definition.name =
      some (f.values.definition q.id q.orgId) := by
  simp only [submission, Project.event?, Option.bind_some, get?_file, ↓reduceIte]

/-- Whatever is done to the form of an event, what is filed for the event has neither an id nor a
job, and the other members of the event are kept exactly if there are none. -/
theorem others_kept_iff {q : Project} {e : Definition} {ss : List FormStep} {p : Plan}
    {sub : Submission}
    (h : (((edit e).run ss).value.plan q p).value.1 = .ok sub) :
    ∃ d, sub.next.event? sub.definition.name = some d ∧ d.id = none ∧ d.jobId = none ∧
      ((∀ name v, e.others.get? name = some v → d.others.get? name = some v) ↔
        e.others = Dict.empty) := by
  rw [value_plan] at h
  obtain ⟨-, s, hs, -, rfl⟩ := outcome_eq_ok_iff.1 h
  refine ⟨_, event?_submission _ q s, rfl, rfl, ?_⟩
  constructor
  · intro hkept
    refine Dict.eq_empty_of_get? fun name v hv => ?_
    exact nomatch hkept name v hv
  · intro hnone name v hv
    rw [hnone] at hv
    exact nomatch hv

/-! ### An event that loses a member -/

/-- An event with a member that is not modelled. -/
def severe : Definition where
  projectId := "p1"
  orgId := "o1"
  name := "Alpha"
  description := "Description of Alpha"
  others := Dict.empty.insert "severity" (.string "high")

/-- The project that files it. -/
def severeProject : Project where
  id := "p1"
  orgId := "o1"
  settings := some (({} : Settings).insertEvent severe).1

/-- What the form of the event, submitted as it is, results in. -/
def severeSubmission : Submission :=
  (edit severe).submission severeProject (({} : Settings).insertEvent severe).1

/-- The event is opened and submitted without a change, and its other member is gone. -/
theorem others_lost :
    severeProject.event? "Alpha" = some severe ∧
      severe.others.get? "severity" = some (.string "high") ∧
      ((edit severe).plan severeProject .hobby).value.1 = .ok severeSubmission ∧
      (severeSubmission.next.event? "Alpha").map (fun d => d.others.get? "severity") =
        some none := by
  refine ⟨?_, ?_, ?_, ?_⟩ <;> rfl

theorem others_kept_iff_severe :
    (((edit severe).run []).value.plan severeProject .hobby).value.1 = .ok severeSubmission ∧
      ∃ d, severeSubmission.next.event? severeSubmission.definition.name = some d ∧
        ¬ ∀ name v, severe.others.get? name = some v → d.others.get? name = some v := by
  have hplan : (((edit severe).run []).value.plan severeProject .hobby).value.1 =
      .ok severeSubmission := rfl
  obtain ⟨d, hd, -, -, hkept⟩ := others_kept_iff hplan
  exact ⟨hplan, d, hd, fun h => absurd (hkept.1 h) (by decide)⟩

end Form

end EventDetection
