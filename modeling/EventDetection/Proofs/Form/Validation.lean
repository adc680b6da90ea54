import EventDetection.Catalog.Template
import EventDetection.Proofs.Form.Submission
import EventDetection.Proofs.Score.Range

/-!
# What validation lets through

A definition that is built elsewhere is checked as if it had been typed into a form.  What the
form itself describes passes that check, since its score was derived before.

* `Definition.violations_eq`: the check is the one of the form.
* `Definition.Consistent`: the score is what its own type and labels give.
* `FormValues.checkScore_fst_eq_some_iff`: the score that is described is the one that is derived.
* `FormValues.checkScore_ofDefinition`: a consistent score is derived again.
* `FormValues.violations_definition`, `FormValues.consistent_definition`: **what the form lets
  through** violates nothing and is consistent.
* `Template.forall_of_mem`: the events of a template are the same in every project.
* `Template.violations_of_mem`, `Template.consistent_of_mem`: **they violate nothing and are
  consistent.**
-/

namespace EventDetection

namespace Definition

/-- The score is left out, or is what its own type and labels give. -/
def Consistent (d : Definition) : Prop := ∀ s, d.score = some s → s.isConsistent = true

instance (d : Definition) : Decidable d.Consistent :=
  decidable_of_iff (d.score.all ScoreRange.isConsistent = true) <| by
    unfold Consistent
    cases d.score with
    | none => simp
    | some s => simp

theorem violations_eq (d : Definition) : d.violations = (FormValues.ofDefinition d).violations := by
  rw [violations, FormValues.validate_eq]
  by_cases h : (FormValues.ofDefinition d).violations = []
  · rw [if_pos h, h]
  · rw [if_neg h]

end Definition

namespace FormValues

variable {v : FormValues} {s : ScoreRange}

/-- **The score that is described is the one that is derived** from the values. -/
theorem checkScore_fst_eq_some_iff :
    v.checkScore.1 = some s ↔ ∃ input, v.score = some input ∧ input.derive = .ok s := by
  rw [checkScore]
  cases v.score with
  | none => exact iff_of_false nofun fun ⟨_, h, _⟩ => nomatch h
  | some input =>
    dsimp only
    cases hderive : input.derive with
    | ok r =>
      simp only [Option.some.injEq, exists_eq_left', hderive, Except.ok.injEq]
    | error e =>
      simp only [Option.some.injEq, exists_eq_left', hderive, reduceCtorEq, iff_false]
      cases v.engine <;> exact nofun

theorem consistent_definition (v : FormValues) (projectId orgId : String) :
    (v.definition projectId orgId).Consistent := by
  intro s hs
  obtain ⟨input, -, hinput⟩ := checkScore_fst_eq_some_iff.1 hs
  exact ScoreRange.isConsistent_of_derive hinput

/-- **A consistent score is derived again**, and nothing is wrong with it. -/
theorem checkScore_ofDefinition {d : Definition} (h : d.Consistent) :
    (ofDefinition d).checkScore = (d.score, []) := by
  have hscore : (ofDefinition d).score = d.score.map ScoreInput.ofRange := rfl
  rw [checkScore, hscore]
  cases hs : d.score with
  | none => rfl
  | some s =>
    have hagain : (ScoreInput.ofRange s).derive = .ok s :=
      ScoreRange.isConsistent_iff_derive.1 (h s hs)
    simp only [Option.map_some, hagain]

/-- Nothing but the lengths can be wrong where the score is consistent. -/
theorem violations_ofDefinition_of_consistent {d : Definition} (h : d.Consistent) :
    (ofDefinition d).violations =
      checkLength minName maxName .nameTooShort .nameTooLong d.name ++
        checkLength minDescription maxDescription .descriptionTooShort .descriptionTooLong
          d.description := by
  rw [violations, checkScore_ofDefinition h, List.append_nil]
  rfl

theorem violations_definition (hv : v.violations = []) (projectId orgId : String) :
    (v.definition projectId orgId).violations = [] := by
  rw [violations, List.append_eq_nil_iff] at hv
  rw [Definition.violations_eq,
    violations_ofDefinition_of_consistent (consistent_definition v projectId orgId)]
  exact hv.1

end FormValues

namespace Template

variable {t : Template} {projectId orgId : String} {d : Definition}

/-- The events of a template differ from project to project only in where they belong. -/
theorem definitions_eq_map (t : Template) (projectId orgId : String) :
    t.definitions projectId orgId =
      (t.definitions "" "").map fun d => { d with projectId := projectId, orgId := orgId } := by
  cases t <;> rfl

/-- What holds of the events of a template in one project holds in every project. -/
theorem forall_of_mem {P : Definition → Prop} (hall : ∀ e ∈ t.definitions "" "", P e)
    (hmoved : ∀ e : Definition, P e → P { e with projectId := projectId, orgId := orgId })
    (h : d ∈ t.definitions projectId orgId) : P d := by
  rw [definitions_eq_map] at h
  obtain ⟨e, he, rfl⟩ := List.mem_map.1 h
  exact hmoved e (hall e he)

/-- The events of a template can be submitted as they are. -/
theorem sound_of_mem {e : Definition} (he : e ∈ t.definitions "" "") :
    (FormValues.ofDefinition e).violations = [] ∧ e.Consistent ∧ e.others = Dict.empty := by
  have hall : ∀ e ∈ t.definitions "" "", (FormValues.ofDefinition e).violations = [] ∧
      e.Consistent ∧ e.others = Dict.empty := by
    cases t <;> decide +kernel
  exact hall e he

theorem violations_of_mem (h : d ∈ t.definitions projectId orgId) : d.violations = [] := by
  rw [Definition.violations_eq]
  exact forall_of_mem (fun _ he => (sound_of_mem he).1) (fun _ he => he) h

theorem consistent_of_mem (h : d ∈ t.definitions projectId orgId) : d.Consistent :=
  forall_of_mem (fun _ he => (sound_of_mem he).2.1) (fun _ he => he) h

theorem others_of_mem (h : d ∈ t.definitions projectId orgId) : d.others = Dict.empty :=
  forall_of_mem (fun _ he => (sound_of_mem he).2.2) (fun _ he => he) h

end Template

end EventDetection
