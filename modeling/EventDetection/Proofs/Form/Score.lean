import EventDetection.Proofs.Form.Constraints
import EventDetection.Proofs.Form.Validation

/-!
# The score of a form

A form shows the score range that its values give, or why they give none.  The score of its
definition is derived elsewhere, where one that cannot be derived is left out for the engines that
do not read it.  Both go by the type and the labels that were typed in.

* `Form.score_as_shown`: **the score that is shown is the one of the definition**, and the labels
  are found wrong exactly if none is shown to the language model.
* `FormStep.OnScore`: a step that is about the score alone.
* `ScoreInput.Leaves`: what choosing types and typing in labels comes to in the end.
* `Form.score_after_steps`: **the type that was chosen last and the labels that were typed in
  last** are what such steps leave, and they touch nothing else.
-/

namespace EventDetection

/-! ### What is shown -/

namespace Form

variable {f : Form}

theorem derivedScore_eq_some_iff {r : Except DerivationError ScoreRange} :
    f.derivedScore = some r ↔ ∃ s, f.values.score = some s ∧ s.derive = r :=
  Option.map_eq_some_iff

/-- The labels are found wrong where the language model is shown no score, and for the reason that
is shown in its place. -/
theorem faulty_categories_iff {message : String} :
    f.values.Faulty .categories message ↔
      f.values.engine = .llm ∧ ∃ e, f.derivedScore = some (.error e) ∧ e.reason = message := by
  constructor
  · intro h
    cases h with
    | @miscounted s hllm hscore hcount =>
      have hderive : s.derive = .error .categoryCount := ScoreInput.derive_eq_error_iff.2 hcount
      exact ⟨hllm, _, derivedScore_eq_some_iff.2 ⟨s, hscore, hderive⟩, rfl⟩
  · rintro ⟨hllm, e, hshown, rfl⟩
    obtain ⟨s, hscore, hderive⟩ := derivedScore_eq_some_iff.1 hshown
    cases e
    exact .miscounted hllm hscore (ScoreInput.derive_eq_error_iff.1 hderive)

/-- **What is shown is what is submitted**, whatever was done to the form before.  If its values are
accepted, the definition has the score that is shown, and none if none is shown.  The labels are
found wrong exactly if the engine is the language model and the form shows why there is no score,
with the very reason that it shows.  Nothing at all is shown only where no score is typed in. -/
theorem score_as_shown (f : Form) (i o : String) :
    (∀ d, (f.validate i o).value.1 = .ok d →
      ∀ r, d.score = some r ↔ f.derivedScore = some (.ok r)) ∧
    (∀ message,
      (∃ vs, (f.validate i o).value.1 = .error vs ∧
        ∃ x ∈ vs, x.field = .categories ∧ x.message = message) ↔
      f.values.engine = .llm ∧ ∃ e, f.derivedScore = some (.error e) ∧ e.reason = message) ∧
    (f.derivedScore = none ↔ f.values.score = none) := by
  refine ⟨fun d hd r => ?_, fun message => ?_, Option.map_eq_none_iff⟩
  · rw [value_validate, FormValues.validate_eq_ok_iff] at hd
    obtain ⟨-, rfl⟩ := hd
    exact FormValues.checkScore_fst_eq_some_iff.trans derivedScore_eq_some_iff.symm
  · have hexact := (FormValues.reports_violations f.values).exact .categories message
    rw [← faulty_categories_iff, ← hexact, value_validate]
    constructor
    · rintro ⟨vs, hvs, hx⟩
      obtain ⟨rfl, -⟩ := FormValues.validate_eq_error_iff.1 hvs
      exact hx
    · rintro ⟨x, hx, hfield⟩
      have hne : f.values.violations ≠ [] := List.ne_nil_of_mem hx
      exact ⟨_, FormValues.validate_eq_error_iff.2 ⟨rfl, hne⟩, x, hx, hfield⟩

end Form

/-! ### Types and labels, one after the other -/

/-- A score type is chosen, or labels are typed in. -/
inductive FormStep.OnScore : FormStep → Prop
  | scoreType (t : ScoreType) : OnScore (.setScoreType t)
  | categories (c : Categories) : OnScore (.setCategories c)

namespace ScoreInput

/-- What steps leave of a score: the type that was chosen last, and the labels that were typed in
last, unless a type without labels was chosen after them. -/
structure Leaves (s : ScoreInput) (ss : List FormStep) (r : ScoreInput) : Prop where
  chosen : ∀ before t after, ss = before ++ .setScoreType t :: after →
    (∀ t', .setScoreType t' ∉ after) → r.scoreType = t
  unchosen : (∀ t, .setScoreType t ∉ ss) → r.scoreType = s.scoreType
  typed : ∀ before c after, ss = before ++ .setCategories c :: after →
    (∀ c', .setCategories c' ∉ after) → (∀ t, .setScoreType t ∈ after → t = .category) →
    r.categories = c
  dropped : ∀ before t after, ss = before ++ .setScoreType t :: after → t ≠ .category →
    (∀ c, .setCategories c ∉ after) → r.categories = .text ""
  untouched : (∀ c, .setCategories c ∉ ss) → (∀ t, .setScoreType t ∈ ss → t = .category) →
    r.categories = s.categories

/-- The score after a step. -/
def after (s : ScoreInput) : FormStep → ScoreInput
  | .setScoreType .category => { s with scoreType := .category }
  | .setScoreType t => ⟨t, .none⟩
  | .setCategories c => { s with categories := c }
  | _ => s

variable {ss : List FormStep}

theorem scoreType_after_setScoreType (s : ScoreInput) (t : ScoreType) :
    (s.after (.setScoreType t)).scoreType = t := by
  cases t <;> rfl

theorem scoreType_foldl_after (s : ScoreInput) (h : ∀ t, .setScoreType t ∉ ss) :
    (ss.foldl after s).scoreType = s.scoreType := by
  refine List.foldlRecOn (motive := fun r => r.scoreType = s.scoreType) ss after rfl ?_
  intro r hr x hx
  cases x with
  | setScoreType t => exact absurd hx (h t)
  | _ => exact hr

theorem categories_foldl_after (s : ScoreInput) (hlabels : ∀ c, .setCategories c ∉ ss)
    (htypes : ∀ t, .setScoreType t ∈ ss → t = .category) :
    (ss.foldl after s).categories = s.categories := by
  refine List.foldlRecOn (motive := fun r => r.categories = s.categories) ss after rfl ?_
  intro r hr x hx
  cases x with
  | setScoreType t =>
    obtain rfl := htypes t hx
    exact hr
  | setCategories c => exact absurd hx (hlabels c)
  | _ => exact hr

/-- No labels stay no labels until some are typed in, whatever type is chosen. -/
theorem categories_foldl_after_none {s : ScoreInput} (hs : s.categories = .none)
    (hlabels : ∀ c, .setCategories c ∉ ss) : (ss.foldl after s).categories = .none := by
  refine List.foldlRecOn (motive := fun r => r.categories = .none) ss after hs ?_
  intro r hr x hx
  cases x with
  | setScoreType t =>
    cases t with
    | category => exact hr
    | confidence => rfl
    | range => rfl
  | setCategories c => exact absurd hx (hlabels c)
  | _ => exact hr

/-- **The last choice and the last labels count.** -/
theorem leaves_foldl_after (s : ScoreInput) (ss : List FormStep) :
    s.Leaves ss (ss.foldl after s) where
  chosen := by
    rintro before t behind rfl hlast
    rw [List.foldl_append, List.foldl_cons, scoreType_foldl_after _ hlast,
      scoreType_after_setScoreType]
  unchosen := scoreType_foldl_after s
  typed := by
    rintro before c behind rfl hlast htypes
    rw [List.foldl_append, List.foldl_cons, categories_foldl_after _ hlast htypes]
    rfl
  dropped := by
    rintro before t behind rfl ht hlabels
    have hnone (r : ScoreInput) : (r.after (.setScoreType t)).categories = .none := by
      cases t with
      | category => exact absurd rfl ht
      | confidence => rfl
      | range => rfl
    rw [List.foldl_append, List.foldl_cons]
    exact categories_foldl_after_none (hnone _) hlabels
  untouched := categories_foldl_after s

end ScoreInput

namespace Form

/-- A step on the score answers nothing, logs nothing and changes nothing else. -/
theorem step_of_onScore (f : Form) {x : FormStep} (h : x.OnScore) :
    f.step x = ⟨(.done, { f with values := { f.values with
      score := some ((f.values.score.getD {}).after x) } }), []⟩ := by
  cases h with
  | scoreType t => cases t <;> rfl
  | categories c => rfl

theorem run_of_onScore (f : Form) {ss : List FormStep} (hne : ss ≠ [])
    (hss : ∀ x ∈ ss, x.OnScore) :
    f.run ss = ⟨{ f with values := { f.values with
      score := some (ss.foldl ScoreInput.after (f.values.score.getD {})) } }, []⟩ := by
  induction ss generalizing f with
  | nil => exact absurd rfl hne
  | cons x ss ih =>
    have hstep := step_of_onScore f (hss x List.mem_cons_self)
    cases ss with
    | nil =>
      rw [run, hstep]
      rfl
    | cons y ss =>
      have hrest := ih { f with values := { f.values with
        score := some ((f.values.score.getD {}).after x) } } (List.cons_ne_nil y ss)
        fun z hz => hss z (List.mem_cons_of_mem x hz)
      rw [run, hstep]
      exact hrest

/-- Score types are chosen and labels typed in, at least once and in any order.  **The score is
then left with the last type and the last labels**, and nothing else has changed: no other value,
no recorded violation, not the edited event.  A form without a score starts from a yes or no
without labels. -/
theorem score_after_steps (f : Form) {ss : List FormStep} (hne : ss ≠ [])
    (hss : ∀ x ∈ ss, x.OnScore) :
    ∃ r, (f.values.score.getD ⟨.confidence, .text ""⟩).Leaves ss r ∧
      f.run ss = ⟨{ f with values := { f.values with score := some r } }, []⟩ :=
  ⟨_, ScoreInput.leaves_foldl_after _ ss, run_of_onScore f hne hss⟩

/-! ### A change of mind -/

/-- Labels are typed in and dropped for a grade, and other ones are typed in and kept. -/
def changeOfMind : List FormStep :=
  [.setCategories (.text "happy, sad"), .setScoreType .range, .setCategories (.list ["calm"]),
    .setScoreType .category]

/-- A form without a score is left with the category that was chosen last and the label that was
typed in after the grade. -/
theorem score_after_steps_changeOfMind :
    changeOfMind ≠ [] ∧ (∀ x ∈ changeOfMind, x.OnScore) ∧
      ({ values := {} : Form }.run changeOfMind).value.values.score =
        some ⟨.category, .list ["calm"]⟩ := by
  have hne : changeOfMind ≠ [] := nofun
  have hss : ∀ x ∈ changeOfMind, x.OnScore := by
    intro x hx
    simp only [changeOfMind, List.mem_cons, List.not_mem_nil, or_false] at hx
    rcases hx with rfl | rfl | rfl | rfl
    · exact .categories _
    · exact .scoreType _
    · exact .categories _
    · exact .scoreType _
  obtain ⟨⟨t, c⟩, hleaves, hrun⟩ := score_after_steps { values := {} } hne hss
  have ht : t = .category := hleaves.chosen (changeOfMind.take 3) _ [] rfl nofun
  have hc : c = .list ["calm"] :=
    hleaves.typed (changeOfMind.take 2) _ [.setScoreType .category] rfl (by simp) (by simp)
  refine ⟨hne, hss, ?_⟩
  rw [hrun, ht, hc]

end Form

end EventDetection
