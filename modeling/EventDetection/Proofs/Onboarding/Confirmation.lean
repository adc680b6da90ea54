import EventDetection.Onboarding.Recorder
import EventDetection.Proofs.Calls
import EventDetection.Proofs.Form.Validation
import EventDetection.Proofs.Onboarding.Selection

/-!
# What onboarding sends

A selection is sent if there was something to select from and every selected candidate passes the
check of a form.  That check derives the score of a candidate anew, but the candidate is sent as
it is, so that a score with bounds of its own gets through.

* `Onboarding.Sends`: when confirming calls the sink.
* `Onboarding.value_confirm_of_sends`, `Onboarding.value_confirm_of_not_sends`: what is answered,
  for any sink, and why nothing is sent (`Onboarding.refusal`).
* `Onboarding.value_confirmAndEmit_of_sends`: feedback follows what was sent.
* `Onboarding.calls_confirm`: **the selection is sent once, or nothing is.**
* `Onboarding.sent_consistent_iff`: what is sent is consistent exactly if the candidates were that
  can be sent; those of a template are.
* `Onboarding.sends_inconsistent`: a candidate that is not.
-/

namespace EventDetection.Onboarding

variable {σ : Type} {o : Onboarding}

/-! ### Confirming -/

/-- There is something to select from, and what is selected fits. -/
def Sends (o : Onboarding) : Prop := o.candidates ≠ [] ∧ ∀ d ∈ o.selected, d.violations = []

instance (o : Onboarding) : Decidable o.Sends := inferInstanceAs (Decidable (_ ∧ _))

/-- What is answered once the selection was sent. -/
def outcome (o : Onboarding) (saved : Except String Unit) : Outcome where
  redirectTo := o.redirectTo
  savedCount := if saved.isOk then o.selected.length else 0
  saveError := match saved with
    | .ok () => none
    | .error reason => some reason
  feedback := (o.feedbackOn o.selected).value

theorem canConfirm_of_ne_nil (h : o.candidates ≠ []) : o.canConfirm = true := by
  rw [canConfirm, List.isEmpty_eq_false_iff.2 h, Bool.not_false]

theorem value_confirm_of_sends (h : o.Sends) (sink : EventSink σ) (w : σ) :
    (o.confirm sink w).value =
      let saved := (sink.addEvents o.projectId o.selected w).value
      (.ok (o.outcome saved.1), saved.2) := by
  obtain ⟨hcandidates, hfits⟩ := h
  have hconfirm := canConfirm_of_ne_nil hcandidates
  have hnone : o.selected.flatMap Definition.violations = [] := List.flatMap_eq_nil_iff.2 hfits
  rcases hsent : sink.addEvents o.projectId o.selected w with ⟨⟨saved, w'⟩, log⟩
  simp only [confirm, hconfirm, hnone, List.isEmpty_nil, Bool.not_true, Bool.false_eq_true,
    ↓reduceIte, bind, StateT.bind, hsent]
  cases saved with
  | ok u => rfl
  | error reason => rfl

theorem value_confirm_of_empty (h : o.candidates = []) (sink : EventSink σ) (w : σ) :
    (o.confirm sink w).value = (.error .nothingToConfirm, w) := by
  simp only [confirm, canConfirm, h, List.isEmpty_nil, Bool.not_true, Bool.not_false, ↓reduceIte]
  rfl

theorem value_confirm_of_violations (hcandidates : o.candidates ≠ [])
    (h : o.selected.flatMap Definition.violations ≠ []) (sink : EventSink σ) (w : σ) :
    (o.confirm sink w).value =
      (.error (.validation (o.selected.flatMap Definition.violations)), w) := by
  have hconfirm := canConfirm_of_ne_nil hcandidates
  simp only [confirm, hconfirm, List.isEmpty_eq_false_iff.2 h, Bool.not_true, Bool.not_false,
    Bool.false_eq_true, ↓reduceIte]
  rfl

/-- Why nothing is sent. -/
def refusal (o : Onboarding) : SetupError :=
  if o.candidates = [] then .nothingToConfirm
  else .validation (o.selected.flatMap Definition.violations)

theorem value_confirm_of_not_sends (h : ¬ o.Sends) (sink : EventSink σ) (w : σ) :
    (o.confirm sink w).value = (.error o.refusal, w) := by
  rw [refusal]
  by_cases hcandidates : o.candidates = []
  · rw [if_pos hcandidates, value_confirm_of_empty hcandidates]
  · have hviolated : o.selected.flatMap Definition.violations ≠ [] :=
      fun hnone => h ⟨hcandidates, List.flatMap_eq_nil_iff.1 hnone⟩
    rw [if_neg hcandidates, value_confirm_of_violations hcandidates hviolated]

/-- **The selection is sent once, or nothing is.** -/
theorem calls_confirm (o : Onboarding) (sink : EventSink σ) (w : σ)
    (calls : List (String × List Definition)) :
    (o.confirm sink.recorded (w, calls)).value.2.2 =
      calls ++ if o.Sends then [(o.projectId, o.selected)] else [] := by
  by_cases h : o.Sends
  · rw [value_confirm_of_sends h, if_pos h]
    rfl
  · rw [value_confirm_of_not_sends h, if_neg h, List.append_nil]

theorem mem_calls_confirm {sink : EventSink σ} {w : σ} {call : String × List Definition} :
    call ∈ (o.confirm sink.recorded (w, [])).value.2.2 ↔
      o.Sends ∧ call = (o.projectId, o.selected) := by
  rw [calls_confirm, List.nil_append]
  by_cases h : o.Sends
  · rw [if_pos h, List.mem_singleton, and_iff_right h]
  · rw [if_neg h]
    exact iff_of_false List.not_mem_nil fun hcall => h hcall.1

/-! ### Feedback -/

/-- Feedback goes to its own sink, once, if there is any. -/
theorem value_emit (r : Outcome) (sink : FeedbackSink σ) (w : σ) :
    (r.emit sink w).value = ((), match r.feedback with
      | some f => (sink.send f w).value.2
      | none => w) := by
  rw [Outcome.emit]
  cases r.feedback with
  | none => rfl
  | some f =>
    rw [Action.value_bind]
    cases (sink.send f w).value.1 <;> rfl

theorem value_confirmAndEmit_of_sends (h : o.Sends) (events : EventSink σ)
    (feedback : FeedbackSink σ) (w : σ) :
    (o.confirmAndEmit events feedback w).value =
      let saved := (events.addEvents o.projectId o.selected w).value
      (.ok (o.outcome saved.1), ((o.outcome saved.1).emit feedback saved.2).value.2) := by
  rw [confirmAndEmit, Action.value_bind, value_confirm_of_sends h]
  rfl

/-! ### The scores that are sent -/

/-- A candidate can be sent if all candidates of its name fit. -/
theorem sends_otherNames {cs : List Definition} {d : Definition} (hd : d ∈ cs)
    (hfits : ∀ c ∈ cs, c.name = d.name → c.violations = []) :
    ((otherNames cs d.name).foldl toggle (o.setCandidates cs)).Sends := by
  constructor
  · rw [candidates_foldl_toggle]
    exact List.ne_nil_of_mem hd
  · intro c hc
    obtain ⟨hmem, hname⟩ := (mem_selected_otherNames o).1 hc
    exact hfits c hmem hname

/-- A flag belongs to a name, so that candidates of one name are selected together. -/
theorem mem_selected_of_name {cs : List Definition} {names : List String} {c d : Definition}
    (hd : d ∈ (names.foldl toggle (o.setCandidates cs)).selected) (hc : c ∈ cs)
    (hname : c.name = d.name) : c ∈ (names.foldl toggle (o.setCandidates cs)).selected := by
  rw [selected_foldl_toggle, List.mem_filter] at hd ⊢
  refine ⟨hc, ?_⟩
  rw [hname]
  exact hd.2

/-- Candidates are set and names are toggled.  **What is then sent has consistent scores, whatever
was toggled, exactly if** each candidate of the language model has one that can be sent, which is
if all candidates of its name fit.  The scores of the events of a template are consistent. -/
theorem sent_consistent_iff (o : Onboarding) (cs : List Definition) (sink : EventSink σ) (w : σ) :
    ((∀ names : List String,
        ∀ call ∈ ((names.foldl toggle (o.setCandidates cs)).confirm sink.recorded
          (w, [])).value.2.2,
        ∀ d ∈ call.2, d.engine = .llm → d.Consistent) ↔
      ∀ d ∈ cs, d.engine = .llm → (∀ c ∈ cs, c.name = d.name → c.violations = []) →
        d.Consistent) ∧
    ∀ (template : String) (names : List String),
      ∀ call ∈ ((names.foldl toggle (o.selectTemplate template).value).confirm sink.recorded
        (w, [])).value.2.2,
      ∀ d ∈ call.2, d.Consistent := by
  refine ⟨⟨?_, ?_⟩, ?_⟩
  · intro hall d hd hengine hfits
    have hsends := sends_otherNames (o := o) hd hfits
    refine hall (otherNames cs d.name) _ (mem_calls_confirm.2 ⟨hsends, rfl⟩) d ?_ hengine
    exact (mem_selected_otherNames o).2 ⟨hd, rfl⟩
  · intro hall names call hcall d hd hengine
    obtain ⟨⟨-, hfits⟩, rfl⟩ := mem_calls_confirm.1 hcall
    have hmem : d ∈ cs := by
      rw [selected_foldl_toggle] at hd
      exact (List.mem_filter.1 hd).1
    refine hall d hmem hengine fun c hc hname => ?_
    exact hfits c (mem_selected_of_name hd hc hname)
  · intro template names call hcall d hd
    obtain ⟨-, rfl⟩ := mem_calls_confirm.1 hcall
    change d ∈ (names.foldl toggle (setCandidates _ _)).selected at hd
    rw [selected_foldl_toggle] at hd
    exact Template.consistent_of_mem (List.mem_filter.1 hd).1

/-! ### A score with bounds of its own -/

/-- A candidate of the language model that is sure up to five. -/
def surest : Definition where
  projectId := "p1"
  orgId := "o1"
  name := "Refund"
  description := "The user asks about a refund."
  score := some ⟨.confidence, 0, 5, []⟩

/-- It is the only candidate of a new project. -/
def onSurest : Onboarding :=
  setCandidates { projectId := "p1", orgId := "o1", taskId := none, telemetryProjectId := "t1" }
    [surest]

/-- The candidate passes the check, for a confidence can always be derived, and it is sent with the
bounds that it came with. -/
theorem sends_inconsistent :
    (onSurest.confirm (Recorder.eventSink false) {}).value.2.calls = [("p1", [surest])] ∧
      surest.engine = .llm ∧ ¬ surest.Consistent ∧
      ScoreRange.derive .confidence (.list []) = .ok ⟨.confidence, 0, 1, []⟩ := by
  decide +kernel

end EventDetection.Onboarding
