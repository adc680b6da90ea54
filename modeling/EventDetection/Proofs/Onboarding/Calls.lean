import EventDetection.Onboarding.Step
import EventDetection.Proofs.Onboarding.Confirmation

/-!
# Confirming from end to end

Confirming calls two sinks at most: the one for events, once, if the selection can be sent, and
after it the one for feedback, once, if there is a task that the feedback belongs to.  What is
answered depends on what the first of them says, and on nothing that the second one does.

* `Onboarding.answer_confirmAndEmit`: **the answer does not depend on the sink for feedback**
  (`Onboarding.answer`); `Onboarding.answer_eq_nothingToConfirm_iff` and
  `Onboarding.answer_eq_validation_iff` say when it is a refusal.
* `Onboarding.value_confirmAndEmit_noted`: which calls are made (`Onboarding.callsMade`).
* `Onboarding.confirm_settles`: all that confirming does, whatever the sinks do.
-/

namespace EventDetection.Onboarding

variable {σ : Type} {o : Onboarding}

/-! ### Answers -/

theorem value_feedbackOn (o : Onboarding) (selected : List Definition) :
    (o.feedbackOn selected).value =
      o.taskId.map fun t => .onSelection t o.telemetryProjectId selected := by
  rw [feedbackOn]
  cases o.taskId <;> rfl

/-- A selection that is not sent reaches neither sink. -/
theorem value_confirmAndEmit_of_not_sends (h : ¬ o.Sends) (events : EventSink σ)
    (feedback : FeedbackSink σ) (w : σ) :
    (o.confirmAndEmit events feedback w).value = (.error o.refusal, w) := by
  rw [confirmAndEmit, Action.value_bind, value_confirm_of_not_sends h]
  rfl

/-- What confirming answers, once it is known what the sink for events says. -/
def answer (o : Onboarding) (saved : Except String Unit) : Except SetupError Outcome :=
  if o.Sends then .ok (o.outcome saved) else .error o.refusal

theorem answer_eq_error_iff {saved : Except String Unit} {e : SetupError} :
    o.answer saved = .error e ↔ ¬ o.Sends ∧ e = o.refusal := by
  rw [answer]
  by_cases h : o.Sends
  · rw [if_pos h]
    exact iff_of_false nofun fun hrefused => hrefused.1 h
  · rw [if_neg h, Except.error.injEq, and_iff_right h, eq_comm]

/-- There is nothing to select from, or else something selected violates a constraint. -/
theorem answer_eq_nothingToConfirm_iff {saved : Except String Unit} :
    o.answer saved = .error .nothingToConfirm ↔ o.candidates = [] := by
  rw [answer_eq_error_iff, refusal]
  by_cases hcandidates : o.candidates = []
  · rw [if_pos hcandidates]
    exact iff_of_true ⟨fun hsends => hsends.1 hcandidates, rfl⟩ hcandidates
  · rw [if_neg hcandidates]
    refine iff_of_false (fun hrefused => ?_) hcandidates
    cases hrefused.2

theorem answer_eq_validation_iff {saved : Except String Unit} {vs : List Violation} :
    o.answer saved = .error (.validation vs) ↔
      o.candidates ≠ [] ∧ (∃ d ∈ o.selected, d.violations ≠ []) ∧
        vs = o.selected.flatMap Definition.violations := by
  rw [answer_eq_error_iff, refusal]
  by_cases hcandidates : o.candidates = []
  · rw [if_pos hcandidates]
    refine iff_of_false (fun hrefused => ?_) fun h => h.1 hcandidates
    cases hrefused.2
  · have hsends : ¬ o.Sends ↔ ∃ d ∈ o.selected, d.violations ≠ [] := by
      rw [Sends, and_iff_right hcandidates, not_forall₂]
      simp only [exists_prop]
    rw [if_neg hcandidates, SetupError.validation.injEq, hsends, and_iff_right hcandidates]

/-- **The answer does not depend on the sink for feedback.** -/
theorem answer_confirmAndEmit (o : Onboarding) (events : EventSink σ) (feedback : FeedbackSink σ)
    (w : σ) :
    (o.confirmAndEmit events feedback w).value.1 =
      o.answer (events.addEvents o.projectId o.selected w).value.1 := by
  rw [answer]
  by_cases h : o.Sends
  · rw [if_pos h, value_confirmAndEmit_of_sends h]
  · rw [if_neg h, value_confirmAndEmit_of_not_sends h]

/-! ### Calls -/

/-- The calls that confirming makes. -/
def callsMade (o : Onboarding) : List SinkCall :=
  if o.Sends then
    .addEvents o.projectId o.selected :: ((o.feedbackOn o.selected).value.map .send).toList
  else []

theorem callsMade_eq_nil_iff : o.callsMade = [] ↔ ¬ o.Sends := by
  rw [callsMade]
  by_cases h : o.Sends
  · rw [if_pos h]
    exact iff_of_false (List.cons_ne_nil _ _) (not_not_intro h)
  · rw [if_neg h]
    exact iff_of_true rfl h

theorem value_emit_noted (r : Outcome) (feedback : FeedbackSink σ) (w : σ)
    (calls : List SinkCall) :
    (r.emit feedback.noted (w, calls)).value.2 =
      ((r.emit feedback w).value.2, calls ++ (r.feedback.map .send).toList) := by
  rw [value_emit, value_emit]
  cases r.feedback with
  | none =>
    simp only [Option.map_none, Option.toList_none, List.append_nil]
  | some f =>
    simp only [FeedbackSink.noted, Action.value_noting, Option.map_some, Option.toList_some]

/-- **The calls are noted and nothing else changes.** -/
theorem value_confirmAndEmit_noted (o : Onboarding) (events : EventSink σ)
    (feedback : FeedbackSink σ) (w : σ) (calls : List SinkCall) :
    (o.confirmAndEmit events.noted feedback.noted (w, calls)).value =
      ((o.confirmAndEmit events feedback w).value.1, (o.confirmAndEmit events feedback w).value.2,
        calls ++ o.callsMade) := by
  by_cases h : o.Sends
  · rw [value_confirmAndEmit_of_sends h, value_confirmAndEmit_of_sends h, callsMade, if_pos h]
    simp only [EventSink.noted, Action.value_noting, value_emit_noted, List.append_assoc,
      List.singleton_append]
    rfl
  · rw [value_confirmAndEmit_of_not_sends h, value_confirmAndEmit_of_not_sends h, callsMade,
      if_neg h, List.append_nil]

theorem value_step_confirm (o : Onboarding) (events : EventSink σ) (feedback : FeedbackSink σ)
    (w : σ) :
    (o.step events feedback .confirm w).value =
      ((.confirmed (o.confirmAndEmit events feedback w).value.1, o),
        (o.confirmAndEmit events feedback w).value.2) := rfl

/-! ### All that confirming does -/

/-- **What confirming does**, for every selection, and whatever the two sinks do when they are
called.

The answer, and the calls that are made, are the same for all sinks for feedback, and the
selection stays as it is.  It is refused if there is nothing to select from, or else if a selected
candidate violates a constraint, with all that the selected candidates violate in their order; no
sink is called then.  Otherwise the selected candidates are sent once, the feedback on them is
sent once if there is a task that it belongs to, and the answer tells where to go on and how many
were saved: all of them, or none for the reason that the sink for events gives. -/
theorem confirm_settles (o : Onboarding) (events : EventSink σ) (w : σ) (calls : List SinkCall) :
    ∃ answer made,
      (∀ feedback : FeedbackSink σ, ∃ w',
        (o.step events feedback .confirm w).value = ((.confirmed answer, o), w') ∧
        (o.step events.noted feedback.noted .confirm (w, calls)).value =
          ((.confirmed answer, o), w', calls ++ made) ∧
        (made = [] → w' = w)) ∧
      (answer = .error .nothingToConfirm ↔ o.candidates = []) ∧
      (∀ vs, answer = .error (.validation vs) ↔
        o.candidates ≠ [] ∧ (∃ d ∈ o.selected, d.violations ≠ []) ∧
          vs = o.selected.flatMap Definition.violations) ∧
      (∀ e, answer = .error e → made = []) ∧
      (o.candidates ≠ [] → (∀ d ∈ o.selected, d.violations = []) →
        made = .addEvents o.projectId o.selected ::
          (match o.taskId with
          | some t => [.send (.onSelection t o.telemetryProjectId o.selected)]
          | none => []) ∧
        answer = .ok {
          redirectTo := o.redirectTo
          savedCount := match (events.addEvents o.projectId o.selected w).value.1 with
            | .ok () => o.selected.length
            | .error _ => 0
          saveError := match (events.addEvents o.projectId o.selected w).value.1 with
            | .ok () => none
            | .error reason => some reason
          feedback := o.taskId.map fun t =>
            .onSelection t o.telemetryProjectId o.selected }) := by
  refine ⟨o.answer (events.addEvents o.projectId o.selected w).value.1, o.callsMade,
    fun feedback => ⟨(o.confirmAndEmit events feedback w).value.2, ?_, ?_, fun hmade => ?_⟩,
    answer_eq_nothingToConfirm_iff, fun vs => answer_eq_validation_iff, fun e he => ?_,
    fun hcandidates hfits => ⟨?_, ?_⟩⟩
  · rw [value_step_confirm, answer_confirmAndEmit]
  · rw [value_step_confirm, value_confirmAndEmit_noted, answer_confirmAndEmit]
  · rw [value_confirmAndEmit_of_not_sends (callsMade_eq_nil_iff.1 hmade)]
  · exact callsMade_eq_nil_iff.2 (answer_eq_error_iff.1 he).1
  · have hsends : o.Sends := ⟨hcandidates, hfits⟩
    rw [callsMade, if_pos hsends, value_feedbackOn]
    cases o.taskId <;> rfl
  · have hsends : o.Sends := ⟨hcandidates, hfits⟩
    rw [answer, if_pos hsends]
    unfold outcome
    rw [value_feedbackOn]
    cases (events.addEvents o.projectId o.selected w).value.1 <;> rfl

end EventDetection.Onboarding
