import EventDetection.Onboarding.Recorder
import EventDetection.Onboarding.Step
import EventDetection.Proofs.Onboarding.Selection
import Mathlib.Algebra.Ring.Parity

/-!
# Selections after a run

Candidates are set, from a template or as a list, and names are toggled; a selection may be
confirmed at any time.  What a run reaches does not depend on the sinks, and what is selected
depends on the candidates that were set last and on how often each name was toggled since.

* `Onboarding.value_run`: **a run reaches the same selection whatever the sinks do**
  (`Onboarding.after`).
* `OnboardingStep.StartsOver`, `OnboardingStep.Continues`: what sets candidates, and what does not.
* `Onboarding.Counts`: a flag that tells the parity of the toggles, and what it selects.
* `Onboarding.counts_run`: **a run counts from the last candidates on.**
* `Onboarding.selected_after_steps`: nothing else has an effect on what is selected.
-/

namespace EventDetection

namespace OnboardingStep

/-- A step that starts over with a list of candidates, in a given project. -/
inductive StartsOver (projectId orgId : String) : OnboardingStep → List Definition → Prop
  | selectTemplate (name : String) : StartsOver projectId orgId (.selectTemplate name)
      ((Template.named name).definitions projectId orgId)
  | setCandidates (candidates : List Definition) :
      StartsOver projectId orgId (.setCandidates candidates) candidates

/-- A step that leaves the candidates as they are. -/
inductive Continues : OnboardingStep → Prop
  | toggle (name : String) : Continues (.toggle name)
  | confirm : Continues .confirm

/-- The name that a step toggles. -/
def toggled? : OnboardingStep → Option String
  | .toggle name => some name
  | .selectTemplate _ | .setCandidates _ | .confirm => none

end OnboardingStep

namespace Onboarding

open OnboardingStep (toggled?)

variable {σ : Type} {o p : Onboarding} {x : OnboardingStep} {cs : List Definition}
  {later : List OnboardingStep}

/-! ### What a run reaches -/

/-- The selection after a step. -/
def after (o : Onboarding) : OnboardingStep → Onboarding
  | .selectTemplate name => (o.selectTemplate name).value
  | .setCandidates candidates => o.setCandidates candidates
  | .toggle name => o.toggle name
  | .confirm => o

theorem value_step (o : Onboarding) (events : EventSink σ) (feedback : FeedbackSink σ) (w : σ)
    (x : OnboardingStep) : (o.step events feedback x w).value.1.2 = o.after x := by
  cases x <;> rfl

/-- **A run reaches the same selection whatever the sinks do.** -/
theorem value_run (o : Onboarding) (events : EventSink σ) (feedback : FeedbackSink σ) (w : σ)
    (steps : List OnboardingStep) :
    (o.run events feedback steps w).value.1 = steps.foldl after o := by
  induction steps generalizing o w with
  | nil => rfl
  | cons x steps ih =>
    have hcons : (o.run events feedback (x :: steps) w).value =
        ((o.step events feedback x w).value.1.2.run events feedback steps
          (o.step events feedback x w).value.2).value := rfl
    rw [hcons, ih, value_step, List.foldl_cons]

theorem sameProject_foldl_after (o : Onboarding) (steps : List OnboardingStep) :
    (steps.foldl after o).projectId = o.projectId ∧ (steps.foldl after o).orgId = o.orgId := by
  refine List.foldlRecOn (motive := fun p => p.projectId = o.projectId ∧ p.orgId = o.orgId)
    steps after ⟨rfl, rfl⟩ fun p hp x _ => ?_
  cases x <;> exact hp

theorem after_of_startsOver (h : x.StartsOver o.projectId o.orgId cs) :
    ∃ p : Onboarding, o.after x = p.setCandidates cs := by
  cases h with
  | selectTemplate name => exact ⟨{ o with template := some (Template.named name) }, rfl⟩
  | setCandidates => exact ⟨o, rfl⟩

/-- Only the toggles matter among the steps that leave the candidates. -/
theorem foldl_after_of_continues (o : Onboarding) (h : ∀ y ∈ later, y.Continues) :
    later.foldl after o = (later.filterMap toggled?).foldl toggle o := by
  induction later generalizing o with
  | nil => rfl
  | cons y later ih =>
    have hrest := ih (o.after y) fun z hz => h z (List.mem_cons_of_mem y hz)
    have hy : y.Continues := h y List.mem_cons_self
    cases hy <;> exact hrest

/-! ### Flags that count -/

/-- The selection tells how often each name was toggled since the candidates were set: a flag is
what it was at first, which is whether a candidate has that name, turned over once for each toggle.
The candidates with a flag are selected, in their order. -/
structure Counts (o : Onboarding) (cs : List Definition) (names : List String) : Prop where
  flag : ∀ n, o.isSelected n = true ↔ Xor (n ∈ cs.map (·.name)) (Odd (names.count n))
  candidates : o.candidates = cs
  selected : o.selected = cs.filter fun d => o.isSelected d.name

/-- The same flags are set and the same candidates are selected. -/
structure SelectsLike (o p : Onboarding) : Prop where
  flag : ∀ n, o.isSelected n = p.isSelected n
  selected : o.selected = p.selected

theorem counts_foldl_toggle (o : Onboarding) (cs : List Definition) (names : List String) :
    (names.foldl toggle (o.setCandidates cs)).Counts cs names := by
  refine ⟨fun n => ?_, candidates_foldl_toggle o cs names, ?_⟩
  · rw [isSelected_foldl_toggle, isSelected_setCandidates, Nat.odd_iff]
    rcases Nat.mod_two_eq_zero_or_one (names.count n) with heven | hodd
    · rw [if_pos heven]
      simp [Xor, heven]
    · rw [if_neg (by omega)]
      simp [Xor, hodd]
  · rw [selected, candidates_foldl_toggle]

/-- Equal parities make equal selections. -/
theorem Counts.selectsLike {names others : List String} (ho : o.Counts cs names)
    (hp : p.Counts cs others) (h : ∀ n, Odd (names.count n) ↔ Odd (others.count n)) :
    o.SelectsLike p := by
  have hflag (n : String) : o.isSelected n = p.isSelected n := by
    rw [Bool.eq_iff_iff, ho.flag, hp.flag, h]
  refine ⟨hflag, ?_⟩
  rw [ho.selected, hp.selected]
  exact List.filter_congr fun d _ => hflag d.name

/-- **A run counts from the last candidates on.** -/
theorem counts_run (hx : x.StartsOver o.projectId o.orgId cs) (hlater : ∀ y ∈ later, y.Continues)
    (events : EventSink σ) (feedback : FeedbackSink σ) (w : σ) (before : List OnboardingStep) :
    (o.run events feedback (before ++ x :: later) w).value.1.Counts cs
      (later.filterMap toggled?) := by
  obtain ⟨hproject, horg⟩ := sameProject_foldl_after o before
  rw [← hproject, ← horg] at hx
  obtain ⟨q, hq⟩ := after_of_startsOver hx
  rw [value_run, List.foldl_append, List.foldl_cons, hq, foldl_after_of_continues _ hlater]
  exact counts_foldl_toggle q cs _

theorem count_toggled_twice (n name : String) (one two three : List OnboardingStep) :
    ((one ++ .toggle name :: two ++ .toggle name :: three).filterMap
        toggled?).count n =
      ((one ++ two ++ three).filterMap toggled?).count n +
        2 * [name].count n := by
  simp only [List.filterMap_append, List.filterMap_cons, toggled?,
    List.count_append, List.count_cons, List.count_nil]
  omega

/-- Candidates are set after any steps, and names are toggled.  **A name is selected exactly if it
is that of a candidate or was toggled an odd number of times, but not both**, and the candidates
with a selected name are selected.  Whatever was done before, the order of the toggles, two toggles
of one name, and all that is confirmed in between have no effect on it. -/
theorem selected_after_steps (hx : x.StartsOver o.projectId o.orgId cs)
    (hlater : ∀ y ∈ later, y.Continues) (events : EventSink σ) (feedback : FeedbackSink σ) (w : σ)
    (before : List OnboardingStep) :
    (o.run events feedback (before ++ x :: later) w).value.1.Counts cs
      (later.filterMap toggled?) ∧
    (∀ (τ : Type) (events' : EventSink τ) (feedback' : FeedbackSink τ) (w' : τ) (p : Onboarding)
        (y : OnboardingStep) (before' later' : List OnboardingStep),
      y.StartsOver p.projectId p.orgId cs → (∀ z ∈ later', z.Continues) →
      (later'.filterMap toggled?).Perm
        (later.filterMap toggled?) →
      (o.run events feedback (before ++ x :: later) w).value.1.SelectsLike
        (p.run events' feedback' (before' ++ y :: later') w').value.1) ∧
    ∀ name one two three, later = one ++ two ++ three →
      (o.run events feedback (before ++ x :: later) w).value.1.SelectsLike
        (o.run events feedback
          (before ++ x :: (one ++ .toggle name :: two ++ .toggle name :: three)) w).value.1 := by
  have hcounts := counts_run hx hlater events feedback w before
  refine ⟨hcounts, ?_, ?_⟩
  · intro τ events' feedback' w' p y before' later' hy hlater' hperm
    refine hcounts.selectsLike (counts_run hy hlater' events' feedback' w' before') fun n => ?_
    rw [hperm.count_eq]
  · rintro name one two three rfl
    have hlonger : ∀ z ∈ one ++ .toggle name :: two ++ .toggle name :: three, z.Continues := by
      intro z hz
      simp only [List.mem_append, List.mem_cons] at hz hlater
      rcases hz with (hz | rfl | hz) | rfl | hz
      · exact hlater z (.inl (.inl hz))
      · exact .toggle name
      · exact hlater z (.inl (.inr hz))
      · exact .toggle name
      · exact hlater z (.inr hz)
    refine hcounts.selectsLike (counts_run hx hlonger events feedback w before) fun n => ?_
    rw [count_toggled_twice, Nat.odd_add]
    simp

/-! ### Two candidates of one name -/

/-- A candidate of a given name. -/
def candidate (name description : String) : Definition where
  projectId := "p1"
  orgId := "o1"
  name := name
  description := description

/-- Two of the candidates have the same name. -/
def twins : List Definition :=
  [candidate "Refund" "The user asks about a refund.", candidate "Angry" "The user is angry.",
    candidate "Refund" "The user got a refund."]

/-- Toggles of the name of the twins, of a name that no candidate has, and twice of the third. -/
def untickingTwins : List OnboardingStep :=
  [.toggle "Angry", .toggle "Refund", .confirm, .toggle "Nobody", .toggle "Angry"]

/-- A new project, before anything is done. -/
def untouched : Onboarding where
  projectId := "p1"
  orgId := "o1"
  taskId := none
  telemetryProjectId := "t1"

/-- The twins are unticked after the name was toggled among other candidates. -/
def onTwins : Onboarding :=
  (untouched.run (Recorder.eventSink false) (Recorder.feedbackSink false)
    ([.selectTemplate "Text generation", .toggle "Refund"] ++
      .setCandidates twins :: untickingTwins) {}).value.1

/-- Neither of the twins is selected, and the name of nobody is. -/
theorem selected_after_steps_twins :
    OnboardingStep.StartsOver untouched.projectId untouched.orgId (.setCandidates twins) twins ∧
      (∀ y ∈ untickingTwins, y.Continues) ∧
      onTwins.isSelected "Refund" = false ∧ onTwins.isSelected "Nobody" = true ∧
      onTwins.selected = [candidate "Angry" "The user is angry."] := by
  have hx : OnboardingStep.StartsOver untouched.projectId untouched.orgId (.setCandidates twins)
      twins := .setCandidates twins
  have hlater : ∀ y ∈ untickingTwins, y.Continues := by
    intro y hy
    simp only [untickingTwins, List.mem_cons, List.not_mem_nil, or_false] at hy
    rcases hy with rfl | rfl | rfl | rfl | rfl <;> constructor
  have hcounts : onTwins.Counts twins (untickingTwins.filterMap toggled?) :=
    (selected_after_steps hx hlater _ _ _ _).1
  have hrefund : onTwins.isSelected "Refund" = false := by
    rw [Bool.eq_false_iff, Ne, hcounts.flag]
    decide
  have hangry : onTwins.isSelected "Angry" = true := (hcounts.flag _).2 (by decide)
  refine ⟨hx, hlater, hrefund, (hcounts.flag _).2 (by decide), ?_⟩
  rw [hcounts.selected]
  simp [twins, candidate, hrefund, hangry]

end Onboarding

end EventDetection
